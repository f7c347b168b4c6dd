import VelaExternal.Ethercat.KthreadProperties

/-! When the record of a kernel thread outlives the thread: `kthread_stop` frees it after a
wait whose result nobody looks at. -/

set_option autoImplicit false

namespace VelaExternal.Ethercat

open Systems

namespace Kthread

/-- The caller frees the record after the thread function has returned and the post is made. -/
def FreesLate (before : Kthread) (event : KthreadEvent) (_ : Kthread) : Prop :=
  match event with
  | .free => ∀ t ret, before.caller = .free t ret → before.worker = .exited t
  | _ => True

/-- The thread touches its record while it is there. -/
def TouchesLive (state : Kthread) : Prop :=
  ∀ touch ∈ state.touches, some touch.address = state.caller.created → touch.live = true

structure FreedOnce (state : Kthread) : Prop where
  unfreed : state.caller = .kmalloc ∨ state.caller.record ≠ none → state.frees = []
  stopped : ∀ t, state.caller = .stopped t → state.frees = [t]
  once : state.frees.length ≤ 1

theorem FreedOnce.keep {state after : Kthread} (freedOnce : FreedOnce state)
    (frees : after.frees = state.frees) (unfreed : after.caller.record ≠ none →
      state.caller = .kmalloc ∨ state.caller.record ≠ none)
    (begun : after.caller ≠ .kmalloc) (unstopped : ∀ t, after.caller ≠ .stopped t) :
    FreedOnce after where
  unfreed keeps := by
    rw [frees]
    exact freedOnce.unfreed (unfreed (keeps.resolve_left begun))
  stopped t stopped := absurd stopped (unstopped t)
  once := frees ▸ freedOnce.once

theorem FreedOnce.goOn {state after : Kthread} {t : Nat} (freedOnce : FreedOnce state)
    (own : state.caller.record = some t) (frees : after.frees = state.frees)
    (begun : after.caller ≠ .kmalloc) (unstopped : ∀ t, after.caller ≠ .stopped t) :
    FreedOnce after := by
  apply freedOnce.keep frees
  · intro _
    simp [own]
  · exact begun
  · exact unstopped

@[simp] theorem frees_postExit (state : Kthread) (t : Nat) :
    (state.postExit t).frees = state.frees := by
  unfold postExit
  split
  · rfl
  · split <;> rfl

/-- The caller waits for the thread to post, and goes on when it has. -/
inductive PostExit (state : Kthread) (t : Nat) : Prop where
  | woken (waiting : state.caller = .waiting t) (goes : (state.postExit t).caller = .free t 0)
  | kept (goes : (state.postExit t).caller = state.caller)

private theorem postExit_caller {earlier : TaskPointer} {state : Kthread} {t : Nat}
    (linked : Linked earlier state) (created : state.caller.created = some t) :
    PostExit state t := by
  rcases record_of_created created with ⟨own, prepared⟩ | stopped
  · obtain ⟨record, live, -⟩ := linked.live t own
    have tended := linked.tended own prepared live
    by_cases waiting : state.caller = .waiting t
    · apply PostExit.woken waiting
      have member : () ∈ record.semexit.blocked := by simp [tended.blocked, waiting]
      simp [postExit, live, member]
    · apply PostExit.kept
      have idle : () ∉ record.semexit.blocked := by simp [tended.blocked, waiting]
      simp [postExit, live, idle, setRecord]
  · apply PostExit.kept
    simp [postExit, linked.freed t stopped]

private theorem freedOnce_step {earlier : TaskPointer} {state after : Kthread} {event : KthreadEvent}
    (linked : Linked earlier state) (freedOnce : FreedOnce state)
    (steps : Steps state event after) :
    FreedOnce after := by
  cases steps with
  | kmalloc t contents at_kmalloc unused =>
      exact freedOnce.keep rfl (fun _ => .inl at_kmalloc) (by simp) (by simp)
  | kmallocFailed at_kmalloc =>
      exact freedOnce.keep rfl (fun _ => .inl at_kmalloc) (by simp) (by simp)
  | createFailed code t at_create =>
      have unfreed := freedOnce.unfreed (.inr (by simp [at_create, CallerPc.record]))
      constructor
      · intro keeps
        simp [CallerPc.record] at keeps
      · simp
      · simp [freeRecord, setRecord, unfreed]
  | free t ret at_free =>
      have unfreed := freedOnce.unfreed (.inr (by simp [at_free, CallerPc.record]))
      constructor
      · intro keeps
        simp [CallerPc.record] at keeps
      · intro other stopped
        cases stopped
        simp [freeRecord, setRecord, unfreed]
      · simp [freeRecord, setRecord, unfreed]
  | assign result at_return =>
      refine freedOnce.keep rfl (fun owns => .inr ?_) (by simp) (by simp)
      rw [at_return]
      cases result with
      | task t => simp [CallerPc.record]
      | null => exact absurd rfl owns
      | error code => exact absurd rfl owns
  | setFields threadfn data t record at_fields live =>
      exact freedOnce.goOn (by rw [at_fields]; rfl) rfl (by simp) (by simp)
  | create pid t at_create =>
      exact freedOnce.goOn (by rw [at_create]; rfl) rfl (by simp) (by simp)
  | setThreadid t ret record at_threadid live =>
      exact freedOnce.goOn (by rw [at_threadid]; rfl) rfl (by simp) (by simp)
  | stop t record at_stop live =>
      exact freedOnce.goOn (by rw [at_stop]; rfl) rfl (by simp) (by simp)
  | semTaken t record at_wait live available =>
      exact freedOnce.goOn (by rw [at_wait]; rfl) rfl (by simp) (by simp)
  | semBlocked t record at_wait live unavailable =>
      exact freedOnce.goOn (by rw [at_wait]; rfl) rfl (by simp) (by simp)
  | interrupt t record at_wait live member =>
      exact freedOnce.goOn (by rw [at_wait]; rfl) rfl (by simp) (by simp)
  | enter t at_entry => exact { freedOnce with }
  | stopTest t other at_test pointer => exact { freedOnce with }
  | stopTestAstray t at_test pointer => exact freedOnce
  | leave t at_test => exact { freedOnce with }
  | post t at_post =>
      have created : state.caller.created = some t := by
        rw [← linked.worker, at_post]
        rfl
      have touched : Linked earlier (state.touch t) := linked.quiet rfl rfl rfl rfl
      have frees : ((state.touch t).postExit t).frees = state.frees := frees_postExit ..
      cases postExit_caller touched created with
      | woken waiting goes =>
          refine freedOnce.keep frees (fun _ => .inr ?_) ?_ ?_
          · change state.caller = .waiting t at waiting
            simp [waiting, CallerPc.record]
          · simp [goes]
          · simp [goes]
      | kept goes =>
          constructor
          · rw [frees, goes]
            exact freedOnce.unfreed
          · rw [frees, goes]
            exact freedOnce.stopped
          · rw [frees]
            exact freedOnce.once

/-- Without interruptions the caller gets past its wait only after the post. -/
structure Safe (state : Kthread) : Prop where
  posted : ∀ t record, state.caller.record = some t → state.caller ≠ .setFields t →
    state.records t = some record → 0 < record.semexit.count → state.worker = .exited t
  taken : ∀ t ret, state.caller = .free t ret → state.worker = .exited t
  ended : ∀ t, state.caller = .stopped t → state.worker = .exited t
  touches : state.TouchesLive
  untouched : state.caller.created = none → state.touches = []

private theorem touchesLive_of_nil {state : Kthread} (none_yet : state.touches = []) :
    state.TouchesLive := by
  intro touch member
  rw [none_yet] at member
  cases member

theorem Safe.move {state : Kthread} (safe : Safe state) {caller : CallerPc} {t : Nat}
    {record : TaskStruct} (own : caller.record = some t)
    (created : caller.created = state.caller.created)
    (posted : caller ≠ .setFields t → 0 < record.semexit.count → state.worker = .exited t)
    (taken : ∀ ret, caller = .free t ret → state.worker = .exited t) :
    Safe { state.setRecord t (some record) with caller } where
  posted other found same prepared live positive := by
    have rewritten : some t = some other := own.symm.trans same
    cases rewritten
    cases (setRecord_self state t (some record)).symm.trans live
    exact posted prepared positive
  taken other ret freeing := by
    change caller = .free other ret at freeing
    rw [freeing] at own
    cases own
    exact taken ret freeing
  ended other stopped := by
    change caller = .stopped other at stopped
    rw [stopped] at own
    cases own
  touches := by
    intro touch member named
    exact safe.touches touch member (named.trans created)
  untouched absent := safe.untouched (created.symm.trans absent)

private theorem live_of_running {earlier : TaskPointer} {state : Kthread} {t : Nat}
    (linked : Linked earlier state) (safe : Safe state) (created : state.caller.created = some t)
    (unfinished : state.worker ≠ .exited t) : (state.records t).isSome = true := by
  rcases record_of_created created with ⟨own, -⟩ | stopped
  · obtain ⟨record, live, -⟩ := linked.live t own
    rw [live]
    rfl
  · exact absurd (safe.ended t stopped) unfinished

private theorem touchesLive_touch {state : Kthread} {t other : Nat} (touches : state.TouchesLive)
    (created : state.caller.created = some t) (live : (state.records t).isSome = true) :
    (state.touch other).TouchesLive := by
  intro touch member named
  rcases List.mem_append.mp member with earlier | added
  · exact touches touch earlier named
  · cases List.mem_singleton.mp added
    cases named.trans created
    exact live

theorem Safe.work {state after : Kthread} {t : Nat} (safe : Safe state)
    (created : state.caller.created = some t) (unfinished : ∀ other, state.worker ≠ .exited other)
    (records : after.records = state.records) (caller : after.caller = state.caller)
    (touches : after.TouchesLive) : Safe after where
  posted other record := by
    rw [caller, records]
    intro own prepared live positive
    exact absurd (safe.posted other record own prepared live positive) (unfinished other)
  taken other ret freeing := absurd (safe.taken other ret (caller ▸ freeing)) (unfinished other)
  ended other stopped := absurd (safe.ended other (caller ▸ stopped)) (unfinished other)
  touches := touches
  untouched absent := by
    rw [caller, created] at absent
    cases absent

@[simp] theorem touches_postExit (state : Kthread) (t : Nat) :
    (state.postExit t).touches = state.touches := by
  unfold postExit
  split
  · rfl
  · split <;> rfl

private theorem safe_post {earlier : TaskPointer} {state : Kthread} {t : Nat}
    (linked : Linked earlier state) (safe : Safe state) (at_post : state.worker = .post t) :
    Safe { (state.touch t).postExit t with worker := .exited t } := by
  have created : state.caller.created = some t := by
    rw [← linked.worker, at_post]
    rfl
  have touched : Linked earlier (state.touch t) := linked.quiet rfl rfl rfl rfl
  have same : ((state.touch t).postExit t).caller.created = some t := by
    rw [← (linked_postExit touched created).worker, worker_postExit]
    exact congrArg WorkerPc.record at_post
  have named {other : Nat} (reached : some other = ((state.touch t).postExit t).caller.created) :
      WorkerPc.exited t = .exited other := by
    cases reached.trans same
    rfl
  constructor
  · intro other record own prepared live positive
    rcases record_of_created same with ⟨record_own, -⟩ | stopped
    · cases own.symm.trans record_own
      rfl
    · change ((state.touch t).postExit t).caller.record = some other at own
      rw [stopped] at own
      cases own
  · intro other ret freeing
    change ((state.touch t).postExit t).caller = .free other ret at freeing
    exact named (by rw [freeing]; rfl)
  · intro other stopped
    change ((state.touch t).postExit t).caller = .stopped other at stopped
    exact named (by rw [stopped]; rfl)
  · have live := live_of_running linked safe created (by simp [at_post])
    have touches : (state.touch t).TouchesLive := touchesLive_touch safe.touches created live
    intro touch member reached
    change touch ∈ ((state.touch t).postExit t).touches at member
    rw [touches_postExit] at member
    exact touches touch member (reached.trans (same.trans created.symm))
  · intro absent
    cases absent.symm.trans same

private theorem safe_step {earlier : TaskPointer} {state after : Kthread} {event : KthreadEvent}
    (linked : Linked earlier state) (safe : Safe state) (steps : Steps state event after)
    (undisturbed : event ≠ .interrupt) : Safe after := by
  cases steps with
  | kmalloc t contents at_kmalloc unused =>
      exact safe.move rfl (by rw [at_kmalloc]; rfl) (fun prepared => absurd rfl prepared) (by simp)
  | kmallocFailed at_kmalloc =>
      have untouched := safe.untouched (by rw [at_kmalloc]; rfl)
      exact ⟨nofun, nofun, nofun, touchesLive_of_nil untouched, fun _ => untouched⟩
  | setFields threadfn data t record at_fields live =>
      refine safe.move rfl (by rw [at_fields]; rfl) (fun _ positive => ?_) (by simp)
      cases positive
  | create pid t at_create =>
      have untouched := safe.untouched (by rw [at_create]; rfl)
      have worker := linked.worker
      rw [at_create] at worker
      constructor
      · intro other record own prepared live positive
        cases own
        have exited := safe.posted t record (by rw [at_create]; rfl) (by simp [at_create])
          live positive
        rw [exited] at worker
        cases worker
      · simp
      · simp
      · exact touchesLive_of_nil untouched
      · exact nofun
  | createFailed code t at_create =>
      have untouched := safe.untouched (by rw [at_create]; rfl)
      exact ⟨nofun, nofun, nofun, touchesLive_of_nil untouched, fun _ => untouched⟩
  | setThreadid t ret record at_threadid live =>
      refine safe.move rfl (by rw [at_threadid]; rfl) (fun _ positive => ?_) (by simp)
      exact safe.posted t record (by rw [at_threadid]; rfl) (by simp [at_threadid]) live
        positive
  | assign result at_return =>
      have untouched := safe.untouched
      have touches := safe.touches
      have posted := safe.posted
      unfold TouchesLive at touches
      rw [at_return] at untouched touches posted
      cases result with
      | task t =>
          constructor
          · intro other record own prepared live positive
            exact posted other record own (by simp) live positive
          · simp
          · simp
          · exact touches
          · exact nofun
      | null => exact ⟨nofun, nofun, nofun, touches, untouched⟩
      | error code => exact ⟨nofun, nofun, nofun, touches, untouched⟩
  | stop t record at_stop live =>
      refine safe.move rfl (by rw [at_stop]; rfl) (fun _ positive => ?_) (by simp)
      exact safe.posted t record (by rw [at_stop]; rfl) (by simp [at_stop]) live positive
  | semTaken t record at_wait live available =>
      have exited := safe.posted t record (by rw [at_wait]; rfl) (by simp [at_wait]) live
        available
      exact safe.move rfl (by rw [at_wait]; rfl) (fun _ _ => exited) fun _ _ => exited
  | semBlocked t record at_wait live unavailable =>
      refine safe.move rfl (by rw [at_wait]; rfl) (fun _ positive => ?_) (by simp)
      have decremented : 0 < record.semexit.count - 1 := positive
      unfold Semaphore.Available at unavailable
      omega
  | interrupt t record at_wait live member => exact absurd rfl undisturbed
  | free t ret at_free =>
      have exited := safe.taken t ret at_free
      have touches := safe.touches
      unfold TouchesLive at touches
      rw [at_free] at touches
      constructor
      · exact nofun
      · simp
      · intro other stopped
        cases stopped
        exact exited
      · exact touches
      · exact nofun
  | enter t at_entry =>
      have created : state.caller.created = some t := by
        rw [← linked.worker, at_entry]
        rfl
      have live := live_of_running linked safe created (by simp [at_entry])
      exact safe.work created (by simp [at_entry]) rfl rfl
        (touchesLive_touch safe.touches created live)
  | stopTest t other at_test pointer =>
      have created : state.caller.created = some t := by
        rw [← linked.worker, at_test]
        rfl
      have live := live_of_running linked safe created (by simp [at_test])
      exact safe.work created (by simp [at_test]) rfl rfl
        (touchesLive_touch safe.touches created live)
  | stopTestAstray t at_test pointer => exact safe
  | leave t at_test =>
      have created : state.caller.created = some t := by
        rw [← linked.worker, at_test]
        rfl
      exact safe.work created (by simp [at_test]) rfl rfl safe.touches
  | post t at_post => exact safe_post linked safe at_post

/-- In a run in which no signal interrupts the wait of `kthread_stop`, the record is freed
after the thread has posted, nobody touches it afterwards, and it is freed once. -/
theorem record_outlives_thread (records : Nat → Option TaskStruct) (earlier : TaskPointer)
    {events : List KthreadEvent} {final : Kthread}
    (undisturbed : ∀ event ∈ events, event ≠ .interrupt)
    (reached : run step (initial records earlier) events = some final) :
    Along step FreesLate (initial records earlier) events ∧ final.TouchesLive ∧
      final.frees.length ≤ 1 ∧ ∀ t, final.caller = .stopped t → final.frees = [t] := by
  let holds (state : Kthread) : Prop := Linked earlier state ∧ FreedOnce state ∧ Safe state
  have start : holds (initial records earlier) :=
    ⟨linked_initial records earlier, ⟨fun _ => rfl, nofun, Nat.zero_le 1⟩,
      ⟨nofun, nofun, nofun, touchesLive_of_nil rfl, fun _ => rfl⟩⟩
  have conditions : Along step (fun _ event _ => event ≠ .interrupt) (initial records earlier)
      events := along_of_forall_mem undisturbed
  have keeps : ∀ before event after, holds before → step before event = some after →
      event ≠ .interrupt → holds after := by
    intro before event after held stepped quiet
    obtain ⟨linked, freedOnce, safe⟩ := held
    have steps := step_eq_some stepped
    exact ⟨linked_step linked steps, freedOnce_step linked freedOnce steps,
      safe_step linked safe steps quiet⟩
  obtain ⟨-, freedOnce, safe⟩ := run_invariant_along keeps start conditions reached
  refine ⟨?_, safe.touches, freedOnce.once, freedOnce.stopped⟩
  refine along_of_invariant ?_ start conditions
  intro before event after held stepped quiet
  constructor
  · exact keeps before event after held stepped quiet
  · cases event with
    | free => exact held.2.2.taken
    | _ => trivial

def stoppedThread : List KthreadEvent :=
  [.kmalloc 1 garbage, .setFields 7 8, .create 20, .setThreadid, .assign, .enter, .stopTest,
   .stop, .semWait, .stopTest, .leave, .post, .free]

theorem record_outlives_stopped_thread :
    ∃ final, run step (initial (fun _ => none) .null) stoppedThread = some final ∧
      final.caller = .stopped 1 ∧ final.frees = [1] ∧ final.touches.length = 4 ∧
      final.TouchesLive := by
  have undisturbed : ∀ event ∈ stoppedThread, event ≠ .interrupt := by
    simp [stoppedThread]
  have reached : run step (initial (fun _ => none) .null) stoppedThread = some _ := rfl
  have outlives := record_outlives_thread (fun _ => none) .null undisturbed reached
  exact ⟨_, reached, rfl, outlives.2.2.2 1 rfl, rfl, outlives.2.1⟩

/-- A signal ends the wait, and the thread tests its flag in a record that is gone. -/
theorem record_freed_by_interrupted_stop :
    ∃ final, run step (initial (fun _ => none) .null)
        [.kmalloc 1 garbage, .setFields 7 8, .create 20, .setThreadid, .assign, .enter, .stop,
          .semWait, .interrupt, .free, .stopTest] = some final ∧
      final.worker = .threadfn 1 ∧ final.frees = [1] ∧ ¬ final.TouchesLive := by
  refine ⟨_, rfl, rfl, rfl, ?_⟩
  intro touches
  exact absurd (touches ⟨1, false⟩ (List.mem_cons_of_mem _ (List.mem_singleton_self _)) rfl) nofun

end Kthread

end VelaExternal.Ethercat
