import VelaExternal.Ethercat.Kthread

/-! When the stop test of a kernel thread answers for that thread: it goes through
`master->thread`, which is assigned only after the thread may have run. -/

set_option autoImplicit false

namespace VelaExternal.Ethercat

open Systems

def CallerPc.record : CallerPc → Option Nat
  | .setFields t | .kthreadCreate t | .setThreadid t _ | .returned (.task t)
  | .assigned (.task t) | .semWait t | .waiting t | .free t _ => some t
  | _ => none

/-- The record of the thread, once there is a thread. -/
def CallerPc.created : CallerPc → Option Nat
  | .setThreadid t _ | .returned (.task t) | .assigned (.task t) | .semWait t | .waiting t
  | .free t _ | .stopped t => some t
  | _ => none

def CallerPc.assignedTo : CallerPc → Option TaskPointer
  | .assigned result => some result
  | .semWait t | .waiting t | .free t _ | .stopped t => some (.task t)
  | _ => none

def CallerPc.stopCalled : CallerPc → Bool
  | .semWait _ | .waiting _ | .free _ _ | .stopped _ => true
  | _ => false

def WorkerPc.record : WorkerPc → Option Nat
  | .absent => none
  | .entry t | .threadfn t | .post t | .exited t => some t

namespace Kthread

/-!
## Steps
-/

inductive Steps (state : Kthread) : KthreadEvent → Kthread → Prop where
  | kmalloc (t : Nat) (contents : TaskStruct) (at_kmalloc : state.caller = .kmalloc)
      (unused : state.records t = none) :
      Steps state (.kmalloc t contents)
        { state.setRecord t (some contents) with caller := .setFields t }
  | kmallocFailed (at_kmalloc : state.caller = .kmalloc) :
      Steps state .kmallocFailed { state with caller := .returned (.error (-enomem)) }
  | setFields (threadfn data t : Nat) (record : TaskStruct)
      (at_fields : state.caller = .setFields t) (live : state.records t = some record) :
      Steps state (.setFields threadfn data)
        { state.setRecord t (some
            { record with running := true, threadfn, data, semexit := .init 0 }) with
          caller := .kthreadCreate t }
  | create (pid t : Nat) (at_create : state.caller = .kthreadCreate t) :
      Steps state (.create pid) { state with caller := .setThreadid t pid, worker := .entry t }
  | createFailed (code t : Nat) (at_create : state.caller = .kthreadCreate t) :
      Steps state (.createFailed code)
        { state.freeRecord t with caller := .returned (.error (-(code + 1))) }
  | setThreadid (t : Nat) (ret : Int) (record : TaskStruct)
      (at_threadid : state.caller = .setThreadid t ret) (live : state.records t = some record) :
      Steps state .setThreadid
        { state.setRecord t (some { record with threadid := ret }) with
          caller := .returned (.task t) }
  | assign (result : TaskPointer) (at_return : state.caller = .returned result) :
      Steps state .assign { state with master := result, caller := .assigned result }
  | stop (t : Nat) (record : TaskStruct) (at_stop : state.caller = .assigned (.task t))
      (live : state.records t = some record) :
      Steps state .stop
        { state.setRecord t (some { record with running := false }) with caller := .semWait t }
  | semTaken (t : Nat) (record : TaskStruct) (at_wait : state.caller = .semWait t)
      (live : state.records t = some record) (available : record.semexit.Available) :
      Steps state .semWait
        { state.setRecord t (some { record with semexit := record.semexit.take available }) with
          caller := .free t 0 }
  | semBlocked (t : Nat) (record : TaskStruct) (at_wait : state.caller = .semWait t)
      (live : state.records t = some record) (unavailable : ¬ record.semexit.Available) :
      Steps state .semWait
        { state.setRecord t (some
            { record with semexit := record.semexit.block () unavailable }) with
          caller := .waiting t }
  | interrupt (t : Nat) (record : TaskStruct) (at_wait : state.caller = .waiting t)
      (live : state.records t = some record) (member : () ∈ record.semexit.blocked) :
      Steps state .interrupt
        { state.setRecord t (some
            { record with semexit := record.semexit.release () member }) with
          caller := .free t (-4) }
  | free (t : Nat) (ret : Int) (at_free : state.caller = .free t ret) :
      Steps state .free { state.freeRecord t with caller := .stopped t }
  | enter (t : Nat) (at_entry : state.worker = .entry t) :
      Steps state .enter { state.touch t with worker := .threadfn t }
  | stopTest (t other : Nat) (at_test : state.worker = .threadfn t)
      (pointer : state.master = .task other) : Steps state .stopTest (state.touch other)
  | stopTestAstray (t : Nat) (at_test : state.worker = .threadfn t)
      (pointer : ∀ other, state.master ≠ .task other) : Steps state .stopTest state
  | leave (t : Nat) (at_test : state.worker = .threadfn t) :
      Steps state .leave { state with worker := .post t }
  | post (t : Nat) (at_post : state.worker = .post t) :
      Steps state .post { (state.touch t).postExit t with worker := .exited t }

theorem step_eq_some {state after : Kthread} {event : KthreadEvent}
    (stepped : state.step event = some after) : Steps state event after := by
  cases event with
  | kmalloc t contents =>
      cases at_kmalloc : state.caller <;> cases unused : state.records t <;>
        simp [step, stepCaller, stepWorker, at_kmalloc, unused] at stepped
      cases stepped
      exact .kmalloc t contents at_kmalloc unused
  | kmallocFailed =>
      cases at_kmalloc : state.caller <;>
        simp [step, stepCaller, stepWorker, at_kmalloc] at stepped
      cases stepped
      exact .kmallocFailed at_kmalloc
  | setFields threadfn data =>
      cases at_fields : state.caller <;>
        simp [step, stepCaller, stepWorker, at_fields] at stepped
      obtain ⟨record, live, rfl⟩ := stepped
      exact .setFields threadfn data _ record at_fields live
  | create pid =>
      cases at_create : state.caller <;>
        simp [step, stepCaller, stepWorker, at_create] at stepped
      cases stepped
      exact .create pid _ at_create
  | createFailed code =>
      cases at_create : state.caller with
      | kthreadCreate t =>
          simp only [step, stepCaller, at_create, Option.orElse_eq_orElse, Option.orElse_some,
            Option.some.injEq] at stepped
          cases stepped
          exact .createFailed code t at_create
      | _ => simp [step, stepCaller, stepWorker, at_create] at stepped
  | setThreadid =>
      cases at_threadid : state.caller <;>
        simp [step, stepCaller, stepWorker, at_threadid] at stepped
      obtain ⟨record, live, rfl⟩ := stepped
      exact .setThreadid _ _ record at_threadid live
  | assign =>
      cases at_return : state.caller <;>
        simp [step, stepCaller, stepWorker, at_return] at stepped
      cases stepped
      exact .assign _ at_return
  | stop =>
      cases at_stop : state.caller with
      | assigned result =>
          cases result <;> simp [step, stepCaller, stepWorker, at_stop] at stepped
          obtain ⟨record, live, rfl⟩ := stepped
          exact .stop _ record at_stop live
      | _ => simp [step, stepCaller, stepWorker, at_stop] at stepped
  | semWait =>
      cases at_wait : state.caller <;>
        simp [step, stepCaller, stepWorker, at_wait] at stepped
      obtain ⟨record, live, rfl⟩ := stepped
      split
      · exact .semTaken _ record at_wait live _
      · exact .semBlocked _ record at_wait live _
  | interrupt =>
      cases at_wait : state.caller <;>
        simp [step, stepCaller, stepWorker, at_wait, Option.bind_eq_some_iff] at stepped
      obtain ⟨record, live, member, rfl⟩ := stepped
      exact .interrupt _ record at_wait live member
  | free =>
      cases at_free : state.caller <;>
        simp [step, stepCaller, stepWorker, at_free] at stepped
      cases stepped
      exact .free _ _ at_free
  | enter =>
      cases at_entry : state.worker <;>
        simp [step, stepCaller, stepWorker, at_entry] at stepped
      cases stepped
      exact .enter _ at_entry
  | stopTest =>
      cases at_test : state.worker <;> cases pointer : state.master <;>
        simp [step, stepCaller, stepWorker, at_test, pointer] at stepped
      all_goals cases stepped
      · exact .stopTestAstray _ at_test (by simp [pointer])
      · exact .stopTest _ _ at_test pointer
      · exact .stopTestAstray _ at_test (by simp [pointer])
  | leave =>
      cases at_test : state.worker <;>
        simp [step, stepCaller, stepWorker, at_test] at stepped
      cases stepped
      exact .leave _ at_test
  | post =>
      cases at_post : state.worker <;>
        simp [step, stepCaller, stepWorker, at_post] at stepped
      cases stepped
      exact .post _ at_post

/-!
## The caller and its record
-/

@[simp] theorem setRecord_self (state : Kthread) (t : Nat) (record : Option TaskStruct) :
    (state.setRecord t record).records t = record := Function.update_self ..

@[simp] theorem freeRecord_self (state : Kthread) (t : Nat) :
    (state.freeRecord t).records t = none := Function.update_self ..

/-- A record as the caller keeps it: its flag tells whether the thread was stopped, and
nobody but the caller waits at its semaphore. -/
structure Tended (caller : CallerPc) (t : Nat) (record : TaskStruct) : Prop where
  running : record.running = !caller.stopCalled
  blocked : record.semexit.blocked = if caller = .waiting t then [()] else []

structure Linked (earlier : TaskPointer) (state : Kthread) : Prop where
  worker : state.worker.record = state.caller.created
  master : state.master = state.caller.assignedTo.getD earlier
  live : ∀ t, state.caller.record = some t → ∃ record, state.records t = some record ∧
    (state.caller = .setFields t ∨ Tended state.caller t record)
  freed : ∀ t, state.caller = .stopped t → state.records t = none

theorem Linked.tended {earlier : TaskPointer} {state : Kthread} (linked : Linked earlier state)
    {t : Nat} {record : TaskStruct} (own : state.caller.record = some t)
    (prepared : state.caller ≠ .setFields t) (live : state.records t = some record) :
    Tended state.caller t record := by
  obtain ⟨found, stored, tended⟩ := linked.live t own
  rw [live] at stored
  cases stored
  exact tended.resolve_left prepared

theorem Linked.move {earlier : TaskPointer} {state : Kthread} (linked : Linked earlier state)
    {caller : CallerPc} {t : Nat} {record : TaskStruct}
    (created : caller.created = state.caller.created)
    (assigned : caller.assignedTo = state.caller.assignedTo) (own : caller.record = some t)
    (tended : Tended caller t record) :
    Linked earlier { state.setRecord t (some record) with caller } where
  worker := linked.worker.trans created.symm
  master := by
    rw [assigned]
    exact linked.master
  live other same := by
    have rewritten : some t = some other := own.symm.trans same
    cases rewritten
    exact ⟨record, setRecord_self .., .inr tended⟩
  freed other stopped := by
    change caller = .stopped other at stopped
    rw [stopped] at own
    cases own

theorem Linked.quiet {earlier : TaskPointer} {state after : Kthread}
    (linked : Linked earlier state) (records : after.records = state.records)
    (master : after.master = state.master) (caller : after.caller = state.caller)
    (worker : after.worker.record = state.worker.record) : Linked earlier after where
  worker := by rw [worker, caller, linked.worker]
  master := by rw [master, caller, linked.master]
  live := by
    rw [records, caller]
    exact linked.live
  freed := by
    rw [records, caller]
    exact linked.freed

/-- Where the record of the thread is: kept by the caller, or freed by it. -/
theorem record_of_created {caller : CallerPc} {t : Nat} (created : caller.created = some t) :
    caller.record = some t ∧ caller ≠ .setFields t ∨ caller = .stopped t := by
  cases caller with
  | returned result => cases result <;> simp_all [CallerPc.created, CallerPc.record]
  | assigned result => cases result <;> simp_all [CallerPc.created, CallerPc.record]
  | _ => simp_all [CallerPc.created, CallerPc.record]

@[simp] theorem worker_postExit (state : Kthread) (t : Nat) :
    (state.postExit t).worker = state.worker := by
  unfold postExit
  split
  · rfl
  · split <;> rfl

theorem linked_postExit {earlier : TaskPointer} {state : Kthread} {t : Nat}
    (linked : Linked earlier state) (created : state.caller.created = some t) :
    Linked earlier (state.postExit t) := by
  rcases record_of_created created with ⟨own, prepared⟩ | stopped
  · obtain ⟨record, live, -⟩ := linked.live t own
    have tended := linked.tended own prepared live
    unfold postExit
    simp only [live]
    split
    case isTrue member =>
      have waiting : state.caller = .waiting t := by
        by_contra elsewhere
        rw [tended.blocked, if_neg elsewhere] at member
        cases member
      refine linked.move ?_ ?_ rfl ⟨?_, ?_⟩
      · rw [waiting]
        rfl
      · rw [waiting]
        rfl
      · rw [tended.running, waiting]
        rfl
      · simp [Semaphore.release, tended.blocked, waiting]
    case isFalse idle =>
      have elsewhere : state.caller ≠ .waiting t := by
        intro waiting
        rw [tended.blocked, if_pos waiting] at idle
        exact idle (List.mem_singleton_self _)
      exact linked.move rfl rfl own ⟨tended.running, (if_neg elsewhere).symm⟩
  · have gone : state.records t = none := linked.freed t stopped
    unfold postExit
    simp only [gone]
    exact linked

theorem linked_step {earlier : TaskPointer} {state after : Kthread} {event : KthreadEvent}
    (linked : Linked earlier state) (steps : Steps state event after) : Linked earlier after := by
  cases steps with
  | kmalloc t contents at_kmalloc unused =>
      have worker := linked.worker
      have master := linked.master
      rw [at_kmalloc] at worker master
      constructor
      · exact worker
      · exact master
      · intro other same
        cases same
        exact ⟨contents, setRecord_self .., .inl rfl⟩
      · simp
  | kmallocFailed at_kmalloc =>
      have worker := linked.worker
      have master := linked.master
      rw [at_kmalloc] at worker master
      exact ⟨worker, master, by simp [CallerPc.record], by simp⟩
  | setFields threadfn data t record at_fields live =>
      refine linked.move ?_ ?_ rfl ⟨rfl, rfl⟩ <;> rw [at_fields] <;> rfl
  | create pid t at_create =>
      have master := linked.master
      obtain ⟨record, live, -⟩ := linked.live t (by rw [at_create]; rfl)
      have tended := linked.tended (by rw [at_create]; rfl) (by simp [at_create]) live
      rw [at_create] at master tended
      constructor
      · rfl
      · exact master
      · intro other same
        cases same
        exact ⟨record, live, .inr ⟨tended.running, tended.blocked⟩⟩
      · simp
  | createFailed code t at_create =>
      have worker := linked.worker
      have master := linked.master
      rw [at_create] at worker master
      exact ⟨worker, master, by simp [CallerPc.record], by simp⟩
  | setThreadid t ret record at_threadid live =>
      have tended := linked.tended (by rw [at_threadid]; rfl) (by simp [at_threadid]) live
      rw [at_threadid] at tended
      refine linked.move ?_ ?_ rfl ⟨tended.running, tended.blocked⟩ <;> rw [at_threadid] <;> rfl
  | assign result at_return =>
      have worker := linked.worker
      have live := linked.live
      rw [at_return] at worker live
      cases result with
      | task t =>
          constructor
          · exact worker
          · rfl
          · intro other same
            obtain ⟨record, stored, tended⟩ := live other same
            cases same
            have kept := tended.resolve_left (by simp)
            exact ⟨record, stored, .inr ⟨kept.running, kept.blocked⟩⟩
          · simp
      | null => exact ⟨worker, rfl, by simp [CallerPc.record], by simp⟩
      | error code => exact ⟨worker, rfl, by simp [CallerPc.record], by simp⟩
  | stop t record at_stop live =>
      have tended := linked.tended (by rw [at_stop]; rfl) (by simp [at_stop]) live
      rw [at_stop] at tended
      refine linked.move ?_ ?_ rfl ⟨rfl, tended.blocked⟩ <;> rw [at_stop] <;> rfl
  | semTaken t record at_wait live available =>
      have tended := linked.tended (by rw [at_wait]; rfl) (by simp [at_wait]) live
      rw [at_wait] at tended
      refine linked.move ?_ ?_ rfl ⟨tended.running, tended.blocked⟩ <;> rw [at_wait] <;> rfl
  | semBlocked t record at_wait live unavailable =>
      have tended := linked.tended (by rw [at_wait]; rfl) (by simp [at_wait]) live
      rw [at_wait] at tended
      refine linked.move ?_ ?_ rfl ⟨tended.running, ?_⟩
      · rw [at_wait]
        rfl
      · rw [at_wait]
        rfl
      · simp [Semaphore.block, tended.blocked]
  | interrupt t record at_wait live member =>
      have tended := linked.tended (by rw [at_wait]; rfl) (by simp [at_wait]) live
      rw [at_wait] at tended
      refine linked.move ?_ ?_ rfl ⟨tended.running, ?_⟩
      · rw [at_wait]
        rfl
      · rw [at_wait]
        rfl
      · simp [Semaphore.release, tended.blocked]
  | free t ret at_free =>
      have worker := linked.worker
      have master := linked.master
      rw [at_free] at worker master
      constructor
      · exact worker
      · exact master
      · simp [CallerPc.record]
      · intro other stopped
        cases stopped
        exact freeRecord_self ..
  | enter t at_entry => exact linked.quiet rfl rfl rfl (by rw [at_entry]; rfl)
  | stopTest t other at_test pointer => exact linked.quiet rfl rfl rfl rfl
  | stopTestAstray t at_test pointer => exact linked
  | leave t at_test => exact linked.quiet rfl rfl rfl (by rw [at_test]; rfl)
  | post t at_post =>
      have created : state.caller.created = some t := by
        rw [← linked.worker, at_post]
        rfl
      have touched : Linked earlier (state.touch t) := linked.quiet rfl rfl rfl rfl
      have posted := linked_postExit touched created
      constructor
      · rw [← posted.worker, worker_postExit]
        exact (congrArg WorkerPc.record at_post).symm
      · exact posted.master
      · exact posted.live
      · exact posted.freed

theorem linked_initial (records : Nat → Option TaskStruct) (earlier : TaskPointer) :
    Linked earlier (initial records earlier) :=
  ⟨rfl, rfl, nofun, nofun⟩

/-!
## The stop test
-/

/-- The test goes to the thread's own record, and tells whether the thread was stopped. -/
def Answers (before : Kthread) (event : KthreadEvent) (_ : Kthread) : Prop :=
  match event with
  | .stopTest => ∀ t, before.worker = .threadfn t →
      before.master = .task t ∧ before.shouldStop = some before.caller.stopCalled
  | _ => True

/-- `master->thread` has been assigned, unless it named the address before, and the record
has not been freed. -/
def TestsInTime (earlier : TaskPointer) (before : Kthread) (event : KthreadEvent) (_ : Kthread) :
    Prop :=
  match event with
  | .stopTest => ∀ t, before.worker = .threadfn t →
      (before.caller.assignedTo ≠ none ∨ earlier = .task t) ∧ before.caller ≠ .stopped t
  | _ => True

private theorem assignedTo_of_created {caller : CallerPc} {t : Nat} (created : caller.created = some t) :
    caller.assignedTo = none ∨ caller.assignedTo = some (.task t) := by
  cases caller with
  | returned result => cases result <;> simp_all [CallerPc.created, CallerPc.assignedTo]
  | assigned result => cases result <;> simp_all [CallerPc.created, CallerPc.assignedTo]
  | _ => simp_all [CallerPc.created, CallerPc.assignedTo]

private theorem stopTest_answers_iff {earlier : TaskPointer} {state : Kthread} {t : Nat}
    (linked : Linked earlier state) (at_test : state.worker = .threadfn t) :
    (state.master = .task t ∧ state.shouldStop = some state.caller.stopCalled) ↔
      (state.caller.assignedTo ≠ none ∨ earlier = .task t) ∧ state.caller ≠ .stopped t := by
  have created : state.caller.created = some t := by
    rw [← linked.worker, at_test]
    rfl
  have pointer : state.master = .task t ↔
      state.caller.assignedTo ≠ none ∨ earlier = .task t := by
    rw [linked.master]
    rcases assignedTo_of_created created with unassigned | assigned
    · simp [unassigned]
    · simp [assigned]
  rw [← pointer]
  apply and_congr_right
  intro named
  simp only [shouldStop, named]
  rcases record_of_created created with ⟨own, prepared⟩ | stopped
  · obtain ⟨record, live, -⟩ := linked.live t own
    have tended := linked.tended own prepared live
    constructor
    · intro _ stopped
      rw [linked.freed t stopped] at live
      cases live
    · intro _
      simp [live, tended.running]
  · simp [linked.freed t stopped, stopped]

/-- The stop test answers for the thread that makes it in exactly those runs in which the
thread tests after `master->thread` has been assigned and before its record is freed. -/
theorem should_stop_answers_iff (records : Nat → Option TaskStruct) (earlier : TaskPointer)
    (events : List KthreadEvent) :
    Along step Answers (initial records earlier) events ↔
      Along step (TestsInTime earlier) (initial records earlier) events := by
  refine along_iff_along ?_ ?_ (linked_initial records earlier)
  · intro before event after linked stepped
    cases event with
    | stopTest => exact forall₂_congr fun t => stopTest_answers_iff linked
    | _ => exact Iff.rfl
  · intro before event after linked stepped _
    exact linked_step linked (step_eq_some stepped)

def garbage : TaskStruct := ⟨0, false, 0, 0, .init 0⟩

/-- The thread tests before `kthread_run` has returned, when `master->thread` is null. -/
theorem stop_test_before_assignment :
    ∃ before, run step (initial (fun _ => none) .null)
        [.kmalloc 1 garbage, .setFields 7 8, .create 20, .enter] = some before ∧
      before.worker = .threadfn 1 ∧ before.master = .null ∧ before.shouldStop = none ∧
      ¬ Along step Answers (initial (fun _ => none) .null)
        [.kmalloc 1 garbage, .setFields 7 8, .create 20, .enter, .stopTest] := by
  refine ⟨_, rfl, rfl, rfl, rfl, ?_⟩
  rintro ⟨-, -, -, -, answers, -⟩
  exact absurd (answers 1 rfl).1 nofun

end Kthread

end VelaExternal.Ethercat
