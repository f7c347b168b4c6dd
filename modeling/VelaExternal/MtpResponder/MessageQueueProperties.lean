import VelaExternal.MtpResponder.MessageQueues
import VelaExternal.Systems.Run

/-! Which queues are alive after the calls that create and destroy them, and which of
those the caller can still name. -/

set_option autoImplicit false

namespace VelaExternal.MtpResponder

open Systems

/-!
## What one call does
-/

/-- The results of the `_util_msgq_deinit` calls, in order. -/
def destroyResults : List MqEvent → List Bool :=
  List.filterMap fun event =>
    match event with
    | .destroyed => some true
    | .destroyFailed => some false
    | _ => none

@[simp] theorem destroyResults_append (first second : List MqEvent) :
    destroyResults (first ++ second) = destroyResults first ++ destroyResults second :=
  List.filterMap_append

/-- How `ffs_transport_mq_init` ends: without a receive queue, with both queues, or with the
receive queue destroyed again or left behind. -/
inductive MqInitOutcome (before : MqWorld) : List MqEvent → Bool → MqWorld → Prop where
  | noRx {overwritten : Bool} {after : MqWorld} (same : after.alive = before.alive) :
      MqInitOutcome before [.createFailed overwritten] false after
  | both {rx tx : Int} {first second : Bool} :
      MqInitOutcome before
        [.created rx, .memory, .sized first, .created tx, .memory, .sized second] true
        ((before.create .rx rx).create .tx tx)
  | undone {rx : Int} {first overwritten : Bool} {after : MqWorld}
      (destroyed : after.alive = (before.alive ++ [rx]).filter (· ≠ rx)) :
      MqInitOutcome before
        [.created rx, .memory, .sized first, .createFailed overwritten, .destroyed, .memory] false
        after
  | abandoned {rx : Int} {first overwritten : Bool} {after : MqWorld}
      (left : after.alive = before.alive ++ [rx]) :
      MqInitOutcome before
        [.created rx, .memory, .sized first, .createFailed overwritten, .destroyFailed, .memory]
        false after

private theorem ffsTransportMqInit_ensures (rxMqSz txMqSz : Nat) (world : MqWorld) :
    (ffsTransportMqInit rxMqSz txMqSz).Ensures MqWorld.handle (MqInitOutcome world) world := by
  simp only [ffsTransportMqInit, Program.ensures_bind, ensures_utilMsgqInit]
  constructor
  · intro rx _
    simp only [Bool.not_true, Bool.false_eq_true, if_false, Program.ensures_bind,
      ensures_loadMqid, ensures_utilMsgqSetSize, ensures_utilMsgqInit]
    intro _
    constructor
    · intro tx _ _
      exact .both
    · intro overwritten
      have named : (if overwritten then (world.create .rx rx).assign .tx (-1)
          else world.create .rx rx).mqid .rx = rx := by
        cases overwritten <;> rfl
      simp only [Bool.not_false, if_true, Program.ensures_bind, ensures_utilMsgqDeinit, named,
        ensures_storeMqid]
      constructor
      · exact .undone (by cases overwritten <;> rfl)
      · exact .abandoned (by cases overwritten <;> rfl)
  · intro overwritten
    exact .noRx (by cases overwritten <;> rfl)

/-- A call that reports failure leaves none of the queues it created alive, unless the
one it had to destroy again could not be destroyed. -/
theorem MqInitOutcome.leaves_none_iff {before after : MqWorld} {answers : List MqEvent}
    {returned : Bool} (outcome : MqInitOutcome before answers returned after) :
    (returned = false → ∀ id, .created id ∈ answers → id ∉ after.alive) ↔
      .destroyFailed ∉ answers := by
  cases outcome with
  | noRx same => simp
  | both => simp
  | undone destroyed => simp [destroyed]
  | abandoned left => simp [left]

/-- What `releaseMqid` can come to. -/
inductive ReleaseOutcome (which : Mqid) (res : Bool) (before : MqWorld) :
    List MqEvent → Bool → MqWorld → Prop where
  | unnamed (zero : before.mqid which = 0) : ReleaseOutcome which res before [.memory] res before
  | destroyed (named : before.mqid which ≠ 0) :
      ReleaseOutcome which res before [.memory, .destroyed, .memory] true
        ((before.destroy (before.mqid which)).assign which 0)
  | kept (named : before.mqid which ≠ 0) :
      ReleaseOutcome which res before [.memory, .destroyFailed] false before

private theorem releaseMqid_ensures (which : Mqid) (res : Bool) (world : MqWorld) :
    (releaseMqid which res).Ensures MqWorld.handle (ReleaseOutcome which res world) world := by
  simp only [releaseMqid, Program.ensures_bind, ensures_loadMqid]
  by_cases zero : world.mqid which = 0
  · rw [if_neg (not_not.mpr zero)]
    exact .unnamed zero
  · rw [if_pos zero, Program.ensures_bind, ensures_utilMsgqDeinit]
    constructor
    · simp only [Bool.not_true, Bool.false_eq_true, if_false, Program.ensures_bind,
        ensures_storeMqid]
      exact .destroyed zero
    · exact .kept zero

/-- A queue that a later `ffs_transport_mq_deinit` can destroy. -/
def MqWorld.Named (world : MqWorld) (id : Int) : Prop :=
  id ≠ 0 ∧ ∃ which, world.mqid which = id

def MqWorld.AllNamed (world : MqWorld) : Prop := ∀ id ∈ world.alive, world.Named id

/-- No call destroys a queue that it cannot name, or comes to name one. -/
theorem ReleaseOutcome.stray {which : Mqid} {res returned : Bool} {before after : MqWorld}
    {answers : List MqEvent} {id : Int}
    (outcome : ReleaseOutcome which res before answers returned after)
    (alive : id ∈ before.alive) (unnamed : ¬ before.Named id) :
    id ∈ after.alive ∧ ¬ after.Named id := by
  cases outcome with
  | unnamed zero => exact ⟨alive, unnamed⟩
  | kept named => exact ⟨alive, unnamed⟩
  | destroyed named =>
      have different : id ≠ before.mqid which := by
        rintro rfl
        exact unnamed ⟨named, which, rfl⟩
      constructor
      · simp [MqWorld.destroy, alive, different]
      · intro still_named
        obtain ⟨nonzero, other, same⟩ := still_named
        rw [mqid_assign] at same
        split at same
        · exact nonzero same.symm
        · exact unnamed ⟨nonzero, other, same⟩

/-- Where all queues have a name, the one that is left after the receive queue is gone is
named by the other identifier. -/
theorem ReleaseOutcome.left {res returned : Bool} {before after : MqWorld}
    {answers : List MqEvent} (outcome : ReleaseOutcome .rx res before answers returned after)
    (all_named : before.AllNamed) (not_kept : destroyResults answers ≠ [false]) :
    ∀ id ∈ after.alive, id ≠ 0 ∧ after.txMqid = id := by
  intro id alive
  cases outcome with
  | kept named => exact absurd rfl not_kept
  | unnamed zero =>
      obtain ⟨nonzero, which, named⟩ := all_named id alive
      cases which with
      | rx => exact absurd (named.symm.trans zero) nonzero
      | tx => exact ⟨nonzero, named⟩
  | destroyed named =>
      simp only [alive_assign, MqWorld.destroy, List.mem_filter, decide_eq_true_eq] at alive
      obtain ⟨nonzero, which, same⟩ := all_named id alive.1
      cases which with
      | rx => exact absurd same.symm alive.2
      | tx => exact ⟨nonzero, same⟩

/-- The last release is reported as it ends, when its queue is the only one there can be. -/
theorem ReleaseOutcome.last {returned : Bool} {before after : MqWorld}
    {answers : List MqEvent} (outcome : ReleaseOutcome .tx true before answers returned after)
    (left : ∀ id ∈ before.alive, id ≠ 0 ∧ before.txMqid = id) :
    (returned = true → after.alive = []) ∧ (returned = false → after.AllNamed) := by
  cases outcome with
  | unnamed zero =>
      refine ⟨fun _ => List.eq_nil_iff_forall_not_mem.mpr fun id alive => ?_, nofun⟩
      exact (left id alive).1 ((left id alive).2.symm.trans zero)
  | destroyed named =>
      refine ⟨fun _ => ?_, nofun⟩
      simp only [alive_assign, MqWorld.destroy, List.filter_eq_nil_iff, decide_eq_true_eq, not_not]
      exact fun id alive => (left id alive).2.symm
  | kept named =>
      exact ⟨nofun, fun _ id alive => ⟨(left id alive).1, .tx, (left id alive).2⟩⟩

/-- What `ffs_transport_mq_deinit` reports is right when every queue has a name, unless the
receive queue stays and the transmit queue goes. -/
theorem ffsTransportMqDeinit_ensures (world : MqWorld) :
    ffsTransportMqDeinit.Ensures MqWorld.handle
      (fun answers returned after =>
        ((returned = true → after.alive = []) ∧ (returned = false → after.AllNamed)) ↔
          world.AllNamed ∧
            ¬ (world.rxMqid ∈ world.alive ∧ world.rxMqid ≠ world.txMqid ∧
              destroyResults answers = [false, true])) world := by
  rw [ffsTransportMqDeinit, Program.ensures_bind]
  apply (releaseMqid_ensures .rx true world).mono
  intro first res middle rx
  apply (releaseMqid_ensures .tx res middle).mono
  intro second returned after tx
  rw [destroyResults_append]
  by_cases all_named : world.AllNamed
  case neg =>
    refine iff_of_false ?_ (fun both => all_named both.1)
    obtain ⟨id, alive, unnamed⟩ : ∃ id, id ∈ world.alive ∧ ¬ world.Named id := by
      simpa [MqWorld.AllNamed] using all_named
    obtain ⟨alive, unnamed⟩ := rx.stray alive unnamed
    obtain ⟨alive, unnamed⟩ := tx.stray alive unnamed
    intro kept
    obtain ⟨gone, named⟩ := kept
    cases returned with
    | true => simp [gone rfl] at alive
    | false => exact unnamed (named rfl id alive)
  have only_tx := rx.left all_named
  cases rx with
  | unnamed zero =>
      refine iff_of_true (tx.last (only_tx (by simp [destroyResults]))) ⟨all_named, ?_⟩
      cases tx <;> simp [destroyResults]
  | destroyed rx_named =>
      refine iff_of_true (tx.last (only_tx (by simp [destroyResults]))) ⟨all_named, ?_⟩
      cases tx <;> simp [destroyResults]
  | kept rx_named =>
      cases tx with
      | unnamed zero =>
          exact iff_of_true ⟨nofun, fun _ => all_named⟩ ⟨all_named, by simp [destroyResults]⟩
      | kept named =>
          exact iff_of_true ⟨nofun, fun _ => all_named⟩ ⟨all_named, by simp [destroyResults]⟩
      | destroyed named =>
          have both : destroyResults [.memory, .destroyFailed] ++
              destroyResults [.memory, .destroyed, .memory] = [false, true] := rfl
          simp only [all_named, both, true_and, and_true, forall_const, reduceCtorEq,
            false_implies, alive_assign, MqWorld.destroy, List.filter_eq_nil_iff,
            decide_eq_true_eq, not_not, not_and]
          constructor
          · exact fun only alive => only world.rxMqid alive
          · intro same id alive
            obtain ⟨nonzero, which, named_so⟩ := all_named id alive
            cases which with
            | tx => exact named_so.symm
            | rx =>
                obtain rfl : world.rxMqid = id := named_so
                exact same alive

/-!
## Bookkeeping over runs
-/

/-- What a call promises: one that destroys reports success when no queue is left, and
otherwise leaves a name for each; one that creates and fails leaves nothing behind. -/
def Bookkept (_before : MqState) (call : MqCall) (after : MqState) : Prop :=
  match call with
  | .mqInit _ _ answers =>
      after.returned = some false → ∀ id, .created id ∈ answers → id ∉ after.world.alive
  | .mqDeinit _ =>
      (after.returned = some true → after.world.alive = []) ∧
        (after.returned = some false → after.world.AllNamed)

/-- The condition on a call and on the state it starts in. -/
def Kempt (before : MqState) (call : MqCall) (_after : MqState) : Prop :=
  match call with
  | .mqInit _ _ answers => .destroyFailed ∉ answers
  | .mqDeinit answers =>
      before.world.AllNamed ∧
        ¬ (before.world.rxMqid ∈ before.world.alive ∧
          before.world.rxMqid ≠ before.world.txMqid ∧ destroyResults answers = [false, true])

private theorem bookkept_iff_kempt {before after : MqState} {call : MqCall}
    (stepped : before.step call = some after) :
    Bookkept before call after ↔ Kempt before call after := by
  cases call with
  | mqInit rxMqSz txMqSz answers =>
      simp only [MqState.step, Option.map_eq_some_iff] at stepped
      obtain ⟨⟨returned, world⟩, executed, rfl⟩ := stepped
      have outcome := Program.exec_ensures (ffsTransportMqInit_ensures rxMqSz txMqSz _) executed
      simpa only [Bookkept, Kempt, Option.some.injEq] using outcome.leaves_none_iff
  | mqDeinit answers =>
      simp only [MqState.step, Option.map_eq_some_iff] at stepped
      obtain ⟨⟨returned, world⟩, executed, rfl⟩ := stepped
      have same := Program.exec_ensures (ffsTransportMqDeinit_ensures _) executed
      simpa only [Bookkept, Kempt, Option.some.injEq] using same

theorem ReleaseOutcome.allNamed {which : Mqid} {res returned : Bool} {before after : MqWorld}
    {answers : List MqEvent} (outcome : ReleaseOutcome which res before answers returned after)
    (all_named : before.AllNamed) : after.AllNamed := by
  cases outcome with
  | unnamed zero => exact all_named
  | kept named => exact all_named
  | destroyed named =>
      intro id alive
      simp only [alive_assign, MqWorld.destroy, List.mem_filter, decide_eq_true_eq] at alive
      obtain ⟨nonzero, other, same⟩ := all_named id alive.1
      refine ⟨nonzero, other, ?_⟩
      have different : other ≠ which := by
        rintro rfl
        exact alive.2 same.symm
      rw [mqid_assign, if_neg different]
      exact same

/-- Created where none is alive, with numbers that are not zero, both queues have a name. -/
theorem MqInitOutcome.allNamed {before after : MqWorld} {answers : List MqEvent}
    {returned : Bool} (outcome : MqInitOutcome before answers returned after)
    (none : before.alive = []) (nonzero : .created 0 ∉ answers)
    (not_left : .destroyFailed ∉ answers) : after.AllNamed := by
  intro id alive
  cases outcome with
  | noRx same => simp [same, none] at alive
  | undone destroyed => simp [destroyed, none] at alive
  | abandoned left => simp at not_left
  | @both rx tx first second =>
      have numbers : id = rx ∨ id = tx := by simpa [MqWorld.create, none] using alive
      rcases numbers with rfl | rfl
      · refine ⟨?_, .rx, rfl⟩
        rintro rfl
        simp at nonzero
      · refine ⟨?_, .tx, rfl⟩
        rintro rfl
        simp at nonzero

private theorem ffsTransportMqDeinit_named {world : MqWorld} (all_named : world.AllNamed) :
    ffsTransportMqDeinit.Ensures MqWorld.handle (fun _ _ after => after.AllNamed) world := by
  rw [ffsTransportMqDeinit, Program.ensures_bind]
  apply (releaseMqid_ensures .rx true world).mono
  intro _ res middle rx
  apply (releaseMqid_ensures .tx res middle).mono
  intro _ returned after tx
  exact tx.allNamed (rx.allNamed all_named)

/-- What keeps a name for every queue: none is alive when queues are created, none gets the
number zero, none that has to be destroyed at once stays, and the transmit queue does not go
where the receive queue stays. -/
def Tidy (before : MqState) (call : MqCall) (_after : MqState) : Prop :=
  match call with
  | .mqInit _ _ answers =>
      before.world.alive = [] ∧ .created 0 ∉ answers ∧ .destroyFailed ∉ answers
  | .mqDeinit answers => destroyResults answers ≠ [false, true]

private theorem allNamed_of_tidy {before after : MqState} {call : MqCall}
    (all_named : before.world.AllNamed) (stepped : before.step call = some after)
    (tidy : Tidy before call after) : after.world.AllNamed := by
  cases call with
  | mqInit rxMqSz txMqSz answers =>
      simp only [MqState.step, Option.map_eq_some_iff] at stepped
      obtain ⟨⟨returned, world⟩, executed, rfl⟩ := stepped
      obtain ⟨none, nonzero, destroyed⟩ := tidy
      have outcome := Program.exec_ensures (ffsTransportMqInit_ensures rxMqSz txMqSz _) executed
      exact outcome.allNamed none nonzero destroyed
  | mqDeinit answers =>
      simp only [MqState.step, Option.map_eq_some_iff] at stepped
      obtain ⟨⟨returned, world⟩, executed, rfl⟩ := stepped
      exact Program.exec_ensures (ffsTransportMqDeinit_named all_named) executed

private theorem kempt_of_tidy {before after : MqState} {call : MqCall}
    (all_named : before.world.AllNamed) (tidy : Tidy before call after) :
    Kempt before call after := by
  cases call with
  | mqInit rxMqSz txMqSz answers => exact tidy.2.2
  | mqDeinit answers => exact ⟨all_named, fun masked => tidy masked.2.2⟩

/-- Over any calls, from any values of the identifiers, the bookkeeping is right exactly
when each call meets its condition; in tidy runs each call meets it. -/
theorem message_queues_bookkept_iff (rxMqid txMqid : Int) (calls : List MqCall) :
    (Along MqState.step Bookkept (.initial rxMqid txMqid) calls ↔
      Along MqState.step Kempt (.initial rxMqid txMqid) calls) ∧
    (Along MqState.step Tidy (.initial rxMqid txMqid) calls →
      Along MqState.step Bookkept (.initial rxMqid txMqid) calls) := by
  have iff_kempt : Along MqState.step Bookkept (.initial rxMqid txMqid) calls ↔
      Along MqState.step Kempt (.initial rxMqid txMqid) calls := by
    let holds (_ : MqState) : Prop := True
    have start : holds (.initial rxMqid txMqid) := trivial
    refine along_iff_along ?_ ?_ start
    · intro before call after _ stepped
      exact bookkept_iff_kempt stepped
    · exact fun _ _ _ _ _ _ => trivial
  refine ⟨iff_kempt, fun tidy => iff_kempt.mpr ?_⟩
  let named (state : MqState) : Prop := state.world.AllNamed
  have start : named (.initial rxMqid txMqid) := nofun
  refine along_of_invariant ?_ start tidy
  intro before call after all_named stepped tidy_call
  exact ⟨allNamed_of_tidy all_named stepped tidy_call, kempt_of_tidy all_named tidy_call⟩

/-- Two queues are created; then the receive queue cannot be destroyed and the transmit
queue can. -/
def maskedCalls : List MqCall :=
  [.mqInit 128 128 [.created 1, .memory, .sized true, .created 2, .memory, .sized true],
    .mqDeinit [.memory, .destroyFailed, .memory, .destroyed, .memory]]

/-- The receive queue has number zero, which stands for no queue. -/
def zeroCalls : List MqCall :=
  [.mqInit 128 128 [.created 0, .memory, .sized true, .created 1, .memory, .sized true],
    .mqDeinit [.memory, .memory, .destroyed, .memory]]

/-- The transmit queue cannot be created, nor the receive queue destroyed again. -/
def abandonedCalls : List MqCall :=
  [.mqInit 128 128
    [.created 1, .memory, .sized true, .createFailed false, .destroyFailed, .memory]]

theorem message_queue_survives :
    (run MqState.step (.initial 0 0) maskedCalls = some ⟨⟨1, 0, [1]⟩, some true⟩ ∧
      ¬ Along MqState.step Bookkept (.initial 0 0) maskedCalls) ∧
    (run MqState.step (.initial 0 0) zeroCalls = some ⟨⟨0, 0, [0]⟩, some true⟩ ∧
      ¬ Along MqState.step Bookkept (.initial 0 0) zeroCalls) ∧
    (run MqState.step (.initial 0 0) abandonedCalls = some ⟨⟨-1, 0, [1]⟩, some false⟩ ∧
      ¬ Along MqState.step Bookkept (.initial 0 0) abandonedCalls) := by
  refine ⟨⟨by decide, fun along => ?_⟩, ⟨by decide, fun along => ?_⟩, by decide, fun along => ?_⟩
  · exact absurd (along.2.1.1 rfl) (by decide)
  · exact absurd (along.2.1.1 rfl) (by decide)
  · exact along.1 rfl 1 (by decide) (by decide)

end VelaExternal.MtpResponder
