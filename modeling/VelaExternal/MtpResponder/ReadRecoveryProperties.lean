import VelaExternal.MtpResponder.ReadRecovery
import Mathlib.Data.List.Chain

/-! What the passes of the recovery add up to: the reads that it makes, what it
returns, and why it stops. -/

set_option autoImplicit false

namespace VelaExternal.MtpResponder

open Systems

/-!
## Reads
-/

/-- What the reads of a script return. -/
def readResults : List UsbEvent → List Int :=
  List.filterMap fun event =>
    match event with
    | .readBytes bytes => some bytes.length
    | .readFailed _ => some (-1)
    | _ => none

/-- The error numbers of its failed reads. -/
def readErrors : List UsbEvent → List Errno :=
  List.filterMap fun event =>
    match event with
    | .readFailed errno => some errno
    | _ => none

@[simp] theorem readResults_append (first second : List UsbEvent) :
    readResults (first ++ second) = readResults first ++ readResults second :=
  List.filterMap_append

@[simp] theorem readErrors_append (first second : List UsbEvent) :
    readErrors (first ++ second) = readErrors first ++ readErrors second :=
  List.filterMap_append

@[simp] theorem readResults_readBytes (bytes : List UInt8) :
    readResults [.memory, .readBytes bytes] = [(bytes.length : Int)] := rfl

@[simp] theorem readResults_readFailed (errno : Errno) :
    readResults [.memory, .readFailed errno] = [-1] := rfl

private theorem recoveryDecision_readBytes (err : Int) (bytes : List UInt8) :
    recoveryDecision err (.ok bytes.length) =
      if bytes = [] then .again 0 else .leave bytes.length := by
  cases bytes with
  | nil => rfl
  | cons byte bytes => exact if_pos (Int.natCast_pos.mpr (Nat.succ_pos bytes.length))

def UsbEvent.IsRead : UsbEvent → Prop
  | .readBytes _ | .readFailed _ => True
  | _ => False

theorem UsbEvent.OnDescriptors.not_isRead {event : UsbEvent}
    (on_descriptors : event.OnDescriptors) : ¬ event.IsRead := by
  cases event with
  | readBytes bytes => exact absurd on_descriptors id
  | readFailed errno => exact absurd on_descriptors id
  | _ => exact id

private theorem readResults_eq_nil {events : List UsbEvent}
    (quiet : ∀ event ∈ events, ¬ event.IsRead) : readResults events = [] := by
  apply List.filterMap_eq_nil_iff.mpr
  intro event member
  have not_read := quiet event member
  cases event with
  | readBytes bytes => exact absurd trivial not_read
  | readFailed errno => exact absurd trivial not_read
  | _ => rfl

private theorem readErrors_eq_nil {events : List UsbEvent}
    (quiet : ∀ event ∈ events, ¬ event.IsRead) : readErrors events = [] := by
  apply List.filterMap_eq_nil_iff.mpr
  intro event member
  have not_read := quiet event member
  cases event with
  | readFailed errno => exact absurd trivial not_read
  | _ => rfl

theorem Prepared.not_isRead {err : Int} {before : UsbWorld} {events : List UsbEvent}
    {prepared : Option Obstacle} (outcome : Prepared err before events prepared) :
    ∀ event ∈ events, ¬ event.IsRead := by
  cases outcome with
  | disconnected failed broken => simp [UsbEvent.IsRead]
  | skipped quiet _ | unknown quiet _ =>
      intro event member
      rw [quiet event member]
      exact id
  | reopened quiet _ _ _ | reopenFailed quiet _ _ _ =>
      refine List.forall_mem_cons.mpr ⟨id, List.forall_mem_cons.mpr ⟨id, ?_⟩⟩
      intro event member
      exact (quiet event member).not_isRead

/-- The script of a recovery as its caller sees it: the value comes from the last
read, and bytes that a read delivered are what the recovery ends with. -/
structure ReadOnce (err : Int) (before : UsbWorld) (events : List UsbEvent) (value : Int)
    (after : UsbWorld) : Prop where
  returned : value = (readResults events).getLast?.getD err
  retried : ∀ result ∈ (readResults events).dropLast, result ≤ 0
  kept : ∀ bytes, bytes ≠ [] → .readBytes bytes ∈ events →
    value = bytes.length ∧ after.rxBuffer.take bytes.length = bytes ∧
      after.received = before.received ++ [bytes]
  nothing : value ≤ 0 → after.received = before.received

/-- What a pass that is not the last leaves to the next. -/
structure NothingRead (err : Int) (before : UsbWorld) (events : List UsbEvent) (next : Int)
    (after : UsbWorld) : Prop where
  results : readResults events = [] ∧ next = err ∨ readResults events = [next]
  nonpos : next ≤ 0
  empty : ∀ bytes, bytes ≠ [] → .readBytes bytes ∉ events
  received : after.received = before.received

theorem ReadOnce.prepend {err next value : Int} {before middle after : UsbWorld}
    {first second : List UsbEvent} (nothing : NothingRead err before first next middle)
    (rest : ReadOnce next middle second value after) :
    ReadOnce err before (first ++ second) value after := by
  have results : readResults first = [] ∧ next = err ∨ readResults first = [next] := nothing.results
  constructor
  · rw [rest.returned]
    rcases results with ⟨none, rfl⟩ | one
    · simp [none]
    · cases later : readResults second with
      | nil => simp [one, later]
      | cons result results => simp [one, later, List.getLast?_cons]
  · intro result member
    rcases results with ⟨none, rfl⟩ | one
    · rw [readResults_append, none, List.nil_append] at member
      exact rest.retried result member
    · cases later : readResults second with
      | nil => simp [one, later] at member
      | cons second_result results =>
          rw [readResults_append, one, later, List.singleton_append, List.dropLast_cons_cons,
            ← later] at member
          rcases List.mem_cons.mp member with rfl | member
          · exact nothing.nonpos
          · exact rest.retried result member
  · intro bytes nonempty member
    rw [← nothing.received]
    rcases List.mem_append.mp member with earlier | later
    · exact absurd earlier (nothing.empty bytes nonempty)
    · exact rest.kept bytes nonempty later
  · intro failed
    rw [rest.nothing failed, nothing.received]

/-- A pass that goes on has read nothing. -/
theorem PassOutcome.nothingRead {err next : Int} {before after : UsbWorld}
    {events : List UsbEvent} {output : Except Obstacle Int}
    (outcome : PassOutcome err before events output after) (nothing : err ≤ 0)
    (again : recoveryDecision err output = .again next) :
    NothingRead err before events next after := by
  cases outcome with
  | @ended _ obstacle _ prepared received =>
      have silent := readResults_eq_nil prepared.not_isRead
      cases obstacle <;> simp only [recoveryDecision, Decision.again.injEq, reduceCtorEq] at again
      subst again
      refine ⟨.inl ⟨silent, rfl⟩, nothing, fun bytes _ member => ?_, received⟩
      exact prepared.not_isRead _ member trivial
  | @delivered first bytes middle prepared received =>
      have silent := readResults_eq_nil prepared.not_isRead
      have earlier (other : List UInt8) : .readBytes other ∉ first := fun member =>
        prepared.not_isRead _ member trivial
      rw [recoveryDecision_readBytes] at again
      by_cases empty : bytes = []
      · rw [if_pos empty] at again
        obtain rfl := Decision.again.inj again
        subst empty
        constructor
        · exact .inr (by simp [silent])
        · exact Int.le_refl 0
        · simp [earlier]
        · exact received
      · rw [if_neg empty] at again
        cases again
  | @failed first errno middle prepared received =>
      have silent := readResults_eq_nil prepared.not_isRead
      have earlier (other : List UInt8) : .readBytes other ∉ first := fun member =>
        prepared.not_isRead _ member trivial
      obtain rfl := Decision.again.inj again
      constructor
      · exact .inr (by simp [silent])
      · decide
      · simp [earlier]
      · exact received

/-- A pass that leaves the loop ends with the read that delivered bytes, if with any. -/
theorem PassOutcome.readOnce {err value : Int} {before after : UsbWorld}
    {events : List UsbEvent} {output : Except Obstacle Int}
    (outcome : PassOutcome err before events output after) (nothing : err ≤ 0)
    (left : recoveryDecision err output = .leave value) :
    ReadOnce err before events value after := by
  cases outcome with
  | @ended _ obstacle _ prepared received =>
      have silent := readResults_eq_nil prepared.not_isRead
      have same : value = err := by
        cases obstacle with
        | reopenFailed => cases left
        | disconnected | unknown => exact (Decision.leave.inj left).symm
      subst same
      constructor
      · simp [silent]
      · simp [silent]
      · intro bytes _ member
        exact absurd trivial (prepared.not_isRead _ member)
      · exact fun _ => received
  | @delivered first bytes middle prepared received =>
      have silent := readResults_eq_nil prepared.not_isRead
      have earlier (other : List UInt8) : .readBytes other ∉ first := fun member =>
        prepared.not_isRead _ member trivial
      rw [recoveryDecision_readBytes] at left
      by_cases empty : bytes = []
      · rw [if_pos empty] at left
        cases left
      · rw [if_neg empty] at left
        obtain rfl := Decision.leave.inj left
        constructor
        · simp [silent]
        · simp [silent]
        · intro other nonempty member
          obtain rfl : other = bytes := by simpa [earlier] using member
          simp [UsbWorld.deliver, received, empty]
        · intro failed
          have positive := List.length_pos_iff.mpr empty
          omega
  | failed prepared received => cases left

/-- Over all passes, the recovery keeps the bytes of the one read that delivers any. -/
theorem recoveryPasses_readOnce {conf : MtpConfig} {bufLen : Int} {bound : Nat} {err value : Int}
    {world after : UsbWorld} {passes : List RecoveryPass} (nothing : err ≤ 0)
    (taken : RecoveryPasses conf bufLen bound err world passes value after) :
    ReadOnce err world (passes.flatMap Pass.events) value after := by
  induction taken with
  | exhausted => exact ⟨rfl, nofun, nofun, fun _ => rfl⟩
  | leaves pass executed left =>
      have outcome := Program.exec_ensures (recoveryPass_ensures conf bufLen _ _) executed
      simpa using outcome.readOnce nothing left
  | goesOn pass executed again rest ih =>
      have outcome := Program.exec_ensures (recoveryPass_ensures conf bufLen _ _) executed
      have unread := outcome.nothingRead nothing again
      exact ReadOnce.prepend unread (ih unread.nonpos)

def UsbEvent.Reopens : UsbEvent → Prop
  | .opened _ | .openFailed _ | .closed | .closeFailed _ => True
  | _ => False

theorem Prepared.not_reopens {err : Int} {before : UsbWorld} {events : List UsbEvent}
    {prepared : Option Obstacle} (outcome : Prepared err before events prepared) :
    (∃ event ∈ events, event.Reopens) →
      err < 0 ∧ before.errno = .eio ∧ .usbConnected true ∈ events := by
  intro reopened
  obtain ⟨event, member, reopens⟩ := reopened
  cases outcome with
  | reopened quiet failed broken opened => exact ⟨failed, broken, by simp⟩
  | reopenFailed quiet failed broken unopened => exact ⟨failed, broken, by simp⟩
  | disconnected failed broken =>
      simp only [List.mem_cons, List.not_mem_nil, or_false] at member
      rcases member with rfl | rfl
      · exact absurd reopens id
      · exact absurd reopens id
  | skipped quiet _ | unknown quiet _ =>
      rw [quiet event member] at reopens
      exact absurd reopens id

theorem PassOutcome.reopens {err : Int} {before after : UsbWorld} {events : List UsbEvent}
    {output : Except Obstacle Int} (outcome : PassOutcome err before events output after) :
    (∃ event ∈ events, event.Reopens) →
      err < 0 ∧ before.errno = .eio ∧ .usbConnected true ∈ events := by
  intro reopened
  obtain ⟨event, member, reopens⟩ := reopened
  cases outcome with
  | ended prepared received => exact prepared.not_reopens ⟨event, member, reopens⟩
  | delivered prepared received | failed prepared received =>
      rcases List.mem_append.mp member with earlier | reading
      · obtain ⟨failed, broken, connected⟩ := prepared.not_reopens ⟨event, earlier, reopens⟩
        exact ⟨failed, broken, List.mem_append_left _ connected⟩
      · simp only [List.mem_cons, List.not_mem_nil, or_false] at reading
        rcases reading with rfl | rfl
        · exact absurd reopens id
        · exact absurd reopens id

theorem PassOutcome.reads_le {err : Int} {before after : UsbWorld} {events : List UsbEvent}
    {output : Except Obstacle Int} (outcome : PassOutcome err before events output after) :
    (readResults events).length ≤ 1 := by
  cases outcome with
  | ended prepared received => simp [readResults_eq_nil prepared.not_isRead]
  | delivered prepared received => simp [readResults_eq_nil prepared.not_isRead]
  | failed prepared received => simp [readResults_eq_nil prepared.not_isRead]

private theorem recoveryPasses_outcome {conf : MtpConfig} {bufLen : Int} {bound : Nat} {err value : Int}
    {world after : UsbWorld} {passes : List RecoveryPass}
    (taken : RecoveryPasses conf bufLen bound err world passes value after) :
    ∀ pass ∈ passes, PassOutcome pass.input pass.before pass.events pass.output pass.after :=
  fun pass member =>
    Program.exec_ensures (recoveryPass_ensures conf bufLen _ _) (taken.executed pass member)

private theorem reads_le_passes {passes : List RecoveryPass}
    (outcomes : ∀ pass ∈ passes,
      PassOutcome pass.input pass.before pass.events pass.output pass.after) :
    (readResults (passes.flatMap Pass.events)).length ≤ passes.length := by
  induction passes with
  | nil => exact Nat.le_refl 0
  | cons pass passes ih =>
      obtain ⟨first, rest⟩ := List.forall_mem_cons.mp outcomes
      have one := first.reads_le
      have others := ih rest
      rw [List.flatMap_cons, readResults_append, List.length_append, List.length_cons]
      omega

private theorem mem_readResults_pos {events : List UsbEvent} {result : Int}
    (member : result ∈ readResults events) (positive : 0 < result) :
    ∃ bytes, .readBytes bytes ∈ events ∧ result = bytes.length := by
  obtain ⟨event, member, returned⟩ := List.mem_filterMap.mp member
  cases event with
  | readBytes bytes => exact ⟨bytes, member, (Option.some.inj returned).symm⟩
  | readFailed errno =>
      obtain rfl := Option.some.inj returned
      omega
  | _ => cases returned

theorem ReadOnce.positive_iff {err value : Int} {before after : UsbWorld} {events : List UsbEvent}
    (once : ReadOnce err before events value after) (nothing : err ≤ 0) :
    0 < value ↔ ∃ bytes, bytes ≠ [] ∧ .readBytes bytes ∈ events ∧ value = bytes.length := by
  constructor
  · intro positive
    have returned := once.returned
    cases last : (readResults events).getLast? with
    | none =>
        rw [last, Option.getD_none] at returned
        omega
    | some result =>
        rw [last, Option.getD_some] at returned
        subst returned
        obtain ⟨bytes, member, same⟩ := mem_readResults_pos (List.mem_of_getLast? last) positive
        refine ⟨bytes, ?_, member, same⟩
        rintro rfl
        exact absurd positive (by simp [same])
  · intro delivered
    obtain ⟨bytes, nonempty, _, rfl⟩ := delivered
    exact Int.natCast_pos.mpr (List.length_pos_iff.mpr nonempty)

/-- Every execution of the recovery is a chain of at most `bound` passes, each with one
read at most; it returns what the last read returned and keeps the bytes of that read. -/
theorem read_recovery_result {conf : MtpConfig} {bufLen : Int} {bound : Nat} {err value : Int}
    {world after : UsbWorld} {events : List UsbEvent} (nothing : err ≤ 0)
    (executed : (handleUsbReadErr conf bufLen bound err).exec UsbWorld.handle world events =
      some (value, after)) :
    (readResults events).length ≤ bound ∧
      ReadOnce err world events value after ∧
      (0 < value ↔ ∃ bytes, bytes ≠ [] ∧ .readBytes bytes ∈ events ∧ value = bytes.length) ∧
      ∃ passes, RecoveryPasses conf bufLen bound err world passes value after ∧
        passes.flatMap Pass.events = events ∧
        ∀ pass ∈ passes, (∃ event ∈ pass.events, event.Reopens) →
          pass.input < 0 ∧ pass.before.errno = .eio ∧ .usbConnected true ∈ pass.events := by
  rw [handleUsbReadErr_eq_recovery] at executed
  obtain ⟨passes, taken, rfl⟩ := Program.exec_loop.mp executed
  have outcomes := recoveryPasses_outcome taken
  have once := recoveryPasses_readOnce nothing taken
  refine ⟨(reads_le_passes outcomes).trans taken.length_le, once, once.positive_iff nothing,
    passes, taken, rfl, ?_⟩
  intro pass member
  exact (outcomes pass member).reopens

/-- An open device whose last read failed with `EIO`. -/
def brokenWorld : UsbWorld :=
  { UsbWorld.boot [0] with
    usbEpIn := 3, usbEpOut := 4, usbEpStatus := 5, errno := .eio
    openFiles := [⟨3, .bulkIn⟩, ⟨4, .bulkOut⟩, ⟨5, .status⟩] }

def reconnected : List UsbEvent :=
  [.memory, .usbConnected true] ++ closedAnswers ++ openedAnswers 5 3 4 ++
    [.memory, .readBytes [1, 2]]

def reconnectedWorld : UsbWorld :=
  { brokenWorld with
    usbEpIn := 5, usbEpOut := 3, usbEpStatus := 4, pktSize := ⟨512, 512⟩, rxMqSz := 128
    txMqSz := 128, openFiles := [⟨5, .bulkIn⟩, ⟨3, .bulkOut⟩, ⟨4, .status⟩]
    closes := [⟨3, true⟩, ⟨4, true⟩, ⟨5, true⟩], received := [[1, 2]], rxBuffer := [1, 2] }

theorem read_recovery_result_reconnected :
    (handleUsbReadErr smallConfig 512 3 (-1)).exec UsbWorld.handle brokenWorld reconnected =
        some (2, reconnectedWorld) ∧
      ReadOnce (-1) brokenWorld reconnected 2 reconnectedWorld := by
  have executed : (handleUsbReadErr smallConfig 512 3 (-1)).exec UsbWorld.handle brokenWorld
      reconnected = some (2, reconnectedWorld) := by decide
  exact ⟨executed, (read_recovery_result (by decide) executed).2.1⟩

/-!
## Reasons to give up
-/

/-- The error number of the read that the recovery is called for, if that failed. -/
def incomingErrors (err : Int) (world : UsbWorld) : List Errno :=
  if err < 0 then [world.errno] else []

/-- What may end a recovery before its bound: bytes, a disconnected cable after `EIO`, or
an error of the last failed read that is not retried. `errors` are those before its reads. -/
def NamedReason (errors : List Errno) (events : List UsbEvent) : Prop :=
  (∃ result ∈ readResults events, 0 < result) ∨
    (.usbConnected false ∈ events ∧ (errors ++ readErrors events).getLast? = some .eio) ∨
    ∃ errno, (errors ++ readErrors events).getLast? = some errno ∧ ¬ errno.Retried

/-- An attempt to reopen the endpoints that failed leaves an `errno` that is retried. -/
def RetriedAfterFailure (earlier later : RecoveryPass) : Prop :=
  (∃ errno, .openFailed errno ∈ earlier.events) → later.before.errno.Retried

/-- What is known where a pass starts, `stale` saying that the pass before it could not
reopen the endpoints and did not read. -/
structure Entry (errors : List Errno) (stale : Bool) (err : Int) (world : UsbWorld) : Prop where
  nothing : err ≤ 0
  last : err < 0 → errors.getLast? = some (if stale then .eio else world.errno)
  failed : stale = true → err < 0

private theorem namedReason_append {errors : List Errno} {first second : List UsbEvent}
    (unread : ∀ result ∈ readResults first, result ≤ 0)
    (connected : .usbConnected false ∉ first) :
    NamedReason errors (first ++ second) ↔
      NamedReason (errors ++ readErrors first) second := by
  have results : (∃ result ∈ readResults (first ++ second), 0 < result) ↔
      ∃ result ∈ readResults second, 0 < result := by
    simp only [readResults_append, List.mem_append]
    constructor
    · intro found
      obtain ⟨result, member | member, positive⟩ := found
      · exact absurd (unread result member) (Int.not_le.mpr positive)
      · exact ⟨result, member, positive⟩
    · intro found
      obtain ⟨result, member, positive⟩ := found
      exact ⟨result, .inr member, positive⟩
  simp only [NamedReason, results, List.mem_append, connected, false_or, readErrors_append,
    List.append_assoc]

theorem Prepared.openFailed_iff {err : Int} {before : UsbWorld} {events : List UsbEvent}
    {prepared : Option Obstacle} (outcome : Prepared err before events prepared) :
    (∃ errno, .openFailed errno ∈ events) ↔ prepared = some .reopenFailed := by
  cases outcome with
  | @reopenFailed rest errno quiet failed broken unopened =>
      exact iff_of_true ⟨errno, by simp [unopened]⟩ rfl
  | reopened quiet failed broken opened => simp [opened]
  | disconnected failed broken => simp
  | skipped quiet _ | unknown quiet _ =>
      refine iff_of_false ?_ nofun
      intro named
      obtain ⟨errno, member⟩ := named
      exact absurd (quiet _ member) nofun

theorem Prepared.disconnected_iff {err : Int} {before : UsbWorld} {events : List UsbEvent}
    {prepared : Option Obstacle} (outcome : Prepared err before events prepared) :
    .usbConnected false ∈ events ↔ prepared = some .disconnected := by
  cases outcome with
  | disconnected failed broken => simp
  | reopened quiet _ _ _ | reopenFailed quiet _ _ _ =>
      refine iff_of_false ?_ nofun
      intro member
      simp only [List.mem_cons, reduceCtorEq, UsbEvent.usbConnected.injEq, Bool.false_eq_true,
        false_or] at member
      exact quiet _ member
  | skipped quiet _ | unknown quiet _ =>
      refine iff_of_false ?_ nofun
      intro member
      exact absurd (quiet _ member) nofun

theorem Prepared.retried {err : Int} {before : UsbWorld} {events : List UsbEvent}
    {prepared : Option Obstacle} (outcome : Prepared err before events prepared)
    (failed : err < 0) : before.errno.Retried ↔ prepared ≠ some .unknown := by
  cases outcome with
  | skipped quiet minor =>
      rcases minor with zero | ⟨_, retried, _⟩
      · omega
      · exact iff_of_true retried nofun
  | reopened quiet _ broken opened => simp [broken, Errno.Retried]
  | reopenFailed quiet _ broken unopened => simp [broken, Errno.Retried]
  | disconnected _ broken => simp [broken, Errno.Retried]
  | unknown quiet strange =>
      rcases strange with positive | ⟨_, refused⟩
      · omega
      · exact iff_of_false refused (by simp)

theorem Prepared.broken {err : Int} {before : UsbWorld} {events : List UsbEvent}
    {prepared : Option Obstacle} (outcome : Prepared err before events prepared)
    (obstacle : prepared = some .reopenFailed ∨ prepared = some .disconnected) :
    err < 0 ∧ before.errno = .eio := by
  cases outcome with
  | reopenFailed quiet failed broken unopened => exact ⟨failed, broken⟩
  | disconnected failed broken => exact ⟨failed, broken⟩
  | skipped _ _ | reopened _ _ _ _ | unknown _ _ => simp at obstacle

def obstacleOf : Except Obstacle Int → Option Obstacle
  | .ok _ => none
  | .error obstacle => some obstacle

theorem PassOutcome.prepared {err : Int} {before after : UsbWorld} {events : List UsbEvent}
    {output : Except Obstacle Int} (outcome : PassOutcome err before events output after) :
    ∃ first reading, events = first ++ reading ∧ Prepared err before first (obstacleOf output) ∧
      ∀ event ∈ reading, event = .memory ∨ event.IsRead := by
  cases outcome with
  | ended prepared received => exact ⟨events, [], (List.append_nil events).symm, prepared, nofun⟩
  | delivered prepared received => exact ⟨_, _, rfl, prepared, by simp [UsbEvent.IsRead]⟩
  | failed prepared received => exact ⟨_, _, rfl, prepared, by simp [UsbEvent.IsRead]⟩

theorem PassOutcome.openFailed_iff {err : Int} {before after : UsbWorld}
    {events : List UsbEvent} {output : Except Obstacle Int}
    (outcome : PassOutcome err before events output after) :
    (∃ errno, .openFailed errno ∈ events) ↔ obstacleOf output = some .reopenFailed := by
  obtain ⟨first, reading, rfl, prepared, calm⟩ := outcome.prepared
  have elsewhere (errno : Errno) : .openFailed errno ∉ reading := fun member =>
    (calm _ member).elim nofun id
  simp [elsewhere, prepared.openFailed_iff]

theorem PassOutcome.disconnected_iff {err : Int} {before after : UsbWorld}
    {events : List UsbEvent} {output : Except Obstacle Int}
    (outcome : PassOutcome err before events output after) :
    .usbConnected false ∈ events ↔ obstacleOf output = some .disconnected := by
  obtain ⟨first, reading, rfl, prepared, calm⟩ := outcome.prepared
  have elsewhere : .usbConnected false ∉ reading := fun member => (calm _ member).elim nofun id
  simp [elsewhere, prepared.disconnected_iff]

theorem PassOutcome.not_disconnected {err next : Int} {before after : UsbWorld}
    {events : List UsbEvent} {output : Except Obstacle Int}
    (outcome : PassOutcome err before events output after)
    (again : recoveryDecision err output = .again next) : .usbConnected false ∉ events := by
  rw [outcome.disconnected_iff]
  intro disconnected
  cases output with
  | ok result => cases disconnected
  | error obstacle =>
      obtain rfl := Option.some.inj disconnected
      cases again

/-- Only a pass that fails to reopen the endpoints hands on an old failure. -/
theorem PassOutcome.entry {errors : List Errno} {stale : Bool} {err next : Int}
    {before after : UsbWorld} {events : List UsbEvent} {output : Except Obstacle Int}
    (outcome : PassOutcome err before events output after) (entry : Entry errors stale err before)
    (again : recoveryDecision err output = .again next) :
    Entry (errors ++ readErrors events) (obstacleOf output = some .reopenFailed) next after := by
  have nothing := (outcome.nothingRead entry.nothing again).nonpos
  cases outcome with
  | @ended _ obstacle _ prepared received =>
      cases obstacle <;> simp only [recoveryDecision, Decision.again.injEq, reduceCtorEq] at again
      subst again
      obtain ⟨failed, broken⟩ := prepared.broken (.inl rfl)
      have last := entry.last failed
      rw [broken, ite_self] at last
      constructor
      · exact nothing
      · intro _
        simp [readErrors_eq_nil prepared.not_isRead, last, obstacleOf]
      · exact fun _ => failed
  | @delivered first bytes middle prepared received =>
      have zero : next = 0 := by
        rw [recoveryDecision_readBytes] at again
        split at again
        · exact (Decision.again.inj again).symm
        · cases again
      exact ⟨nothing, by omega, by simp [obstacleOf]⟩
  | @failed first errno middle prepared received =>
      refine ⟨nothing, fun _ => ?_, by simp [obstacleOf]⟩
      simp [readErrors, obstacleOf, UsbWorld.setErrno]

theorem PassOutcome.retried {errors : List Errno} {stale : Bool} {err next : Int}
    {before after : UsbWorld} {events : List UsbEvent} {output : Except Obstacle Int}
    (outcome : PassOutcome err before events output after) (entry : Entry errors stale err before)
    (again : recoveryDecision err output = .again next) :
    stale = true → before.errno.Retried := by
  intro left_over
  obtain ⟨first, reading, -, prepared, -⟩ := outcome.prepared
  rw [prepared.retried (entry.failed left_over)]
  intro strange
  cases output with
  | ok result => cases strange
  | error obstacle =>
      obtain rfl := Option.some.inj strange
      cases again

/-- A pass that leaves the loop has a named reason, unless what it looks at is not
the error of a read. -/
theorem PassOutcome.namedReason_iff {errors : List Errno} {stale : Bool} {err value : Int}
    {before after : UsbWorld} {events : List UsbEvent} {output : Except Obstacle Int}
    (outcome : PassOutcome err before events output after) (entry : Entry errors stale err before)
    (left : recoveryDecision err output = .leave value) :
    NamedReason errors events ↔ (stale = true → before.errno.Retried) := by
  cases outcome with
  | failed prepared received => cases left
  | @delivered first bytes middle prepared received =>
      have nonempty : bytes ≠ [] := by
        rintro rfl
        cases left
      have positive : (0 : Int) < bytes.length :=
        Int.natCast_pos.mpr (List.length_pos_iff.mpr nonempty)
      refine iff_of_true (.inl ⟨bytes.length, by simp, positive⟩) fun left_over => ?_
      exact (prepared.retried (entry.failed left_over)).mpr nofun
  | @ended _ obstacle _ prepared received =>
      have silent := readResults_eq_nil prepared.not_isRead
      have no_errors := readErrors_eq_nil prepared.not_isRead
      have disconnected_iff := prepared.disconnected_iff
      cases obstacle with
      | reopenFailed => cases left
      | disconnected =>
          obtain ⟨failed, broken⟩ := prepared.broken (.inr rfl)
          have last := entry.last failed
          rw [broken, ite_self] at last
          refine iff_of_true (.inr (.inl ⟨disconnected_iff.mpr rfl, ?_⟩)) fun _ => ?_
          · rw [no_errors, List.append_nil, last]
          · simp [broken, Errno.Retried]
      | unknown =>
          have failed : err < 0 ∧ ¬ before.errno.Retried := by
            cases prepared with
            | unknown quiet strange =>
                exact strange.resolve_left (Int.not_lt.mpr entry.nothing)
          have last := entry.last failed.1
          simp only [NamedReason, silent, no_errors, disconnected_iff, List.append_nil, last]
          have known : Errno.eio.Retried := by decide
          cases stale with
          | false => simp [failed.2]
          | true => simp [failed.2, known]

private theorem givesUp_iff {conf : MtpConfig} {bufLen : Int} {bound : Nat} {errors : List Errno}
    {stale : Bool} {err value : Int} {world after : UsbWorld} {passes : List RecoveryPass}
    (entry : Entry errors stale err world)
    (taken : RecoveryPasses conf bufLen bound err world passes value after) :
    (Program.LeftEarly recoveryDecision passes →
        NamedReason errors (passes.flatMap Pass.events)) ↔
      (∀ pass ∈ passes.head?, stale = true → pass.before.errno.Retried) ∧
        passes.IsChain RetriedAfterFailure := by
  induction taken generalizing errors stale with
  | exhausted => simp [Program.LeftEarly]
  | @leaves _ value pass executed left =>
      have outcome := Program.exec_ensures (recoveryPass_ensures conf bufLen _ _) executed
      have early : Program.LeftEarly recoveryDecision [pass] := ⟨pass, value, rfl, left⟩
      simp [early, outcome.namedReason_iff entry left]
  | @goesOn _ next passes _ _ pass executed again rest ih =>
      have outcome := Program.exec_ensures (recoveryPass_ensures conf bufLen _ _) executed
      have unread := outcome.nothingRead entry.nothing again
      have results : ∀ result ∈ readResults pass.events, result ≤ 0 := by
        rcases unread.results with ⟨none, _⟩ | one
        · simp [none]
        · simpa [one] using unread.nonpos
      have first := outcome.retried entry again
      rw [Program.leftEarly_cons again, List.flatMap_cons,
        namedReason_append results (outcome.not_disconnected again),
        ih (outcome.entry entry again), List.isChain_cons]
      have same (later : RecoveryPass) : RetriedAfterFailure pass later ↔
          (decide (obstacleOf pass.output = some .reopenFailed) = true →
            later.before.errno.Retried) := by
        simp [RetriedAfterFailure, outcome.openFailed_iff]
      simp only [same]
      constructor
      · intro both
        refine ⟨fun head member => ?_, both⟩
        obtain rfl : pass = head := Option.some.inj member
        exact first
      · exact And.right

/-- The recovery stops before its bound for the named reasons only, exactly when every
failure to reopen the endpoints leaves an `errno` that the next pass knows. -/
theorem read_recovery_givesUp_iff {conf : MtpConfig} {bufLen : Int} {bound : Nat}
    {err value : Int} {world after : UsbWorld} {events : List UsbEvent} (nothing : err ≤ 0)
    (executed : (handleUsbReadErr conf bufLen bound err).exec UsbWorld.handle world events =
      some (value, after)) :
    ∃ passes, RecoveryPasses conf bufLen bound err world passes value after ∧
      passes.flatMap Pass.events = events ∧
      ((Program.LeftEarly recoveryDecision passes →
          NamedReason (incomingErrors err world) events) ↔
        passes.IsChain RetriedAfterFailure) := by
  rw [handleUsbReadErr_eq_recovery] at executed
  obtain ⟨passes, taken, rfl⟩ := Program.exec_loop.mp executed
  have entry : Entry (incomingErrors err world) false err world :=
    ⟨nothing, fun failed => by simp [incomingErrors, failed], nofun⟩
  refine ⟨passes, taken, rfl, (givesUp_iff entry taken).trans ?_⟩
  simp only [Bool.false_eq_true, false_implies, implies_true, true_and]

theorem read_recovery_givesUp_reconnected :
    ∃ passes, RecoveryPasses smallConfig 512 3 (-1) brokenWorld passes 2 reconnectedWorld ∧
      passes.flatMap Pass.events = reconnected ∧
      ((Program.LeftEarly recoveryDecision passes →
          NamedReason (incomingErrors (-1) brokenWorld) reconnected) ↔
        passes.IsChain RetriedAfterFailure) :=
  read_recovery_givesUp_iff (by decide) (by decide)

/-- The device, when it has gone before bulk-in could be opened again. -/
def vanishedWorld : UsbWorld :=
  { brokenWorld with
    usbEpIn := -1, usbEpOut := -1, usbEpStatus := -1, errno := .other 2, openFiles := []
    closes := [⟨3, true⟩, ⟨4, true⟩, ⟨5, true⟩] }

def vanished : List UsbEvent :=
  [.memory, .usbConnected true] ++ closedAnswers ++
    [.memory, .openFailed (.other 2), .memory, .memory]

/-- The `errno` of the failed `open` is taken for that of a read: the recovery ends in
its second of three passes, though the last read failed with `EIO` and the cable is in. -/
theorem read_recovery_gives_up_after_failed_open :
    (handleUsbReadErr smallConfig 512 3 (-1)).exec UsbWorld.handle brokenWorld
        (vanished ++ [.memory]) = some (-1, vanishedWorld) ∧
      ∃ passes, RecoveryPasses smallConfig 512 3 (-1) brokenWorld passes (-1) vanishedWorld ∧
        passes.flatMap Pass.events = vanished ++ [.memory] ∧ passes.length = 2 ∧
        Program.LeftEarly recoveryDecision passes ∧
        ¬ NamedReason (incomingErrors (-1) brokenWorld) (vanished ++ [.memory]) := by
  let first : RecoveryPass :=
    ⟨-1, brokenWorld, vanished, .error .reopenFailed, vanishedWorld⟩
  let second : RecoveryPass :=
    ⟨-1, vanishedWorld, [.memory], .error .unknown, vanishedWorld⟩
  have taken : RecoveryPasses smallConfig 512 3 (-1) brokenWorld [first, second] (-1)
      vanishedWorld := .goesOn first (by decide) rfl (.leaves second (by decide) rfl)
  refine ⟨by decide, [first, second], taken, rfl, rfl, ⟨second, -1, rfl, rfl⟩, ?_⟩
  simp [NamedReason, readResults, readErrors, incomingErrors, vanished, closedAnswers,
    brokenWorld, Errno.Retried]

end VelaExternal.MtpResponder
