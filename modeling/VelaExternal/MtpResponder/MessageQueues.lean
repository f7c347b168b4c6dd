import VelaExternal.Systems.Program

/-!
# Message queues of the USB driver

`ffs_transport_mq_init` and `ffs_transport_mq_deinit` create and destroy the
receive and the transmit queue. The queues are known by number: the two
identifiers of the caller name them, and zero stands for none.
-/

set_option autoImplicit false

namespace VelaExternal.MtpResponder

open Systems

/-- The identifier that a `msgq_id_t *` argument points to. -/
inductive Mqid where
  | rx
  | tx
  deriving DecidableEq

/-- The caller's identifiers, and the queues that the driver created and that still exist. -/
structure MqWorld where
  rxMqid : Int
  txMqid : Int
  alive : List Int
  deriving DecidableEq

namespace MqWorld

def mqid (world : MqWorld) : Mqid → Int
  | .rx => world.rxMqid
  | .tx => world.txMqid

def assign (world : MqWorld) : Mqid → Int → MqWorld
  | .rx, id => { world with rxMqid := id }
  | .tx, id => { world with txMqid := id }

def create (world : MqWorld) (which : Mqid) (id : Int) : MqWorld :=
  { world with alive := world.alive ++ [id] }.assign which id

def destroy (world : MqWorld) (id : Int) : MqWorld :=
  { world with alive := world.alive.filter (· ≠ id) }

end MqWorld

inductive MqOp where
  | load (which : Mqid)
  | store (which : Mqid) (id : Int)
  | msgqInit (which : Mqid)
  | msgqDeinit (which : Mqid)
  | msgqSetSize (id : Int) (size : Nat)

abbrev MqOp.Reply : MqOp → Type
  | .load _ => Int
  | .store _ _ => Unit
  | .msgqInit _ => Bool
  | .msgqDeinit _ => Bool
  | .msgqSetSize _ _ => Bool

/-- What the environment decides; a creation that fails may leave -1 in the identifier. -/
inductive MqEvent where
  | memory
  | created (id : Int)
  | createFailed (overwritten : Bool)
  | destroyed
  | destroyFailed
  | sized (done : Bool)
  deriving DecidableEq

def MqWorld.handle (world : MqWorld) :
    (op : MqOp) → MqEvent → Option (MqOp.Reply op × MqWorld)
  | .load which, .memory => some (world.mqid which, world)
  | .store which id, .memory => some ((), world.assign which id)
  | .msgqInit which, .created id =>
      if 0 ≤ id ∧ id ∉ world.alive then some (true, world.create which id) else none
  | .msgqInit which, .createFailed overwritten =>
      some (false, if overwritten then world.assign which (-1) else world)
  | .msgqDeinit which, .destroyed => some (true, world.destroy (world.mqid which))
  | .msgqDeinit _, .destroyFailed => some (false, world)
  | .msgqSetSize _ _, .sized done => some (done, world)
  | _, _ => none

abbrev MqProgram := Program MqOp MqOp.Reply

def loadMqid (which : Mqid) : MqProgram Int := .perform (MqOp.load which)

def storeMqid (which : Mqid) (id : Int) : MqProgram Unit := .perform (MqOp.store which id)

def utilMsgqInit (which : Mqid) : MqProgram Bool := .perform (MqOp.msgqInit which)

def utilMsgqDeinit (which : Mqid) : MqProgram Bool := .perform (MqOp.msgqDeinit which)

def utilMsgqSetSize (id : Int) (size : Nat) : MqProgram Bool :=
  .perform (MqOp.msgqSetSize id size)

def ffsTransportMqInit (rxMqSz txMqSz : Nat) : MqProgram Bool := do
  if !(← utilMsgqInit .rx) then
    return false
  -- a size that cannot be set is reported and otherwise ignored
  let _ ← utilMsgqSetSize (← loadMqid .rx) rxMqSz
  if !(← utilMsgqInit .tx) then
    let _ ← utilMsgqDeinit .rx
    storeMqid .rx (-1)
    return false
  let _ ← utilMsgqSetSize (← loadMqid .tx) txMqSz
  return true

/-- What `ffs_transport_mq_deinit` does for each of its arguments; `res` is its result so far. -/
def releaseMqid (which : Mqid) (res : Bool) : MqProgram Bool := do
  if (← loadMqid which) ≠ 0 then
    if !(← utilMsgqDeinit which) then
      return false
    storeMqid which 0
    return true
  return res

def ffsTransportMqDeinit : MqProgram Bool := do
  let res ← releaseMqid .rx true
  releaseMqid .tx res

inductive MqCall where
  | mqInit (rxMqSz txMqSz : Nat) (answers : List MqEvent)
  | mqDeinit (answers : List MqEvent)

structure MqState where
  world : MqWorld
  returned : Option Bool
  deriving DecidableEq

def MqState.step (state : MqState) : MqCall → Option MqState
  | .mqInit rxMqSz txMqSz answers =>
      ((ffsTransportMqInit rxMqSz txMqSz).exec MqWorld.handle state.world answers).map
        fun result => ⟨result.2, some result.1⟩
  | .mqDeinit answers =>
      (ffsTransportMqDeinit.exec MqWorld.handle state.world answers).map
        fun result => ⟨result.2, some result.1⟩

/-- No queue has been created, and the identifiers hold any values. -/
def MqState.initial (rxMqid txMqid : Int) : MqState := ⟨⟨rxMqid, txMqid, []⟩, none⟩

/-!
## Rules of the operations
-/

@[simp] theorem mqid_assign (world : MqWorld) (which other : Mqid) (id : Int) :
    (world.assign which id).mqid other = if other = which then id else world.mqid other := by
  cases which <;> cases other <;> rfl

@[simp] theorem alive_assign (world : MqWorld) (which : Mqid) (id : Int) :
    (world.assign which id).alive = world.alive := by
  cases which <;> rfl

@[simp] theorem ensures_loadMqid {which : Mqid} {world : MqWorld}
    {post : List MqEvent → Int → MqWorld → Prop} :
    (loadMqid which).Ensures MqWorld.handle post world ↔
      post [.memory] (world.mqid which) world := by
  apply Program.ensures_perform_sole rfl
  intro other different
  cases other with
  | memory => exact absurd rfl different
  | _ => rfl

@[simp] theorem ensures_storeMqid {which : Mqid} {id : Int} {world : MqWorld}
    {post : List MqEvent → Unit → MqWorld → Prop} :
    (storeMqid which id).Ensures MqWorld.handle post world ↔
      post [.memory] () (world.assign which id) := by
  apply Program.ensures_perform_sole rfl
  intro other different
  cases other with
  | memory => exact absurd rfl different
  | _ => rfl

@[simp] theorem ensures_utilMsgqInit {which : Mqid} {world : MqWorld}
    {post : List MqEvent → Bool → MqWorld → Prop} :
    (utilMsgqInit which).Ensures MqWorld.handle post world ↔
      (∀ id, 0 ≤ id ∧ id ∉ world.alive → post [.created id] true (world.create which id)) ∧
        ∀ overwritten, post [.createFailed overwritten] false
          (if overwritten then world.assign which (-1) else world) := by
  constructor
  · intro ensured
    constructor
    · intro id unused
      exact ensured (.created id) _ _ (if_pos unused)
    · intro overwritten
      exact ensured (.createFailed overwritten) _ _ rfl
  · intro both event reply after handled
    obtain ⟨created, failed⟩ := both
    cases event <;> simp only [MqWorld.handle, Option.some.injEq, Prod.mk.injEq,
      reduceCtorEq, Option.ite_none_right_eq_some] at handled
    case created id =>
      obtain ⟨unused, rfl, rfl⟩ := handled
      exact created id unused
    case createFailed overwritten =>
      obtain ⟨rfl, rfl⟩ := handled
      exact failed overwritten

@[simp] theorem ensures_utilMsgqDeinit {which : Mqid} {world : MqWorld}
    {post : List MqEvent → Bool → MqWorld → Prop} :
    (utilMsgqDeinit which).Ensures MqWorld.handle post world ↔
      post [.destroyed] true (world.destroy (world.mqid which)) ∧
        post [.destroyFailed] false world := by
  constructor
  · intro ensured
    exact ⟨ensured .destroyed _ _ rfl, ensured .destroyFailed _ _ rfl⟩
  · intro both event reply after handled
    obtain ⟨destroyed, failed⟩ := both
    cases event <;> simp only [MqWorld.handle, Option.some.injEq, Prod.mk.injEq,
      reduceCtorEq] at handled
    case destroyed =>
      obtain ⟨rfl, rfl⟩ := handled
      exact destroyed
    case destroyFailed =>
      obtain ⟨rfl, rfl⟩ := handled
      exact failed

@[simp] theorem ensures_utilMsgqSetSize {id : Int} {size : Nat} {world : MqWorld}
    {post : List MqEvent → Bool → MqWorld → Prop} :
    (utilMsgqSetSize id size).Ensures MqWorld.handle post world ↔
      ∀ done, post [.sized done] done world := by
  apply Program.ensures_perform_kind fun _ => rfl
  intro other different
  cases other with
  | sized done => exact absurd rfl (different done)
  | _ => rfl

end VelaExternal.MtpResponder
