import Mathlib.Logic.Function.Basic
import VelaExternal.Systems.Program

/-!
# Socket buffers

`dev_alloc_skb`, `skb_reserve`, `skb_push` and `dev_kfree_skb` of `nuttx/linux/skbuff.c`.
A buffer consists of two heap blocks, its `sk_buff` and the head block that this points
to. The allocator is outside the repository.
-/

set_option autoImplicit false

namespace VelaExternal.Ethercat

open Systems

/-- A place in a heap block, before or behind it included; block 0 stands for `NULL`. -/
structure Pointer where
  block : Nat
  offset : Int
  deriving DecidableEq

def Pointer.add (pointer : Pointer) (len : Int) : Pointer :=
  { pointer with offset := pointer.offset + len }

structure SkBuff where
  len : UInt32
  data : Pointer
  head : Pointer
  tail : Pointer
  deriving DecidableEq

/-- A field with the value that is assigned to it. -/
inductive SkBuffField where
  | len (value : UInt32)
  | data (value : Pointer)
  | head (value : Pointer)
  | tail (value : Pointer)

def SkBuff.set (skb : SkBuff) : SkBuffField → SkBuff
  | .len value => { skb with len := value }
  | .data value => { skb with data := value }
  | .head value => { skb with head := value }
  | .tail value => { skb with tail := value }

/-- What `kmalloc` leaves in a block, which it clears. -/
def SkBuff.zero : SkBuff := ⟨0, ⟨0, 0⟩, ⟨0, 0⟩, ⟨0, 0⟩⟩

/-- The live blocks, and the `sk_buff` that is seen in each. -/
structure SkbWorld where
  blocks : List Nat
  memory : Nat → SkBuff

namespace SkbWorld

def write (world : SkbWorld) (skb : Nat) (value : SkBuff) : SkbWorld :=
  { world with memory := Function.update world.memory skb value }

def allocate (world : SkbWorld) (block : Nat) : SkbWorld :=
  { world with blocks := world.blocks ++ [block] }.write block .zero

/-- Only the pointer that the allocator gave out releases a block. -/
def free (world : SkbWorld) (pointer : Pointer) : SkbWorld :=
  if pointer.offset = 0 then { world with blocks := world.blocks.erase pointer.block } else world

end SkbWorld

inductive AllocationSize where
  | bytes (length : UInt32)
  | skBuff

inductive SkbOp where
  | kmalloc (size : AllocationSize)
  | kfree (pointer : Pointer)
  | load (skb : Nat)
  | store (skb : Nat) (field : SkBuffField)

abbrev SkbOp.Reply : SkbOp → Type
  | .kmalloc _ => Nat
  | .load _ => SkBuff
  | _ => Unit

/-- What the environment decides; `memory` is an access to memory. -/
inductive SkbEvent where
  | memory
  | allocated (block : Nat)
  | outOfMemory
  | freed
  deriving DecidableEq

def SkbWorld.handle (world : SkbWorld) :
    (op : SkbOp) → SkbEvent → Option (SkbOp.Reply op × SkbWorld)
  | .kmalloc _, .allocated block =>
      if block ≠ 0 ∧ block ∉ world.blocks then some (block, world.allocate block) else none
  | .kmalloc _, .outOfMemory => some (0, world)
  | .kfree pointer, .freed => some ((), world.free pointer)
  | .load skb, .memory => some (world.memory skb, world)
  | .store skb field, .memory => some ((), world.write skb ((world.memory skb).set field))
  | _, _ => none

abbrev SkbProgram := Program SkbOp SkbOp.Reply

def kmalloc (size : AllocationSize) : SkbProgram Nat := .perform (SkbOp.kmalloc size)

def kfree (pointer : Pointer) : SkbProgram Unit := .perform (SkbOp.kfree pointer)

def loadSkb (skb : Nat) : SkbProgram SkBuff := .perform (SkbOp.load skb)

def storeSkb (skb : Nat) (field : SkBuffField) : SkbProgram Unit :=
  .perform (SkbOp.store skb field)

def devAllocSkb (length : UInt32) : SkbProgram Nat := do
  let data ← kmalloc (.bytes length)
  if data = 0 then
    return 0
  let skb ← kmalloc .skBuff
  if skb = 0 then
    return 0
  storeSkb skb (.head ⟨data, 0⟩)
  storeSkb skb (.data ⟨data, 0⟩)
  storeSkb skb (.tail (← loadSkb skb).data)
  return skb

def skbReserve (skb : Nat) (len : Int32) : SkbProgram Unit := do
  storeSkb skb (.data ((← loadSkb skb).data.add len.toInt))
  storeSkb skb (.tail ((← loadSkb skb).tail.add len.toInt))

def skbPush (skb : Nat) (len : UInt32) : SkbProgram Pointer := do
  storeSkb skb (.data ((← loadSkb skb).data.add (-len.toNat)))
  storeSkb skb (.len ((← loadSkb skb).len + len))
  return (← loadSkb skb).data

def devKfreeSkb (skb : Nat) : SkbProgram Unit := do
  kfree (← loadSkb skb).head
  kfree ⟨skb, 0⟩

/-!
## Calls on live buffers
-/

/-- A buffer that `dev_alloc_skb` returned, with the head block that it got. -/
structure LiveBuffer where
  skb : Nat
  head : Nat
  deriving DecidableEq

def LiveBuffer.blocks (buffer : LiveBuffer) : List Nat := [buffer.head, buffer.skb]

inductive SkbFunction where
  | devAllocSkb (length : UInt32)
  | skbReserve (skb : Nat) (len : Int32)
  | skbPush (skb : Nat) (len : UInt32)
  | devKfreeSkb (skb : Nat)

structure SkbCall where
  function : SkbFunction
  answers : List SkbEvent

/-- What is there between two calls; `returned` is the latest result of `dev_alloc_skb`. -/
structure SkbState where
  world : SkbWorld
  live : List LiveBuffer
  returned : Nat

namespace SkbState

def bufferOf (state : SkbState) (skb : Nat) : Option LiveBuffer :=
  state.live.find? fun buffer => buffer.skb = skb

/-- The world after a call, and its result. -/
def perform {Value : Type} (state : SkbState) (program : SkbProgram Value)
    (answers : List SkbEvent) : Option (Value × SkbWorld) :=
  program.exec SkbWorld.handle state.world answers

/-- A call to allocate; the buffer is live unless the result is `NULL`. -/
def allocated (state : SkbState) (skb : Nat) (world : SkbWorld) : SkbState where
  world := world
  live := if skb = 0 then state.live else ⟨skb, (world.memory skb).head.block⟩ :: state.live
  returned := skb

def step (state : SkbState) (call : SkbCall) : Option SkbState :=
  match call.function with
  | .devAllocSkb length =>
      (state.perform (Ethercat.devAllocSkb length) call.answers).map fun result =>
        state.allocated result.1 result.2
  | .skbReserve skb len =>
      (state.bufferOf skb).bind fun _ =>
        (state.perform (Ethercat.skbReserve skb len) call.answers).map fun result =>
          { state with world := result.2 }
  | .skbPush skb len =>
      (state.bufferOf skb).bind fun _ =>
        (state.perform (Ethercat.skbPush skb len) call.answers).map fun result =>
          { state with world := result.2 }
  | .devKfreeSkb skb =>
      (state.bufferOf skb).bind fun buffer =>
        (state.perform (Ethercat.devKfreeSkb skb) call.answers).map fun result =>
          { state with world := result.2, live := state.live.erase buffer }

def initial : SkbState := ⟨⟨[], fun _ => .zero⟩, [], 0⟩

end SkbState

end VelaExternal.Ethercat
