import VelaExternal.Ethercat.Skbuff
import VelaExternal.Systems.Ledger
import VelaExternal.Systems.Run

/-! Which heap blocks are live over calls that allocate, move and free socket buffers. -/

set_option autoImplicit false

namespace VelaExternal.Ethercat

open Systems

/-!
## Rules of the operations
-/

section Rules

variable {world : SkbWorld}

@[simp] theorem blocks_write (world : SkbWorld) (skb : Nat) (value : SkBuff) :
    (world.write skb value).blocks = world.blocks := rfl

@[simp] theorem blocks_allocate (world : SkbWorld) (block : Nat) :
    (world.allocate block).blocks = world.blocks ++ [block] := rfl

@[simp] theorem memory_write_self (world : SkbWorld) (skb : Nat) (value : SkBuff) :
    (world.write skb value).memory skb = value := Function.update_self ..

private theorem memory_write_of_ne (world : SkbWorld) {skb other : Nat} (value : SkBuff)
    (different : other ≠ skb) : (world.write skb value).memory other = world.memory other :=
  Function.update_of_ne different ..

private theorem memory_allocate_of_ne (world : SkbWorld) {block other : Nat} (different : other ≠ block) :
    (world.allocate block).memory other = world.memory other :=
  Function.update_of_ne different ..

@[simp] theorem memory_free (world : SkbWorld) (pointer : Pointer) :
    (world.free pointer).memory = world.memory := by
  unfold SkbWorld.free
  split <;> rfl

@[simp] theorem ensures_kmalloc {size : AllocationSize}
    {post : List SkbEvent → Nat → SkbWorld → Prop} :
    (kmalloc size).Ensures SkbWorld.handle post world ↔
      (∀ block, block ≠ 0 ∧ block ∉ world.blocks →
        post [.allocated block] block (world.allocate block)) ∧
        post [.outOfMemory] 0 world := by
  constructor
  · intro ensured
    constructor
    · intro block fresh
      exact ensured (.allocated block) _ _ (if_pos fresh)
    · exact ensured .outOfMemory _ _ rfl
  · intro both event reply after handled
    obtain ⟨allocated, failed⟩ := both
    cases event <;> simp only [SkbWorld.handle, Option.some.injEq, Prod.mk.injEq,
      Option.ite_none_right_eq_some, reduceCtorEq] at handled
    case allocated block =>
      obtain ⟨fresh, rfl, rfl⟩ := handled
      exact allocated block fresh
    case outOfMemory =>
      obtain ⟨rfl, rfl⟩ := handled
      exact failed

@[simp] theorem ensures_kfree {pointer : Pointer} {post : List SkbEvent → Unit → SkbWorld → Prop} :
    (kfree pointer).Ensures SkbWorld.handle post world ↔
      post [.freed] () (world.free pointer) := by
  apply Program.ensures_perform_sole rfl
  intro other different
  cases other with
  | freed => exact absurd rfl different
  | _ => rfl

@[simp] theorem ensures_loadSkb {skb : Nat} {post : List SkbEvent → SkBuff → SkbWorld → Prop} :
    (loadSkb skb).Ensures SkbWorld.handle post world ↔
      post [.memory] (world.memory skb) world := by
  apply Program.ensures_perform_sole rfl
  intro other different
  cases other with
  | memory => exact absurd rfl different
  | _ => rfl

@[simp] theorem ensures_storeSkb {skb : Nat} {field : SkBuffField}
    {post : List SkbEvent → Unit → SkbWorld → Prop} :
    (storeSkb skb field).Ensures SkbWorld.handle post world ↔
      post [.memory] () (world.write skb ((world.memory skb).set field)) := by
  apply Program.ensures_perform_sole rfl
  intro other different
  cases other with
  | memory => exact absurd rfl different
  | _ => rfl

end Rules

/-!
## What the functions do
-/

/-- How an allocation ends: without a block, with the first block only, or with both. -/
inductive AllocOutcome (before : SkbWorld) : List SkbEvent → Nat → SkbWorld → Prop where
  | noBlock {answers : List SkbEvent} (none : ∀ block, .allocated block ∉ answers) :
      AllocOutcome before answers 0 before
  | halved {answers : List SkbEvent} {data : Nat} (fresh : data ∉ before.blocks)
      (first : .allocated data ∈ answers) (failed : .outOfMemory ∈ answers) :
      AllocOutcome before answers 0 (before.allocate data)
  | both {answers : List SkbEvent} {data skb : Nat} {after : SkbWorld}
      (complete : .outOfMemory ∉ answers) (named : skb ≠ 0) (data_fresh : data ∉ before.blocks)
      (skb_fresh : skb ∉ before.blocks ++ [data])
      (blocks : after.blocks = before.blocks ++ [data, skb])
      (head : (after.memory skb).head = ⟨data, 0⟩)
      (others : ∀ other ∈ before.blocks, after.memory other = before.memory other) :
      AllocOutcome before answers skb after

private theorem devAllocSkb_ensures (length : UInt32) (world : SkbWorld) :
    (devAllocSkb length).Ensures SkbWorld.handle (AllocOutcome world) world := by
  simp only [devAllocSkb, Program.ensures_bind, ensures_kmalloc]
  constructor
  · intro data fresh
    simp only [if_neg fresh.1, Program.ensures_bind, ensures_kmalloc]
    constructor
    · intro skb skb_fresh
      simp only [if_neg skb_fresh.1, Program.ensures_bind, ensures_storeSkb, ensures_loadSkb,
        Program.pure_eq, Program.ensures_finish]
      refine .both (by simp) skb_fresh.1 fresh.2 skb_fresh.2 (by simp) (by simp [SkBuff.set]) ?_
      intro other member
      have not_data : other ≠ data := fun same => fresh.2 (same ▸ member)
      have not_skb : other ≠ skb := fun same =>
        skb_fresh.2 (List.mem_append_left _ (same ▸ member))
      simp only [memory_write_of_ne _ _ not_skb, memory_allocate_of_ne _ not_skb,
        memory_allocate_of_ne _ not_data]
    · simp only [if_true, Program.pure_eq, Program.ensures_finish]
      exact .halved fresh.2 (by simp) (by simp)
  · simp only [if_true, Program.pure_eq, Program.ensures_finish]
    exact .noBlock (by simp)

/-- The operations of `skb_reserve` and `skb_push`: no block, and no head pointer. -/
def SkbOp.Moves : SkbOp → Prop
  | .load _ => True
  | .store _ (.head _) => False
  | .store _ _ => True
  | _ => False

/-- The blocks and the head pointers stay as they are. -/
structure Moved (before after : SkbWorld) : Prop where
  blocks : after.blocks = before.blocks
  heads : ∀ skb, (after.memory skb).head = (before.memory skb).head

private theorem moved_handle {start before after : SkbWorld} {op : SkbOp} {event : SkbEvent}
    {reply : SkbOp.Reply op} (moves : op.Moves) (moved : Moved start before)
    (handled : before.handle op event = some (reply, after)) : Moved start after := by
  cases op with
  | kmalloc size => exact moves.elim
  | kfree pointer => exact moves.elim
  | load skb =>
      cases event <;> simp only [SkbWorld.handle, Option.some.injEq, Prod.mk.injEq,
        reduceCtorEq] at handled
      exact handled.2 ▸ moved
  | store skb field =>
      cases event <;> simp only [SkbWorld.handle, Option.some.injEq, Prod.mk.injEq,
        reduceCtorEq] at handled
      obtain ⟨-, rfl⟩ := handled
      refine ⟨moved.blocks, fun other => ?_⟩
      rw [← moved.heads]
      by_cases same : other = skb
      · cases same
        rw [memory_write_self]
        cases field with
        | head value => exact moves.elim
        | _ => rfl
      · rw [memory_write_of_ne _ _ same]

private theorem moves_ensures {Value : Type} {program : SkbProgram Value} (only : program.Only SkbOp.Moves)
    (world : SkbWorld) :
    program.Ensures SkbWorld.handle (fun _ _ after => Moved world after) world := by
  have start : Moved world world := ⟨rfl, fun _ => rfl⟩
  have each : ∀ (op : SkbOp) (before : SkbWorld) (event : SkbEvent) (reply : SkbOp.Reply op)
      (after : SkbWorld), op.Moves → Moved world before →
      before.handle op event = some (reply, after) → True ∧ Moved world after := by
    intro op before event reply after moves moved handled
    exact ⟨trivial, moved_handle moves moved handled⟩
  apply (Program.ensures_of_only each only start).mono
  intro events value after both
  exact both.2

private theorem skbReserve_ensures (skb : Nat) (len : Int32) (world : SkbWorld) :
    (skbReserve skb len).Ensures SkbWorld.handle (fun _ _ after => Moved world after) world := by
  apply moves_ensures
  simp [skbReserve, loadSkb, storeSkb, SkbOp.Moves]

private theorem skbPush_ensures (skb : Nat) (len : UInt32) (world : SkbWorld) :
    (skbPush skb len).Ensures SkbWorld.handle (fun _ _ after => Moved world after) world := by
  apply moves_ensures
  simp [skbPush, loadSkb, storeSkb, SkbOp.Moves]

private theorem devKfreeSkb_ensures (skb : Nat) (world : SkbWorld) :
    (devKfreeSkb skb).Ensures SkbWorld.handle
      (fun _ _ after => after = (world.free (world.memory skb).head).free ⟨skb, 0⟩) world := by
  simp [devKfreeSkb]

/-!
## One step
-/

/-- What a step of each function leads to. -/
inductive SkbStep (before after : SkbState) : SkbCall → Prop where
  | alloc {length : UInt32} {answers : List SkbEvent} {skb : Nat} {world : SkbWorld}
      (outcome : AllocOutcome before.world answers skb world)
      (next : after = before.allocated skb world) :
      SkbStep before after ⟨.devAllocSkb length, answers⟩
  | reserve {skb : Nat} {len : Int32} {answers : List SkbEvent}
      (moved : Moved before.world after.world) (live : after.live = before.live) :
      SkbStep before after ⟨.skbReserve skb len, answers⟩
  | push {skb : Nat} {len : UInt32} {answers : List SkbEvent}
      (moved : Moved before.world after.world) (live : after.live = before.live) :
      SkbStep before after ⟨.skbPush skb len, answers⟩
  | free {buffer : LiveBuffer} {answers : List SkbEvent} (member : buffer ∈ before.live)
      (world : after.world =
        (before.world.free (before.world.memory buffer.skb).head).free ⟨buffer.skb, 0⟩)
      (live : after.live = before.live.erase buffer) :
      SkbStep before after ⟨.devKfreeSkb buffer.skb, answers⟩

private theorem bufferOf_eq_some {state : SkbState} {skb : Nat} {buffer : LiveBuffer}
    (found : state.bufferOf skb = some buffer) : buffer ∈ state.live ∧ buffer.skb = skb := by
  rw [SkbState.bufferOf, List.find?_eq_some_iff_append] at found
  obtain ⟨same, before, behind, live, -⟩ := found
  exact ⟨live ▸ List.mem_append_right _ List.mem_cons_self, of_decide_eq_true same⟩

private theorem skb_step {before after : SkbState} {call : SkbCall}
    (stepped : before.step call = some after) : SkbStep before after call := by
  obtain ⟨function, answers⟩ := call
  cases function with
  | devAllocSkb length =>
      simp only [SkbState.step, Option.map_eq_some_iff] at stepped
      obtain ⟨⟨skb, world⟩, executed, rfl⟩ := stepped
      exact .alloc (Program.exec_ensures (devAllocSkb_ensures length _) executed) rfl
  | skbReserve skb len =>
      simp only [SkbState.step, Option.bind_eq_some_iff, Option.map_eq_some_iff] at stepped
      obtain ⟨buffer, found, ⟨result, world⟩, executed, rfl⟩ := stepped
      exact .reserve (Program.exec_ensures (skbReserve_ensures skb len _) executed) rfl
  | skbPush skb len =>
      simp only [SkbState.step, Option.bind_eq_some_iff, Option.map_eq_some_iff] at stepped
      obtain ⟨buffer, found, ⟨result, world⟩, executed, rfl⟩ := stepped
      exact .push (Program.exec_ensures (skbPush_ensures skb len _) executed) rfl
  | devKfreeSkb skb =>
      simp only [SkbState.step, Option.bind_eq_some_iff, Option.map_eq_some_iff] at stepped
      obtain ⟨buffer, found, ⟨result, world⟩, executed, rfl⟩ := stepped
      obtain ⟨member, rfl⟩ := bufferOf_eq_some found
      exact .free member (Program.exec_ensures (devKfreeSkb_ensures _ _) executed) rfl

/-!
## Balance over runs
-/

/-- What a call is to do to the heap. -/
def KeepsHeap (before : SkbState) (call : SkbCall) (after : SkbState) : Prop :=
  match call.function with
  | .devAllocSkb _ => after.returned = 0 →
      ∀ block, block ∈ after.world.blocks ↔ block ∈ before.world.blocks
  | .skbReserve _ _ | .skbPush _ _ => after.world.blocks = before.world.blocks
  | .devKfreeSkb skb => ∃ buffer ∈ before.live, buffer.skb = skb ∧
      before.world.blocks.Perm (buffer.blocks ++ after.world.blocks)

/-- The live blocks are the two of each live buffer, all distinct, after a call that does to
the heap what it is to do. -/
structure HeapBalanced (before : SkbState) (call : SkbCall) (after : SkbState) : Prop where
  owned : Owned LiveBuffer.blocks after.world.blocks after.live
  keeps : KeepsHeap before call after

/-- The second allocation of a buffer does not fail after the first one. -/
def BothOrNone (call : SkbCall) : Prop :=
  match call.function with
  | .devAllocSkb _ => (∃ block, .allocated block ∈ call.answers) → .outOfMemory ∉ call.answers
  | _ => True

/-- The blocks belong to the live buffers, whose head pointers are those that they got. -/
structure Intact (state : SkbState) : Prop where
  owned : Owned LiveBuffer.blocks state.world.blocks state.live
  heads : ∀ buffer ∈ state.live, (state.world.memory buffer.skb).head = ⟨buffer.head, 0⟩

private theorem intact_initial : Intact .initial := ⟨⟨List.Perm.refl [], List.nodup_nil⟩, nofun⟩

theorem Intact.mem_blocks {state : SkbState} (intact : Intact state) {buffer : LiveBuffer}
    (member : buffer ∈ state.live) : buffer.skb ∈ state.world.blocks := by
  rw [intact.owned.perm.mem_iff, List.mem_flatMap]
  exact ⟨buffer, member, by simp [LiveBuffer.blocks]⟩

theorem Intact.moved {before after : SkbState} (intact : Intact before)
    (moved : Moved before.world after.world) (live : after.live = before.live) :
    Intact after := by
  constructor
  · rw [moved.blocks, live]
    exact intact.owned
  · intro buffer member
    rw [moved.heads]
    exact intact.heads buffer (live ▸ member)

theorem Intact.unchanged {state : SkbState} (intact : Intact state) :
    Intact (state.allocated 0 state.world) := by
  have live : (state.allocated 0 state.world).live = state.live := by simp [SkbState.allocated]
  exact intact.moved ⟨rfl, fun _ => rfl⟩ live

/-- With both blocks, the new buffer joins the live ones. -/
theorem Intact.allocated {state : SkbState} (intact : Intact state) {data skb : Nat}
    {world : SkbWorld} (named : skb ≠ 0) (data_fresh : data ∉ state.world.blocks)
    (skb_fresh : skb ∉ state.world.blocks ++ [data])
    (blocks : world.blocks = state.world.blocks ++ [data, skb])
    (head : (world.memory skb).head = ⟨data, 0⟩)
    (others : ∀ other ∈ state.world.blocks, world.memory other = state.world.memory other) :
    Intact (state.allocated skb world) := by
  have live : (state.allocated skb world).live = ⟨skb, data⟩ :: state.live := by
    simp [SkbState.allocated, named, head]
  constructor
  · have distinct : (state.world.blocks ++ [data, skb]).Nodup := by
      have different : data ≠ skb := by
        rintro rfl
        exact skb_fresh (List.mem_append_right _ (List.mem_singleton_self data))
      have skb_absent : skb ∉ state.world.blocks :=
        fun member => skb_fresh (List.mem_append_left _ member)
      apply intact.owned.distinct.append
      · simp [different]
      · simp [data_fresh, skb_absent]
    rw [live]
    change Owned LiveBuffer.blocks world.blocks (⟨skb, data⟩ :: state.live)
    rw [blocks]
    exact intact.owned.acquire ⟨skb, data⟩ distinct
  · intro buffer member
    rw [live] at member
    rcases List.mem_cons.mp member with rfl | member
    · exact head
    · exact (congrArg SkBuff.head (others _ (intact.mem_blocks member))).trans
        (intact.heads buffer member)

/-- Freeing releases the two blocks of the buffer. -/
theorem Intact.freed_blocks {state : SkbState} (intact : Intact state) {buffer : LiveBuffer}
    (member : buffer ∈ state.live) :
    ((state.world.free (state.world.memory buffer.skb).head).free ⟨buffer.skb, 0⟩).blocks =
      state.world.blocks.diff buffer.blocks := by
  rw [intact.heads buffer member]
  simp [SkbWorld.free, LiveBuffer.blocks]

theorem Intact.freed {before after : SkbState} (intact : Intact before) {buffer : LiveBuffer}
    (member : buffer ∈ before.live)
    (world : after.world =
      (before.world.free (before.world.memory buffer.skb).head).free ⟨buffer.skb, 0⟩)
    (live : after.live = before.live.erase buffer) : Intact after := by
  constructor
  · rw [world, intact.freed_blocks member, live]
    exact intact.owned.release member
  · intro other still_live
    have was_live : other ∈ before.live := List.mem_of_mem_erase (live ▸ still_live)
    rw [world, memory_free, memory_free]
    exact intact.heads other was_live

private theorem intact_step {before after : SkbState} {call : SkbCall} (intact : Intact before)
    (both : BothOrNone call) (steps : SkbStep before after call) : Intact after := by
  cases steps with
  | reserve moved live => exact intact.moved moved live
  | push moved live => exact intact.moved moved live
  | free member world live => exact intact.freed member world live
  | alloc outcome next =>
      subst next
      cases outcome with
      | noBlock none => exact intact.unchanged
      | halved fresh first failed => exact absurd failed (both ⟨_, first⟩)
      | both complete named data_fresh skb_fresh blocks head others =>
          exact intact.allocated named data_fresh skb_fresh blocks head others

private theorem heap_step_iff {before after : SkbState} {call : SkbCall} (intact : Intact before)
    (steps : SkbStep before after call) :
    HeapBalanced before call after ↔ BothOrNone call := by
  constructor
  · intro balanced
    cases steps with
    | reserve moved live => trivial
    | push moved live => trivial
    | free member world live => trivial
    | alloc outcome next =>
        subst next
        cases outcome with
        | noBlock none =>
            intro first
            obtain ⟨block, first⟩ := first
            exact absurd first (none block)
        | @halved data fresh first failed =>
            have kept := (balanced.keeps rfl data).mp (List.mem_append_right _ (by simp))
            exact absurd kept fresh
        | both complete named data_fresh skb_fresh blocks head others => exact fun _ => complete
  · intro both
    refine ⟨(intact_step intact both steps).owned, ?_⟩
    cases steps with
    | reserve moved live => exact moved.blocks
    | push moved live => exact moved.blocks
    | @free buffer answers member world live =>
        refine ⟨buffer, member, rfl, ?_⟩
        rw [world, intact.freed_blocks member]
        exact intact.owned.perm_diff member
    | alloc outcome next =>
        subst next
        cases outcome with
        | noBlock none => exact fun _ _ => Iff.rfl
        | halved fresh first failed => exact absurd failed (both ⟨_, first⟩)
        | both complete named data_fresh skb_fresh blocks head others =>
            exact fun null => absurd null named

/-- Over any calls on live buffers, the heap stays balanced exactly when no allocation of an
`sk_buff` fails after that of its head block. -/
theorem skb_heap_balanced_iff (calls : List SkbCall) :
    Along SkbState.step HeapBalanced .initial calls ↔
      Along SkbState.step (fun _ call _ => BothOrNone call) .initial calls := by
  refine along_iff_along ?_ ?_ intact_initial
  · intro before call after intact stepped
    exact heap_step_iff intact (skb_step stepped)
  · intro before call after intact stepped both
    exact intact_step intact both (skb_step stepped)

/-- The head block is left behind when there is no memory for the `sk_buff`. -/
theorem skb_head_block_leaks :
    (SkbState.initial.step ⟨.devAllocSkb 60, [.allocated 8, .outOfMemory]⟩).map
        (fun state => (state.world.blocks, state.live, state.returned)) = some ([8], [], 0) ∧
      ¬ Along SkbState.step HeapBalanced .initial
        [⟨.devAllocSkb 60, [.allocated 8, .outOfMemory]⟩] := by
  refine ⟨by decide, fun along => ?_⟩
  exact absurd ((along.1.keeps rfl 8).mp (by decide)) (by decide)

end VelaExternal.Ethercat
