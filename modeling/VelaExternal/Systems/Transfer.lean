import Mathlib.Data.List.Basic

/-!
# In-order transfer of packets

What a sender of packets over a stream is for: it takes a packet when it has
passed on the one before, and passes it on piece by piece, losing, repeating and
reordering nothing. The type carries this as its invariant.
-/

set_option autoImplicit false

namespace VelaExternal.Systems

universe u

structure Transfer (α : Type u) where
  packets : List (List α)
  delivered : List α
  pending : List α
  whole : delivered ++ pending = packets.flatten

namespace Transfer

variable {α : Type u}

def idle : Transfer α where
  packets := []
  delivered := []
  pending := []
  whole := rfl

def accept (transfer : Transfer α) (packet : List α) (ready : transfer.pending = []) :
    Transfer α where
  packets := transfer.packets ++ [packet]
  delivered := transfer.delivered
  pending := packet
  whole := by
    have whole := transfer.whole
    rw [ready, List.append_nil] at whole
    rw [whole, List.flatten_append, List.flatten_singleton]

def pass (transfer : Transfer α) (count : Nat) : Transfer α where
  packets := transfer.packets
  delivered := transfer.delivered ++ transfer.pending.take count
  pending := transfer.pending.drop count
  whole := by
    rw [List.append_assoc, List.take_append_drop, transfer.whole]

theorem delivered_prefix (transfer : Transfer α) :
    transfer.delivered <+: transfer.packets.flatten :=
  ⟨transfer.pending, transfer.whole⟩

theorem delivered_eq (transfer : Transfer α) (ready : transfer.pending = []) :
    transfer.delivered = transfer.packets.flatten := by
  rw [← transfer.whole, ready, List.append_nil]

/-- The moves of a transfer; a system may also do something else meanwhile. -/
inductive Move : Transfer α → Transfer α → Prop where
  | stay (transfer : Transfer α) : Move transfer transfer
  | accept (transfer : Transfer α) (packet : List α) (ready : transfer.pending = []) :
      Move transfer (transfer.accept packet ready)
  | pass (transfer : Transfer α) (count : Nat) : Move transfer (transfer.pass count)

end Transfer

end VelaExternal.Systems
