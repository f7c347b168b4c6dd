import VelaExternal.Lcm.ClassFormat
import VelaExternal.Lcm.Node

/-!
# Objects of trees

The class `node_t` resizes its vector to the number of children that the message says, so
that its objects correspond to trees one to one, and a negative number is an error.
-/

set_option autoImplicit false

namespace VelaExternal.Lcm

open VelaExternal.Systems

section Resize

variable {Value : Type} [Inhabited Value] {core : CoreTypes} {failed : Failure}

theorem CoreTypes.resize_ok {count : Int} {vector result : List Value} {memory : Memory UInt8}
    {offset maxlen : Int} {pos stop : Nat}
    (done : core.resize failed count vector memory offset maxlen pos = .ok (stop, result)) :
    stop = pos ∧ 0 ≤ count ∧ result.length = count.toNat := by
  rw [CoreTypes.resize] at done
  split at done
  · next granted =>
      cases done
      refine ⟨rfl, granted.1, ?_⟩
      rw [List.length_append, List.length_replicate, List.length_take]
      omega
  · cases done

theorem CoreTypes.resize_accepts (count : Int) (vector : List Value) :
    Parser.Accepts (core.resize failed count vector) fun bytes result =>
      bytes = [] ∧ 0 ≤ count ∧ result.length = count.toNat := by
  intro memory offset maxlen pos stop value within start done
  obtain ⟨rfl, positive, length⟩ := core.resize_ok done
  exact ⟨start, [], rfl, holds_nil memory _, rfl, positive, length⟩

end Resize

/-!
## Trees
-/

/-- Each node has as many children as it says, and says no negative number. -/
inductive LcmtestNodeT.Counted : LcmtestNodeT → Prop where
  | mk {numChildren : Int32} {children : List LcmtestNodeT} :
      (children.length : Int) = numChildren.toInt → (∀ child ∈ children, Counted child) →
      Counted (.mk numChildren children)

theorem LcmtestNodeT.Counted.wellFormed {p : LcmtestNodeT} (counted : p.Counted) :
    p.WellFormed := by
  induction counted with
  | mk length _ ih => exact .mk (by rw [← length, Int.toNat_natCast]) ih

namespace Lcmtest.NodeT

mutual

/-- The value in C with the same numbers and children. -/
def value : NodeT → LcmtestNodeT
  | .mk numChildren children => .mk numChildren (values children)

def values : List NodeT → List LcmtestNodeT
  | [] => []
  | child :: children => value child :: values children

end

private theorem values_eq (children : List NodeT) : values children = children.map value := by
  induction children with
  | nil => rfl
  | cons child children ih => rw [values, ih, List.map_cons]

mutual

theorem value_injective : {first second : NodeT} → first.value = second.value → first = second
  | .mk number children, .mk other others, same => by
      rw [value, value, LcmtestNodeT.mk.injEq] at same
      rw [same.1, values_injective same.2]

private theorem values_injective : {firsts seconds : List NodeT} → values firsts = values seconds →
    firsts = seconds
  | [], [], _ => rfl
  | [], _ :: _, same => nomatch same
  | _ :: _, [], same => nomatch same
  | first :: firsts, second :: seconds, same => by
      rw [values, values, List.cons.injEq] at same
      rw [value_injective same.1, values_injective same.2]

end

theorem encodeChildren_eq (core : CoreTypes) (children : List NodeT) (count : Nat) :
    encodeChildren core children count =
      (children.take count).map fun child => encodeAll (encodeNoHash core child) := by
  induction children generalizing count with
  | nil => simp [encodeChildren]
  | cons child children ih =>
      cases count with
      | zero => rfl
      | succ count => rw [encodeChildren, ih, List.take_succ_cons, List.map_cons]

theorem childrenSize_eq (core : CoreTypes) (children : List NodeT) (count : Nat) :
    childrenSize core children count =
      (children.take count).map fun child => adding (sizeAll (getEncodedSizeNoHash core child)) := by
  induction children generalizing count with
  | nil => simp [childrenSize]
  | cons child children ih =>
      cases count with
      | zero => rfl
      | succ count => rw [childrenSize, ih, List.take_succ_cons, List.map_cons]

private theorem map_value_eq {objects : List NodeT} {children : List LcmtestNodeT}
    (represents : List.Forall₂ (fun child object => value object = child) children objects) :
    objects.map value = children := by
  induction represents with
  | nil => rfl
  | cons head _ ih => rw [List.map_cons, head, ih]

section Laws

variable {core : CoreTypes} {wire : Wire} (lawful : core.Lawful wire)

include lawful

private theorem encode_format {p : LcmtestNodeT} (counted : p.Counted) (this : NodeT)
    (represents : this.value = p) :
    Pieces Encoder.Writes (this.encodeNoHash core) (p.format wire) := by
  induction counted generalizing this with
  | @mk numChildren children length _ ih =>
      obtain ⟨number, objects⟩ := this
      rw [value, LcmtestNodeT.mk.injEq, values_eq] at represents
      obtain ⟨rfl, rfl⟩ := represents
      rw [List.length_map] at length
      rw [encodeNoHash, LcmtestNodeT.format, encodeChildren_eq, LcmtestNodeT.formatChildren_eq,
        List.take_of_length_le (by omega), List.flatMap_map]
      refine .cons (lawful.int32.follows.encodeOne trivial) (.map ?_)
      refine List.forall₂_same.mpr fun child member => Pieces.encodeAll ?_
      exact ih child.value (List.mem_map_of_mem member) child rfl

private theorem size_format {p : LcmtestNodeT} (counted : p.Counted) (this : NodeT)
    (represents : this.value = p) :
    Pieces Sizer.Adds (this.getEncodedSizeNoHash core) (p.format wire) := by
  induction counted generalizing this with
  | @mk numChildren children length _ ih =>
      obtain ⟨number, objects⟩ := this
      rw [value, LcmtestNodeT.mk.injEq, values_eq] at represents
      obtain ⟨rfl, rfl⟩ := represents
      rw [List.length_map] at length
      rw [getEncodedSizeNoHash, LcmtestNodeT.format, childrenSize_eq,
        LcmtestNodeT.formatChildren_eq, List.take_of_length_le (by omega), List.flatMap_map]
      refine .cons (lawful.int32.sizeNullOne number) (.map ?_)
      refine List.forall₂_same.mpr fun child member => Measures.adding (Pieces.sizeAll ?_)
      exact ih child.value (List.mem_map_of_mem member) child rfl

/-!
## Decoding
-/

theorem decode_accepts (depth : Nat) (this : NodeT) :
    Parser.Accepts (decodeNoHash core depth this) fun bytes object =>
      bytes = object.value.format wire ∧ object.value.Counted := by
  induction depth generalizing this with
  | zero =>
      intro memory offset maxlen pos stop object within start done
      cases done
  | succ depth ih =>
      refine lawful.int32.acceptsOne.bind fun xs numChildren first => ?_
      refine (core.resize_accepts _ _).bind fun ys resized sized => ?_
      obtain ⟨none, positive, length⟩ := sized
      have one (child : NodeT) : Parser.Accepts
          (Parser.call (decodeNoHash core depth child).run) fun bytes object =>
            bytes = object.value.format wire ∧ object.value.Counted :=
        .call fun memory offset maxlen read object within done =>
          (ih child).run memory offset maxlen read object within done
      refine (Parser.Accepts.each one resized).bind fun zs children rest => .pure ?_
      obtain ⟨bytes, count, counted⟩ := rest
      constructor
      · rw [value, LcmtestNodeT.format, values_eq, LcmtestNodeT.formatChildren_eq, List.flatMap_map,
          first, none, bytes, List.append_nil, List.nil_append]
      · rw [value, values_eq]
        refine .mk ?_ fun child member => ?_
        · rw [List.length_map, count, length, Int.toNat_of_nonneg positive]
        · obtain ⟨object, mine, rfl⟩ := List.mem_map.mp member
          exact counted object mine

private theorem call_accepts (depth : Nat) (child : NodeT) :
    Parser.Accepts (Parser.call (decodeNoHash core depth child).run) fun bytes object =>
      bytes = object.value.format wire ∧ object.value.Counted :=
  .call fun memory offset maxlen read object within done =>
    (decode_accepts lawful depth child).run memory offset maxlen read object within done

theorem decode_depth (memory : Memory UInt8) (first second : Nat) (this : NodeT)
    {offset maxlen : Int} (within : Window offset maxlen) (pos : Nat) (inside : pos ≤ maxlen)
    (enough : (maxlen - pos).toNat / 4 < first) (other : (maxlen - pos).toNat / 4 < second) :
    decodeNoHash core first this memory offset maxlen pos =
      decodeNoHash core second this memory offset maxlen pos := by
  induction first generalizing second this offset maxlen pos with
  | zero => cases enough
  | succ first ih =>
      obtain ⟨second, rfl⟩ := Nat.exists_eq_add_one_of_ne_zero (Nat.ne_zero_of_lt other)
      change Parser.bind _ _ memory offset maxlen pos = Parser.bind _ _ memory offset maxlen pos
      simp only [Parser.bind]
      cases step : core.int32.decodeOne memory offset maxlen pos with
      | error failure => rfl
      | ok result =>
          obtain ⟨stop, numChildren⟩ := result
          obtain ⟨taken, ends⟩ := lawful.int32.decodeOne_ok within inside step
          have same : ∀ (child : NodeT) (place : Nat), stop ≤ place → place ≤ maxlen →
              Parser.call (decodeNoHash core first child).run memory offset maxlen place =
                Parser.call (decodeNoHash core second child).run memory offset maxlen place := by
            intro child place later here
            have left := within.rest (Int.natCast_nonneg place) here
            simp only [Parser.call, Parser.run]
            rw [ih second child left 0 left.nonneg (by omega) (by omega)]
          simp only [bind, Parser.bind]
          cases grown : core.resize (.returned (-1)) numChildren.toInt this.children memory offset
              maxlen stop with
          | error failure => rfl
          | ok result =>
              obtain ⟨place, resized⟩ := result
              obtain ⟨stay, _⟩ := core.resize_ok grown
              have children := Parser.each_congr within (call_accepts lawful first) same resized
                stop (Nat.le_refl stop) ends
              simp only [stay, children]

private theorem decode_format {p : LcmtestNodeT} (counted : p.Counted) (depth : Nat)
    (enough : (p.format wire).length ≤ depth) (this : NodeT) :
    Parser.Reads Failure.Negative core.NewFails (decodeNoHash core depth this) (p.format wire)
      fun object => object.value = p := by
  induction counted generalizing depth this with
  | @mk numChildren children length _ ih =>
      rw [LcmtestNodeT.format, LcmtestNodeT.formatChildren_eq, List.length_append,
        lawful.int32.sized] at *
      have deep : depth ≠ 0 := by omega
      obtain ⟨depth, rfl⟩ := Nat.exists_eq_add_one_of_ne_zero deep
      refine (lawful.int32.decodeOne _).bind fun _ first => ?_
      subst first
      refine (core.resize_reads (.inr rfl) (by omega) _).then fun resized count => ?_
      have one : ∀ object ∈ resized, ∀ child ∈ children, Parser.Reads Failure.Negative
          core.NewFails (Parser.call (decodeNoHash core depth object).run) (child.format wire)
          fun object => object.value = child := by
        intro object _ child member
        have part := LcmtestNodeT.length_le_flatMap (LcmtestNodeT.format wire) member
        exact (ih child member depth (by omega) object).run.call
      rw [← List.append_nil (children.flatMap _)]
      have each := Parser.Reads.each (by omega) one
      refine each.bind fun objects represents => .pure ?_
      rw [value, values_eq, map_value_eq represents]

theorem follows : (nodeT core).Follows (LcmtestNodeT.format wire) (fun this p => this.value = p)
    LcmtestNodeT.Counted (fun _ => True) core.NewFails where
  encode this p represents counted := encode_format lawful counted this represents
  size this p represents counted _ := size_format lawful counted this represents
  decode this p counted := by
    have deep := fun (maxlen : Int) => decode_format lawful counted
      (maxlen.toNat + (p.format wire).length + 1) (by omega) this
    constructor
    · intro memory offset maxlen pos within room holds
      have result := (deep maxlen).fits memory offset maxlen pos within room holds
      rwa [← decode_depth lawful memory (maxlen.toNat + 1) _ this within pos (by omega) (by omega)
        (by omega)] at result
    · intro memory offset maxlen pos within start represented more holds
      have result := (deep maxlen).short memory offset maxlen pos within start represented more holds
      rwa [← decode_depth lawful memory (maxlen.toNat + 1) _ this within pos start (by omega)
        (by omega)] at result

end Laws

end Lcmtest.NodeT

end VelaExternal.Lcm
