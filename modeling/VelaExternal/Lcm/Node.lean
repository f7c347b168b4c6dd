import VelaExternal.Lcm.MessageFormat

/-!
# Trees of nodes

`lcmtest_node_t` contains an array of its own type, so that the message says how deep and
how wide its decoder goes. Every node takes four bytes of the window: this bounds both.
-/

set_option autoImplicit false

namespace VelaExternal.Lcm

open VelaExternal.Systems

mutual

def LcmtestNodeT.format (wire : Wire) : LcmtestNodeT → List UInt8
  | .mk numChildren children => wire.int32 numChildren ++ formatChildren wire children

def LcmtestNodeT.formatChildren (wire : Wire) : List LcmtestNodeT → List UInt8
  | [] => []
  | child :: children => format wire child ++ formatChildren wire children

end

mutual

def LcmtestNodeT.nodes : LcmtestNodeT → Nat
  | .mk _ children => 1 + childNodes children

def LcmtestNodeT.childNodes : List LcmtestNodeT → Nat
  | [] => 0
  | child :: children => nodes child + childNodes children

end

/-- Each node has as many children as it says, none if it says a negative number. -/
inductive LcmtestNodeT.WellFormed : LcmtestNodeT → Prop where
  | mk {numChildren : Int32} {children : List LcmtestNodeT} :
      children.length = numChildren.toInt.toNat → (∀ child ∈ children, WellFormed child) →
      WellFormed (.mk numChildren children)

namespace LcmtestNodeT

/-- A root with two leaves. -/
def pair : LcmtestNodeT := .mk 2 [.mk 0 [], .mk 0 []]

theorem pair_wellFormed : pair.WellFormed := by
  refine .mk (by decide) fun child member => ?_
  obtain rfl : child = .mk 0 [] := by simpa using member
  exact .mk (by decide) fun _ none => nomatch none

theorem formatChildren_eq (wire : Wire) (children : List LcmtestNodeT) :
    formatChildren wire children = children.flatMap (format wire) := by
  induction children with
  | nil => rfl
  | cons child children ih => rw [formatChildren, ih, List.flatMap_cons]

theorem encodeChildren_eq (core : CoreTypes) (children : List LcmtestNodeT) (count : Nat) :
    encodeChildren core children count = (children.take count).flatMap (encode core) := by
  induction children generalizing count with
  | nil => simp [encodeChildren]
  | cons child children ih =>
      cases count with
      | zero => rfl
      | succ count => rw [encodeChildren, ih, List.take_succ_cons, List.flatMap_cons]

theorem childrenSize_eq (core : CoreTypes) (children : List LcmtestNodeT) (count : Nat) :
    childrenSize core children count = (children.take count).flatMap (size core) := by
  induction children generalizing count with
  | nil => simp [childrenSize]
  | cons child children ih =>
      cases count with
      | zero => rfl
      | succ count => rw [childrenSize, ih, List.take_succ_cons, List.flatMap_cons]

theorem length_le_flatMap (format : LcmtestNodeT → List UInt8) {children : List LcmtestNodeT}
    {child : LcmtestNodeT} (member : child ∈ children) :
    (format child).length ≤ (children.flatMap format).length :=
  (List.sublist_flatten_of_mem (List.mem_map_of_mem member)).length_le

mutual

theorem length_format {wire : Wire} (sized : ∀ value, (wire.int32 value).length = 4) :
    (p : LcmtestNodeT) → (p.format wire).length = 4 * p.nodes
  | .mk numChildren children => by
      rw [LcmtestNodeT.format, nodes, List.length_append, length_formatChildren sized children,
        sized, Nat.mul_add]

private theorem length_formatChildren {wire : Wire}
    (sized : ∀ value, (wire.int32 value).length = 4) :
    (children : List LcmtestNodeT) → (formatChildren wire children).length = 4 * childNodes children
  | [] => rfl
  | child :: children => by
      rw [formatChildren, childNodes, List.length_append, length_format sized child,
        length_formatChildren sized children, Nat.mul_add]

end

section Laws

variable {core : CoreTypes} {wire : Wire} (lawful : core.Lawful wire)

include lawful

theorem WellFormed.encode {p : LcmtestNodeT} (formed : p.WellFormed) :
    Pieces Encoder.Writes (p.encode core) (p.format wire) := by
  induction formed with
  | @mk numChildren children length _ ih =>
      rw [LcmtestNodeT.encode, LcmtestNodeT.format, encodeChildren_eq, formatChildren_eq,
        List.take_of_length_le (Nat.le_of_eq length)]
      refine .cons (lawful.int32.follows.encodeOne trivial) (.single ?_)
      exact Pieces.encodeAll (.flatMap ih)

theorem WellFormed.size {p : LcmtestNodeT} (formed : p.WellFormed) :
    Pieces Sizer.Adds (p.size core) (p.format wire) := by
  induction formed with
  | @mk numChildren children length _ ih =>
      rw [LcmtestNodeT.size, LcmtestNodeT.format, childrenSize_eq, formatChildren_eq,
        List.take_of_length_le (Nat.le_of_eq length)]
      refine .cons (lawful.int32.follows.sizeOne trivial) (.single ?_)
      exact (Pieces.sizeAll (.flatMap ih)).adding

/-!
## Decoding
-/

theorem decode_accepts (depth : Nat) :
    Parser.Accepts (decode core depth) fun bytes p => bytes = p.format wire ∧ p.WellFormed := by
  induction depth with
  | zero =>
      intro memory offset maxlen pos stop p within start done
      cases done
  | succ depth ih =>
      refine lawful.int32.acceptsOne.bind fun xs numChildren first => ?_
      refine (core.malloc_accepts _).bind fun ys _ none => ?_
      refine Parser.Accepts.bind (.call fun memory offset maxlen read p within done =>
        (ih.times numChildren.toInt.toNat).run memory offset maxlen read p within done)
        fun zs children rest => .pure ?_
      obtain ⟨same, formed⟩ := rest
      refine ⟨?_, .mk children.property formed⟩
      rw [LcmtestNodeT.format, formatChildren_eq, List.append_nil, first, none, same, List.nil_append]

/-- A window of `n` bytes is never decoded to more than `n / 4` calls deep, and more are of
no use. -/
theorem decode_depth (memory : Memory UInt8) (first second : Nat) {offset maxlen : Int}
    (within : Window offset maxlen) (pos : Nat) (inside : pos ≤ maxlen)
    (enough : (maxlen - pos).toNat / 4 < first) (other : (maxlen - pos).toNat / 4 < second) :
    decode core first memory offset maxlen pos = decode core second memory offset maxlen pos := by
  induction first generalizing second offset maxlen pos with
  | zero => cases enough
  | succ first ih =>
      obtain ⟨second, rfl⟩ := Nat.exists_eq_add_one_of_ne_zero (Nat.ne_zero_of_lt other)
      change Parser.bind _ _ memory offset maxlen pos = Parser.bind _ _ memory offset maxlen pos
      simp only [Parser.bind]
      cases step : core.int32.decodeOne memory offset maxlen pos with
      | error failure => rfl
      | ok result =>
          obtain ⟨stop, numChildren⟩ := result
          obtain ⟨taken, ends⟩ := lawful.int32.decodeOne_ok within inside step
          simp only [bind, Parser.bind]
          cases block : core.malloc numChildren.toInt memory offset maxlen stop with
          | error failure => rfl
          | ok result =>
              obtain ⟨place, none⟩ := result
              obtain rfl : stop = place := (core.malloc_ok block).symm
              -- The children are decoded in what is left of the window.
              have left := within.rest (Int.natCast_nonneg stop) ends
              have same : ∀ start : Nat, (start : Int) ≤ maxlen - stop →
                  decode core first memory (offset + stop) (maxlen - stop) start =
                    decode core second memory (offset + stop) (maxlen - stop) start :=
                fun start here => ih second left start here (by omega) (by omega)
              have children := Parser.times_congr left (decode_accepts lawful first) same
                numChildren.toInt.toNat 0 left.nonneg
              simp only [Parser.call, Parser.run, children]

theorem WellFormed.decode {p : LcmtestNodeT} (formed : p.WellFormed) (depth : Nat)
    (enough : (p.format wire).length ≤ depth) :
    Parser.Reads Failure.Negative core.MallocFails (decode core depth) (p.format wire) (· = p) := by
  induction formed generalizing depth with
  | @mk numChildren children length _ ih =>
      rw [LcmtestNodeT.format, formatChildren_eq, List.length_append, lawful.int32.sized] at *
      have deep : depth ≠ 0 := by omega
      obtain ⟨depth, rfl⟩ := Nat.exists_eq_add_one_of_ne_zero deep
      refine (lawful.int32.decodeOne _).bind fun _ first => ?_
      subst first
      refine (core.malloc_reads _).then fun _ _ => ?_
      rw [← List.append_nil (children.flatMap _)]
      have one : ∀ child ∈ children, Parser.Reads Failure.Negative core.MallocFails
          (LcmtestNodeT.decode core depth) (child.format wire) (· = child) := by
        intro child member
        have part := length_le_flatMap (LcmtestNodeT.format wire) member
        exact ih child member depth (by omega)
      have read := (Parser.Reads.times_eq ⟨children, length⟩ one).run.call
      exact read.bind fun _ rest => .pure (by rw [rest])

theorem follows : (lcmtestNodeT core).Follows (format wire) WellFormed core.MallocFails where
  encode p formed := formed.encode lawful
  size p formed := formed.size lawful
  decode p formed := by
    have deep := formed.decode lawful
    constructor
    · intro memory offset maxlen pos within room holds
      have result := (deep (maxlen.toNat + (p.format wire).length + 1) (by omega)).fits memory offset
        maxlen pos within room holds
      rwa [← decode_depth lawful memory (maxlen.toNat + 1) _ within pos (by omega) (by omega)
        (by omega)] at result
    · intro memory offset maxlen pos within start represented more holds
      have result := (deep (maxlen.toNat + (p.format wire).length + 1) (by omega)).short memory
        offset maxlen pos within start represented more holds
      rwa [← decode_depth lawful memory (maxlen.toNat + 1) _ within pos start (by omega)
        (by omega)] at result

end Laws

end LcmtestNodeT

end VelaExternal.Lcm
