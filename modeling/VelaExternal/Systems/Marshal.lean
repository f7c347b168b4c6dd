import Mathlib.Algebra.BigOperators.Group.List.Basic
import Mathlib.Algebra.Order.Ring.Int
import Mathlib.Data.List.Forall2

/-!
# Marshalling through a window of memory

Functions that write a value into `maxlen` bytes of memory at `offset`, or read one from
there, functions that say how many bytes it takes, and the bodies that such functions are
made of: one call after another, each where the calls before it have stopped. Offsets and
sizes are of a type that represents the numbers from `-2 ^ 31` to `2 ^ 31 - 1`.
-/

set_option autoImplicit false

namespace VelaExternal.Systems

universe u v w x

abbrev Memory (Byte : Type u) := Int → Byte

section Memory

variable {Byte : Type u} {memory before after last : Memory Byte} {address : Int}

def Holds (memory : Memory Byte) (address : Int) (bytes : List Byte) : Prop :=
  ∀ (index : Nat) (inside : index < bytes.length), memory (address + index) = bytes[index]

/-- Nothing differs outside `size` bytes at `address`. -/
def Unchanged (before after : Memory Byte) (address size : Int) : Prop :=
  ∀ place, place < address ∨ address + size ≤ place → after place = before place

/-- Every offset into the window is a number of the type. -/
structure Window (offset maxlen : Int) : Prop where
  start : 0 ≤ offset
  nonneg : 0 ≤ maxlen
  stop : offset + maxlen < 2 ^ 31

theorem Window.rest {offset maxlen pos : Int} (within : Window offset maxlen) (after : 0 ≤ pos)
    (inside : pos ≤ maxlen) : Window (offset + pos) (maxlen - pos) := by
  obtain ⟨start, _, stop⟩ := within
  exact ⟨by omega, by omega, by omega⟩

def window (memory : Memory Byte) (address : Int) (size : Nat) : List Byte :=
  (List.range size).map fun index : Nat => memory (address + (index : Int))

@[simp] theorem length_window (memory : Memory Byte) (address : Int) (size : Nat) :
    (window memory address size).length = size := by
  simp [window]

theorem holds_window (memory : Memory Byte) (address : Int) (size : Nat) :
    Holds memory address (window memory address size) := by
  intro index inside
  simp [window]

theorem holds_iff_window {bytes : List Byte} :
    Holds memory address bytes ↔ window memory address bytes.length = bytes := by
  constructor
  · intro holds
    apply List.ext_getElem (length_window ..)
    intro index _ inside
    simpa [window] using holds index inside
  · intro same
    rw [← same]
    exact holds_window memory address bytes.length

@[simp] theorem holds_nil (memory : Memory Byte) (address : Int) : Holds memory address [] := by
  intro index inside
  cases inside

theorem holds_append {xs ys : List Byte} :
    Holds memory address (xs ++ ys) ↔
      Holds memory address xs ∧ Holds memory (address + xs.length) ys := by
  constructor
  · intro holds
    constructor
    · intro index inside
      rw [holds index (by simp; omega), List.getElem_append_left inside]
    · intro index inside
      have shifted := holds (xs.length + index) (by simp; omega)
      rw [List.getElem_append_right (Nat.le_add_right ..)] at shifted
      simpa [Int.add_assoc] using shifted
  · rintro ⟨first, second⟩ index inside
    by_cases left : index < xs.length
    · rw [first index left, List.getElem_append_left left]
    · obtain ⟨rest, rfl⟩ := Nat.exists_eq_add_of_le (Nat.le_of_not_lt left)
      have right : rest < ys.length := by
        simp only [List.length_append] at inside
        omega
      rw [List.getElem_append_right (Nat.le_add_right ..)]
      simpa [Int.add_assoc] using second rest right

theorem Holds.of_unchanged {bytes : List Byte} {place : Int} {size : Nat}
    (holds : Holds before address bytes) (unchanged : Unchanged before after place size)
    (apart : address + bytes.length ≤ place) : Holds after address bytes := by
  intro index inside
  rw [unchanged _ (.inl (by omega)), holds index inside]

theorem Unchanged.refl (memory : Memory Byte) (address size : Int) :
    Unchanged memory memory address size := fun _ _ => rfl

theorem Unchanged.mono {place size more : Int} (unchanged : Unchanged before after place size)
    (start : address ≤ place) (stop : place + size ≤ address + more) :
    Unchanged before after address more := by
  intro other outside
  exact unchanged other (by omega)

theorem Unchanged.trans {size : Int} (first : Unchanged before after address size)
    (second : Unchanged after last address size) : Unchanged before last address size := by
  intro place outside
  rw [second place outside, first place outside]

end Memory

/-!
## Parts of the bytes
-/

section Pieces

variable {Byte : Type u} {Part : Type v} {relation : Part → List Byte → Prop}

/-- Each part stands for a piece of the bytes. -/
inductive Pieces (relation : Part → List Byte → Prop) : List Part → List Byte → Prop where
  | nil : Pieces relation [] []
  | cons {part : Part} {rest : List Part} {xs ys : List Byte} :
      relation part xs → Pieces relation rest ys → Pieces relation (part :: rest) (xs ++ ys)

theorem Pieces.flatten {parts : List Part} {pieces : List (List Byte)}
    (related : List.Forall₂ relation parts pieces) : Pieces relation parts pieces.flatten := by
  induction related with
  | nil => exact .nil
  | cons head _ ih =>
      rw [List.flatten_cons]
      exact .cons head ih

theorem Pieces.append {first second : List Part} {xs ys : List Byte}
    (left : Pieces relation first xs) (right : Pieces relation second ys) :
    Pieces relation (first ++ second) (xs ++ ys) := by
  induction left with
  | nil => exact right
  | cons head _ ih =>
      rw [List.append_assoc]
      exact .cons head ih

theorem Pieces.flatMap {Value : Type w} {values : List Value} {parts : Value → List Part}
    {format : Value → List Byte}
    (each : ∀ value ∈ values, Pieces relation (parts value) (format value)) :
    Pieces relation (values.flatMap parts) (values.flatMap format) := by
  induction values with
  | nil => exact .nil
  | cons value values ih =>
      simp only [List.flatMap_cons]
      exact (each value List.mem_cons_self).append
        (ih fun other member => each other (List.mem_cons_of_mem _ member))

/-- Each source has the parts of one of `values`. -/
theorem Pieces.forall₂ {Value : Type w} {Source : Type x} {format : Value → List Byte}
    {parts : Source → List Part} {values : List Value} {sources : List Source}
    (related : List.Forall₂ (fun value source => Pieces relation (parts source) (format value))
      values sources) :
    Pieces relation (sources.flatMap parts) (values.flatMap format) := by
  induction related with
  | nil => exact .nil
  | cons head _ ih =>
      simp only [List.flatMap_cons]
      exact head.append ih

theorem Pieces.map {Value : Type w} {Source : Type x} {format : Value → List Byte}
    {part : Source → Part} {values : List Value} {sources : List Source}
    (related : List.Forall₂ (fun value source => relation (part source) (format value))
      values sources) :
    Pieces relation (sources.map part) (values.flatMap format) := by
  induction related with
  | nil => exact .nil
  | cons head _ ih => exact .cons head ih

theorem Pieces.single {part : Part} {bytes : List Byte} (related : relation part bytes) :
    Pieces relation [part] bytes := by
  have only := Pieces.cons related .nil
  rwa [List.append_nil] at only

end Pieces

/-!
## Sizes
-/

section Sizes

variable {Byte : Type u} {bytes : List Byte}

/-- A statement that adds to a total. It has no result where its behaviour is undefined. -/
abbrev Sizer := (total : Int) → Option Int

/-- The value of an expression, if it is a number of the type. -/
def represented (value : Int) : Option Int :=
  if -2 ^ 31 ≤ value ∧ value < 2 ^ 31 then some value else none

theorem represented_eq {value : Int} (start : 0 ≤ value) (stop : value < 2 ^ 31) :
    represented value = some value := if_pos ⟨by omega, stop⟩

/-- `first * second` -/
def product (first second : Option Int) : Option Int := do represented ((← first) * (← second))

theorem product_eq {first second : Int} (start : 0 ≤ first) (other : 0 ≤ second)
    (stop : first * second < 2 ^ 31) :
    product (some first) (some second) = some (first * second) :=
  represented_eq (Int.mul_nonneg start other) stop

/-- `total += size` -/
def adding (size : Option Int) : Sizer := fun total => do represented (total + (← size))

def sizeFrom : List Sizer → Sizer
  | [], total => some total
  | size :: rest, total => (size total).bind (sizeFrom rest)

/-- One statement after the other, from zero. -/
def sizeAll (sizers : List Sizer) : Option Int := sizeFrom sizers 0

/-- The size is the number of the bytes, if that is a number of the type. -/
def Measures (size : Option Int) (bytes : List Byte) : Prop :=
  bytes.length < 2 ^ 31 → size = some (bytes.length : Int)

def Sizer.Adds (sizer : Sizer) (bytes : List Byte) : Prop :=
  ∀ total : Int, 0 ≤ total → total + bytes.length < 2 ^ 31 →
    sizer total = some (total + bytes.length)

theorem Measures.adding {size : Option Int} (measures : Measures size bytes) :
    (adding size).Adds bytes := by
  intro total start short
  rw [Systems.adding, measures (by omega), Option.bind_eq_bind, Option.bind_some,
    represented_eq (by omega) short]

theorem Pieces.sizeFrom {sizers : List Sizer} (pieces : Pieces Sizer.Adds sizers bytes) :
    Sizer.Adds (sizeFrom sizers) bytes := by
  induction pieces with
  | nil =>
      intro total _ _
      simp [Systems.sizeFrom]
  | cons head _ ih =>
      intro total start short
      rw [List.length_append, Int.natCast_add] at short ⊢
      rw [Systems.sizeFrom, head total start (by omega), Option.bind_some,
        ih _ (by omega) (by omega), Int.add_assoc]

theorem Pieces.sizeAll {sizers : List Sizer} (pieces : Pieces Sizer.Adds sizers bytes) :
    Measures (sizeAll sizers) bytes := by
  intro short
  rw [Systems.sizeAll, pieces.sizeFrom 0 (Int.le_refl 0) (by omega), Int.zero_add]

end Sizes

/-!
## Encoders
-/

section Encoders

variable {Byte : Type u}

/-- Writes at `offset`, at most `maxlen` bytes, and returns how many, or a negative number. -/
abbrev Encoder (Byte : Type u) := Memory Byte → (offset maxlen : Int) → Memory Byte × Int

def encodeFrom (offset maxlen : Int) : List (Encoder Byte) → Memory Byte → Int → Memory Byte × Int
  | [], memory, pos => (memory, pos)
  | encode :: rest, memory, pos =>
      match encode memory (offset + pos) (maxlen - pos) with
      | (written, thislen) =>
          if thislen < 0 then (written, thislen)
          else encodeFrom offset maxlen rest written (pos + thislen)

/-- One encoder after the other, up to the first that fails. -/
def encodeAll (encoders : List (Encoder Byte)) : Encoder Byte := fun memory offset maxlen =>
  encodeFrom offset maxlen encoders memory 0

/-- `bytes` and nothing else are written where there is room for them. Where there is not,
the encoder fails, and what it has changed lies inside the window. -/
structure Encoder.Writes (encode : Encoder Byte) (bytes : List Byte) : Prop where
  fits : ∀ memory offset maxlen, Window offset maxlen → bytes.length ≤ maxlen →
    (encode memory offset maxlen).2 = bytes.length ∧
      Holds (encode memory offset maxlen).1 offset bytes ∧
      Unchanged memory (encode memory offset maxlen).1 offset bytes.length
  short : ∀ memory offset maxlen, Window offset maxlen → bytes.length < 2 ^ 31 →
    maxlen < bytes.length →
    (encode memory offset maxlen).2 < 0 ∧
      Unchanged memory (encode memory offset maxlen).1 offset maxlen

/-- Encoders of the same bytes do the same where there is room. -/
theorem Encoder.Writes.eq {first second : Encoder Byte} {bytes : List Byte}
    (one : first.Writes bytes) (two : second.Writes bytes) (memory : Memory Byte)
    {offset maxlen : Int} (within : Window offset maxlen) (room : bytes.length ≤ maxlen) :
    first memory offset maxlen = second memory offset maxlen := by
  obtain ⟨size, holds, unchanged⟩ := one.fits memory offset maxlen within room
  obtain ⟨length, held, kept⟩ := two.fits memory offset maxlen within room
  refine Prod.ext (funext fun place => ?_) (by rw [size, length])
  by_cases inside : offset ≤ place ∧ place < offset + bytes.length
  · obtain ⟨index, rfl⟩ := Int.le.dest inside.1
    rw [holds index (by omega), held index (by omega)]
  · rw [unchanged place (by omega), kept place (by omega)]

/-- Each call gets what is left of the window. -/
theorem Pieces.encodeFrom {encoders : List (Encoder Byte)} {bytes : List Byte}
    (pieces : Pieces Encoder.Writes encoders bytes) {offset maxlen : Int}
    (within : Window offset maxlen) (memory : Memory Byte) (pos : Int) (start : 0 ≤ pos)
    (inside : pos ≤ maxlen) :
    (pos + bytes.length ≤ maxlen →
      (encodeFrom offset maxlen encoders memory pos).2 = pos + bytes.length ∧
        Holds (encodeFrom offset maxlen encoders memory pos).1 (offset + pos) bytes ∧
        Unchanged memory (encodeFrom offset maxlen encoders memory pos).1 (offset + pos)
          bytes.length) ∧
      (bytes.length < 2 ^ 31 → maxlen < pos + bytes.length →
        (encodeFrom offset maxlen encoders memory pos).2 < 0 ∧
          Unchanged memory (encodeFrom offset maxlen encoders memory pos).1 (offset + pos)
            (maxlen - pos)) := by
  induction pieces generalizing memory pos with
  | nil =>
      constructor
      · intro _
        simp [Systems.encodeFrom, Unchanged.refl]
      · intro _ more
        simp only [List.length_nil] at more
        omega
  | @cons encode rest xs ys writes _ ih =>
      simp only [Systems.encodeFrom, List.length_append, Int.natCast_add]
      have left := within.rest start inside
      by_cases room : (xs.length : Int) ≤ maxlen - pos
      · obtain ⟨length, holds, unchanged⟩ :=
          writes.fits memory (offset + pos) (maxlen - pos) left room
        rw [length, if_neg (by omega)]
        obtain ⟨fits, short⟩ := ih (encode memory (offset + pos) (maxlen - pos)).1
          (pos + xs.length) (by omega) (by omega)
        rw [← Int.add_assoc] at fits short
        constructor
        · intro enough
          obtain ⟨total, held, kept⟩ := fits (by omega)
          refine ⟨by omega, holds_append.mpr ⟨?_, held⟩, ?_⟩
          · exact holds.of_unchanged kept (Int.le_refl _)
          · exact (unchanged.mono (by omega) (by omega)).trans (kept.mono (by omega) (by omega))
        · intro represented more
          obtain ⟨failed, kept⟩ := short (by omega) (by omega)
          refine ⟨failed, ?_⟩
          exact (unchanged.mono (by omega) (by omega)).trans (kept.mono (by omega) (by omega))
      · constructor
        · intro enough
          omega
        · intro represented _
          obtain ⟨failed, unchanged⟩ := writes.short memory (offset + pos) (maxlen - pos) left
            (by omega) (by omega)
          rw [if_pos failed]
          exact ⟨failed, unchanged⟩

theorem Pieces.encodeAll {encoders : List (Encoder Byte)} {bytes : List Byte}
    (pieces : Pieces Encoder.Writes encoders bytes) : (encodeAll encoders).Writes bytes where
  fits memory offset maxlen within room := by
    simpa [Systems.encodeAll] using
      (pieces.encodeFrom within memory 0 (Int.le_refl 0) within.nonneg).1 (by omega)
  short memory offset maxlen within represented more := by
    simpa [Systems.encodeAll] using
      (pieces.encodeFrom within memory 0 (Int.le_refl 0) within.nonneg).2 represented (by omega)

end Encoders

/-!
## Decoders
-/

section Decoders

variable {Byte : Type u} {Failure : Type v} {Value Other : Type w}

/-- Reads at `offset`, at most `maxlen` bytes, and returns how many, with what they say. -/
abbrev Decoder (Byte : Type u) (Failure : Type v) (Value : Type w) :=
  Memory Byte → (offset maxlen : Int) → Except Failure (Nat × Value)

/-- The body of a decoder: it goes on at `pos` and returns where it has stopped. -/
def Parser (Byte : Type u) (Failure : Type v) (Value : Type w) :=
  Memory Byte → (offset maxlen : Int) → (pos : Nat) → Except Failure (Nat × Value)

namespace Parser

protected def pure (value : Value) : Parser Byte Failure Value := fun _ _ _ pos =>
  .ok (pos, value)

protected def bind (parser : Parser Byte Failure Value)
    (next : Value → Parser Byte Failure Other) : Parser Byte Failure Other :=
  fun memory offset maxlen pos =>
    match parser memory offset maxlen pos with
    | .error failure => .error failure
    | .ok (stop, value) => next value memory offset maxlen stop

instance : Monad (Parser.{u, v, w} Byte Failure) where
  pure := Parser.pure
  bind := Parser.bind

def fail (failure : Failure) : Parser Byte Failure Value := fun _ _ _ _ => .error failure

def call (decode : Decoder Byte Failure Value) : Parser Byte Failure Value :=
  fun memory offset maxlen pos =>
    match decode memory (offset + pos) (maxlen - pos) with
    | .error failure => .error failure
    | .ok (thislen, value) => .ok (pos + thislen, value)

def run (parser : Parser Byte Failure Value) : Decoder Byte Failure Value :=
  fun memory offset maxlen => parser memory offset maxlen 0

def each {Source : Type x} (parser : Source → Parser Byte Failure Value) :
    List Source → Parser Byte Failure (List Value)
  | [] => Parser.pure []
  | source :: sources =>
      (parser source).bind fun value =>
        (each parser sources).bind fun values => Parser.pure (value :: values)

/-- The same parser `count` times. -/
def times (parser : Parser Byte Failure Value) :
    (count : Nat) → Parser Byte Failure {values : List Value // values.length = count}
  | 0 => Parser.pure ⟨[], rfl⟩
  | count + 1 =>
      parser.bind fun value =>
        (times parser count).bind fun values =>
          Parser.pure ⟨value :: values.val, congrArg Nat.succ values.property⟩

end Parser

/-- The result is a failure of that kind. -/
def Fails (kind : Failure → Prop) (result : Except Failure Value) : Prop :=
  ∃ failure, kind failure ∧ result = .error failure

theorem Fails.mono {kind other : Failure → Prop} {result : Except Failure Value}
    (fails : Fails kind result) (implies : ∀ failure, kind failure → other failure) :
    Fails other result := by
  obtain ⟨failure, of_kind, failed⟩ := fails
  exact ⟨failure, implies failure of_kind, failed⟩

namespace Parser

/-- Where `bytes` stand, the parser reads just these and what it returns satisfies `good`.
Where the window ends inside them it fails, and as a rejection. In either case it may fail for
an excuse. -/
structure Reads (rejection excuse : Failure → Prop) (parser : Parser Byte Failure Value)
    (bytes : List Byte) (good : Value → Prop) : Prop where
  fits : ∀ memory offset maxlen (pos : Nat), Window offset maxlen → pos + bytes.length ≤ maxlen →
    Holds memory (offset + pos) bytes →
    (∃ value, good value ∧ parser memory offset maxlen pos = .ok (pos + bytes.length, value)) ∨
      Fails excuse (parser memory offset maxlen pos)
  short : ∀ memory offset maxlen (pos : Nat), Window offset maxlen → pos ≤ maxlen →
    bytes.length < 2 ^ 31 → maxlen < pos + bytes.length →
    Holds memory (offset + pos) (bytes.take (maxlen - pos).toNat) →
    Fails (fun failure => rejection failure ∨ excuse failure) (parser memory offset maxlen pos)

section Reads

variable {rejection excuse : Failure → Prop} {xs ys : List Byte} {good : Value → Prop}
  {better : Other → Prop}

theorem Reads.pure {value : Value} (holds : good value) :
    Reads rejection excuse (pure value : Parser Byte Failure Value) [] good where
  fits memory offset maxlen pos _ _ _ := .inl ⟨value, holds, rfl⟩
  short memory offset maxlen pos _ start _ more _ := by
    simp only [List.length_nil] at more
    omega

theorem bind_eq_error {parser : Parser Byte Failure Value}
    {next : Value → Parser Byte Failure Other} {memory : Memory Byte} {offset maxlen : Int}
    {pos : Nat} {kind : Failure → Prop} (fails : Fails kind (parser memory offset maxlen pos)) :
    Fails kind ((parser >>= next) memory offset maxlen pos) := by
  obtain ⟨failure, of_kind, failed⟩ := fails
  refine ⟨failure, of_kind, ?_⟩
  change Parser.bind parser next memory offset maxlen pos = _
  rw [Parser.bind, failed]

theorem bind_eq_next {parser : Parser Byte Failure Value}
    {next : Value → Parser Byte Failure Other} {memory : Memory Byte} {offset maxlen : Int}
    {pos stop : Nat} {value : Value} (step : parser memory offset maxlen pos = .ok (stop, value)) :
    (parser >>= next) memory offset maxlen pos = next value memory offset maxlen stop := by
  change Parser.bind parser next memory offset maxlen pos = _
  rw [Parser.bind, step]

theorem Reads.bind {parser : Parser Byte Failure Value}
    {next : Value → Parser Byte Failure Other} (first : Reads rejection excuse parser xs good)
    (second : ∀ value, good value → Reads rejection excuse (next value) ys better) :
    Reads rejection excuse (parser >>= next) (xs ++ ys) better where
  fits memory offset maxlen pos within room holds := by
    rw [List.length_append] at room ⊢
    obtain ⟨held, rest⟩ := holds_append.mp holds
    rcases first.fits memory offset maxlen pos within (by omega) held with
      ⟨value, one, step⟩ | failed
    · have later : Holds memory (offset + (pos + xs.length : Nat)) ys := by
        rw [Int.natCast_add, ← Int.add_assoc]
        exact rest
      rw [bind_eq_next step, ← Nat.add_assoc]
      exact (second value one).fits memory offset maxlen (pos + xs.length) within (by omega) later
    · exact .inr (bind_eq_error failed)
  short memory offset maxlen pos within start represented more holds := by
    rw [List.length_append] at more represented
    by_cases cut : maxlen < pos + xs.length
    · -- The window ends inside what the first part reads.
      rw [List.take_append_of_le_length (by omega)] at holds
      exact bind_eq_error
        (first.short memory offset maxlen pos within start (by omega) cut holds)
    · rw [List.take_append, List.take_of_length_le (by omega)] at holds
      obtain ⟨held, rest⟩ := holds_append.mp holds
      rcases first.fits memory offset maxlen pos within (by omega) held with
        ⟨value, one, step⟩ | failed
      · have later : Holds memory (offset + (pos + xs.length : Nat))
            (ys.take (maxlen - (pos + xs.length : Nat)).toNat) := by
          have left : (maxlen - pos).toNat - xs.length =
              (maxlen - (pos + xs.length : Nat)).toNat := by
            omega
          rw [Int.natCast_add, ← Int.add_assoc, ← Int.natCast_add, ← left]
          exact rest
        rw [bind_eq_next step]
        exact (second value one).short memory offset maxlen (pos + xs.length) within (by omega)
          (by omega) (by omega) later
      · exact (bind_eq_error failed).mono fun _ => .inr

/-- The first part reads nothing. -/
theorem Reads.then {parser : Parser Byte Failure Value}
    {next : Value → Parser Byte Failure Other} (first : Reads rejection excuse parser [] good)
    (second : ∀ value, good value → Reads rejection excuse (next value) ys better) :
    Reads rejection excuse (parser >>= next) ys better :=
  first.bind second

theorem Reads.mono {parser : Parser Byte Failure Value} {weaker : Value → Prop}
    (reads : Reads rejection excuse parser xs good)
    (implies : ∀ value, good value → weaker value) :
    Reads rejection excuse parser xs weaker where
  fits memory offset maxlen pos within room holds :=
    (reads.fits memory offset maxlen pos within room holds).imp_left
      fun ⟨value, one, done⟩ => ⟨value, implies value one, done⟩
  short := reads.short

/-- Each source is read into one of `values`. -/
theorem Reads.each {Source : Type x} {parser : Source → Parser Byte Failure Value}
    {format : Other → List Byte} {relation : Other → Value → Prop} {sources : List Source}
    {values : List Other} (lengths : sources.length = values.length)
    (one : ∀ source ∈ sources, ∀ value ∈ values,
      Reads rejection excuse (parser source) (format value) (relation value)) :
    Reads rejection excuse (each parser sources) (values.flatMap format)
      (List.Forall₂ relation values) := by
  induction sources generalizing values with
  | nil =>
      obtain rfl := List.eq_nil_of_length_eq_zero lengths.symm
      exact .pure .nil
  | cons source sources ih =>
      cases values with
      | nil => cases lengths
      | cons value values =>
          have rest := ih (Nat.succ.inj lengths) fun source here value there =>
            one source (List.mem_cons_of_mem _ here) value (List.mem_cons_of_mem _ there)
          rw [List.flatMap_cons]
          refine .bind (one source List.mem_cons_self value List.mem_cons_self) fun head first => ?_
          rw [← List.append_nil (values.flatMap format)]
          exact .bind rest fun tail remaining => .pure (.cons first remaining)

theorem Reads.times {parser : Parser Byte Failure Value} {format : Other → List Byte}
    {relation : Other → Value → Prop} {count : Nat} {values : List Other}
    (lengths : count = values.length)
    (one : ∀ value ∈ values, Reads rejection excuse parser (format value) (relation value)) :
    Reads rejection excuse (times parser count) (values.flatMap format)
      fun result => List.Forall₂ relation values result.val := by
  induction values generalizing count with
  | nil =>
      obtain rfl := lengths
      exact .pure .nil
  | cons value values ih =>
      obtain rfl := lengths
      have rest := ih rfl fun other member => one other (List.mem_cons_of_mem _ member)
      rw [List.flatMap_cons]
      refine .bind (one value List.mem_cons_self) fun head first => ?_
      rw [← List.append_nil (values.flatMap format)]
      exact .bind rest fun tail remaining => .pure (.cons first remaining)

theorem Reads.times_eq {parser : Parser Byte Failure Value} {format : Value → List Byte}
    {count : Nat} (values : {values : List Value // values.length = count})
    (one : ∀ value ∈ values.val, Reads rejection excuse parser (format value) (· = value)) :
    Reads rejection excuse (Parser.times parser count) (values.val.flatMap format) (· = values) := by
  refine (Reads.times values.property.symm one).mono fun result same => Subtype.ext ?_
  have flipped : List.Forall₂ (· = ·) result.val values.val := same.flip
  rwa [List.forall₂_eq_eq_eq] at flipped

end Reads

/-- Whatever the parser reads in a window, it ends there and satisfies `good` with the bytes
that stand there. -/
def Accepts (parser : Parser Byte Failure Value) (good : List Byte → Value → Prop) : Prop :=
  ∀ memory offset maxlen (pos stop : Nat) value, Window offset maxlen → pos ≤ maxlen →
    parser memory offset maxlen pos = .ok (stop, value) →
    stop ≤ maxlen ∧ ∃ bytes : List Byte, stop = pos + bytes.length ∧
      Holds memory (offset + pos) bytes ∧ good bytes value

section Accepts

variable {good : List Byte → Value → Prop} {better : List Byte → Other → Prop}

theorem Accepts.pure {value : Value} (holds : good [] value) :
    Accepts (pure value : Parser Byte Failure Value) good := by
  intro memory offset maxlen pos stop result within start done
  cases done
  exact ⟨start, [], by simp, holds_nil memory _, holds⟩

theorem Accepts.bind {parser : Parser Byte Failure Value}
    {next : Value → Parser Byte Failure Other} (first : Accepts parser good)
    (second : ∀ xs value, good xs value →
      Accepts (next value) fun ys result => better (xs ++ ys) result) :
    Accepts (parser >>= next) better := by
  intro memory offset maxlen pos stop result within start done
  change Parser.bind parser next memory offset maxlen pos = _ at done
  rw [Parser.bind] at done
  split at done
  · cases done
  · next middle value step =>
      obtain ⟨inside, xs, rfl, held, one⟩ := first _ _ _ _ _ _ within start step
      obtain ⟨ends, ys, rfl, rest, two⟩ := second xs value one _ _ _ _ _ _ within inside done
      refine ⟨ends, xs ++ ys, by rw [List.length_append, Nat.add_assoc], ?_, two⟩
      refine holds_append.mpr ⟨held, ?_⟩
      rw [Int.natCast_add, ← Int.add_assoc] at rest
      exact rest

theorem Accepts.mono {parser : Parser Byte Failure Value} {weaker : List Byte → Value → Prop}
    (accepts : Accepts parser good) (implies : ∀ bytes value, good bytes value →
      weaker bytes value) : Accepts parser weaker := by
  intro memory offset maxlen pos stop value within start done
  obtain ⟨ends, bytes, length, held, one⟩ := accepts _ _ _ _ _ _ within start done
  exact ⟨ends, bytes, length, held, implies bytes value one⟩

/-- Each of the values has its own part of the bytes. -/
theorem Accepts.times {parser : Parser Byte Failure Value} {format : Value → List Byte}
    {Valid : Value → Prop}
    (one : Accepts parser fun bytes value => bytes = format value ∧ Valid value) (count : Nat) :
    Accepts (times parser count) fun bytes values =>
      bytes = values.val.flatMap format ∧ ∀ value ∈ values.val, Valid value := by
  induction count with
  | zero => exact .pure (by simp)
  | succ count ih =>
      refine .bind one fun xs value first => .bind ih fun ys values rest => .pure ?_
      obtain ⟨rfl, valid⟩ := first
      obtain ⟨rfl, others⟩ := rest
      simp only [List.append_nil, List.flatMap_cons, List.mem_cons, forall_eq_or_imp, true_and]
      exact ⟨valid, others⟩

theorem Accepts.each {Source : Type x} {parser : Source → Parser Byte Failure Value}
    {format : Value → List Byte} {Valid : Value → Prop}
    (one : ∀ source, Accepts (parser source) fun bytes value => bytes = format value ∧ Valid value)
    (sources : List Source) :
    Accepts (each parser sources) fun bytes values =>
      bytes = values.flatMap format ∧ values.length = sources.length ∧
        ∀ value ∈ values, Valid value := by
  induction sources with
  | nil => exact .pure (by simp)
  | cons source sources ih =>
      refine .bind (one source) fun xs value first => .bind ih fun ys values rest => .pure ?_
      obtain ⟨rfl, valid⟩ := first
      obtain ⟨rfl, length, others⟩ := rest
      simp only [List.append_nil, List.flatMap_cons, List.length_cons, length, List.mem_cons,
        forall_eq_or_imp, true_and]
      exact ⟨valid, others⟩

theorem Accepts.call {decode : Decoder Byte Failure Value} (accepts : ∀ memory offset
      maxlen (read : Nat) value, Window offset maxlen →
      decode memory offset maxlen = .ok (read, value) →
      read ≤ maxlen ∧ ∃ bytes : List Byte, read = bytes.length ∧ Holds memory offset bytes ∧
        good bytes value) : Accepts (call decode) good := by
  intro memory offset maxlen pos stop value within start done
  rw [Parser.call] at done
  split at done
  · cases done
  · next thislen result step =>
      cases done
      obtain ⟨ends, bytes, rfl, held, one⟩ := accepts _ _ _ _ _ (within.rest (by omega) start) step
      exact ⟨by omega, bytes, rfl, held, one⟩

theorem Accepts.run {parser : Parser Byte Failure Value} (accepts : Accepts parser good)
    (memory : Memory Byte) (offset maxlen : Int) (read : Nat) (value : Value)
    (within : Window offset maxlen) (done : parser.run memory offset maxlen = .ok (read, value)) :
    read ≤ maxlen ∧ ∃ bytes : List Byte, read = bytes.length ∧ Holds memory offset bytes ∧
      good bytes value := by
  obtain ⟨ends, bytes, length, held, one⟩ := 
    accepts memory offset maxlen 0 read value within within.nonneg done
  exact ⟨ends, bytes, by omega, by simpa using held, one⟩

/-- Parsers that agree in a window make the same array there. -/
theorem times_congr {first second : Parser Byte Failure Value} {memory : Memory Byte}
    {offset maxlen : Int} (within : Window offset maxlen) (accepts : Accepts first good)
    (same : ∀ pos : Nat, pos ≤ maxlen →
      first memory offset maxlen pos = second memory offset maxlen pos)
    (count pos : Nat) (inside : pos ≤ maxlen) :
    times first count memory offset maxlen pos = times second count memory offset maxlen pos := by
  induction count generalizing pos with
  | zero => rfl
  | succ count ih =>
      simp only [Parser.times, Parser.bind]
      rw [← same pos inside]
      cases step : first memory offset maxlen pos with
      | error failure => rfl
      | ok result =>
          obtain ⟨ends, _⟩ := accepts memory offset maxlen pos _ _ within inside step
          simp only [ih _ ends]

theorem call_eq_error_iff {decode : Decoder Byte Failure Value} {memory : Memory Byte}
    {offset maxlen : Int} {pos : Nat} {failure : Failure} :
    call decode memory offset maxlen pos = .error failure ↔
      decode memory (offset + pos) (maxlen - pos) = .error failure := by
  rw [Parser.call]
  cases decode memory (offset + pos) (maxlen - pos) <;> simp

/-- Decoders that agree from some place on make the same array from there. -/
theorem each_congr {Source : Type x} {first second : Source → Decoder Byte Failure Value}
    {memory : Memory Byte} {offset maxlen : Int} {start : Nat} (within : Window offset maxlen)
    (accepts : ∀ source, Accepts (call (first source)) good)
    (same : ∀ source (pos : Nat), start ≤ pos → pos ≤ maxlen →
      call (first source) memory offset maxlen pos = call (second source) memory offset maxlen pos)
    (sources : List Source) (pos : Nat) (after : start ≤ pos) (inside : pos ≤ maxlen) :
    each (fun source => call (first source)) sources memory offset maxlen pos =
      each (fun source => call (second source)) sources memory offset maxlen pos := by
  induction sources generalizing pos with
  | nil => rfl
  | cons source sources ih =>
      simp only [Parser.each, Parser.bind]
      rw [← same source pos after inside]
      cases step : call (first source) memory offset maxlen pos with
      | error failure => rfl
      | ok result =>
          obtain ⟨ends, bytes, stop, _⟩ :=
            accepts source memory offset maxlen pos _ _ within inside step
          simp only [ih _ (by omega) ends]

end Accepts

/-- In one window, the failures of a parser that begins at `start` or later are rejections. -/
def Rejects (rejection : Failure → Prop) (memory : Memory Byte) (offset maxlen : Int) (start : Nat)
    (parser : Parser Byte Failure Value) : Prop :=
  ∀ (pos : Nat) failure, start ≤ pos → pos ≤ maxlen →
    parser memory offset maxlen pos = .error failure → rejection failure

section Rejects

variable {rejection : Failure → Prop} {memory : Memory Byte} {offset maxlen : Int} {start : Nat}
  {good : List Byte → Value → Prop}

theorem Rejects.pure {value : Value} :
    Rejects rejection memory offset maxlen start (pure value : Parser Byte Failure Value) := by
  intro pos failure after inside failed
  cases failed

theorem Rejects.fail {failure : Failure} (rejected : rejection failure) :
    Rejects rejection memory offset maxlen start (fail failure : Parser Byte Failure Value) := by
  intro pos _ after inside failed
  cases failed
  exact rejected

theorem Rejects.bind {parser : Parser Byte Failure Value}
    {next : Value → Parser Byte Failure Other} (within : Window offset maxlen)
    (accepts : Accepts parser good)
    (first : Rejects rejection memory offset maxlen start parser)
    (second : ∀ bytes value, good bytes value →
      Rejects rejection memory offset maxlen (start + bytes.length) (next value)) :
    Rejects rejection memory offset maxlen start (parser >>= next) := by
  intro pos failure after inside failed
  change Parser.bind parser next memory offset maxlen pos = _ at failed
  rw [Parser.bind] at failed
  split at failed
  · next early step =>
      cases failed
      exact first pos failure after inside step
  · next middle value step =>
      obtain ⟨ends, bytes, rfl, _, one⟩ := accepts _ _ _ _ _ _ within inside step
      exact second bytes value one _ failure (Nat.add_le_add_right after _) ends failed

theorem Rejects.mono {parser : Parser Byte Failure Value} {kind : Failure → Prop}
    (rejects : Rejects rejection memory offset maxlen start parser)
    (implies : ∀ failure, rejection failure → kind failure) :
    Rejects kind memory offset maxlen start parser := fun pos failure after inside failed =>
  implies failure (rejects pos failure after inside failed)

theorem Rejects.later {parser : Parser Byte Failure Value} {other : Nat}
    (rejects : Rejects rejection memory offset maxlen start parser) (after : start ≤ other) :
    Rejects rejection memory offset maxlen other parser := fun pos failure later inside failed =>
  rejects pos failure (Nat.le_trans after later) inside failed

theorem Rejects.times {parser : Parser Byte Failure Value} (within : Window offset maxlen)
    (accepts : Accepts parser good)
    (one : Rejects rejection memory offset maxlen start parser) (count : Nat) :
    Rejects rejection memory offset maxlen start (times parser count) := by
  induction count with
  | zero => exact .pure
  | succ count ih =>
      refine .bind within accepts one fun _ _ _ => .later ?_ (Nat.le_add_right start _)
      intro pos failure after inside failed
      rw [Parser.bind] at failed
      split at failed
      · next early step =>
          cases failed
          exact ih pos failure after inside step
      · cases failed

theorem Rejects.each {Source : Type x} {parser : Source → Parser Byte Failure Value}
    (within : Window offset maxlen) (accepts : ∀ source, Accepts (parser source) good)
    (one : ∀ source, Rejects rejection memory offset maxlen start (parser source))
    (sources : List Source) :
    Rejects rejection memory offset maxlen start (each parser sources) := by
  induction sources with
  | nil => exact .pure
  | cons source sources ih =>
      refine .bind within (accepts source) (one source) fun _ _ _ => .later ?_ (Nat.le_add_right start _)
      intro pos failure after inside failed
      rw [Parser.bind] at failed
      split at failed
      · next early step =>
          cases failed
          exact ih pos failure after inside step
      · cases failed

end Rejects

end Parser

/-- What `Parser.Reads` says of a body that starts at the offset. -/
structure Decoder.Reads (rejection excuse : Failure → Prop) (decode : Decoder Byte Failure Value)
    (bytes : List Byte) (good : Value → Prop) : Prop where
  fits : ∀ memory offset maxlen, Window offset maxlen → bytes.length ≤ maxlen →
    Holds memory offset bytes →
    (∃ value, good value ∧ decode memory offset maxlen = .ok (bytes.length, value)) ∨
      Fails excuse (decode memory offset maxlen)
  short : ∀ memory offset maxlen, Window offset maxlen → bytes.length < 2 ^ 31 →
    maxlen < bytes.length → Holds memory offset (bytes.take maxlen.toNat) →
    Fails (fun failure => rejection failure ∨ excuse failure) (decode memory offset maxlen)

section Calls

variable {rejection excuse kind : Failure → Prop} {bytes : List Byte} {good : Value → Prop}

theorem Parser.call_fails {decode : Decoder Byte Failure Value} {memory : Memory Byte}
    {offset maxlen : Int} {pos : Nat}
    (fails : Fails kind (decode memory (offset + pos) (maxlen - pos))) :
    Fails kind (Parser.call decode memory offset maxlen pos) := by
  obtain ⟨failure, of_kind, failed⟩ := fails
  exact ⟨failure, of_kind, Parser.call_eq_error_iff.mpr failed⟩

theorem Decoder.Reads.call {decode : Decoder Byte Failure Value}
    (reads : Decoder.Reads rejection excuse decode bytes good) :
    Parser.Reads rejection excuse (Parser.call decode) bytes good where
  fits memory offset maxlen pos within room holds := by
    have left := within.rest (Int.natCast_nonneg pos) (by omega)
    refine (reads.fits memory _ _ left (by omega) holds).imp ?_ Parser.call_fails
    rintro ⟨value, one, done⟩
    exact ⟨value, one, by rw [Parser.call, done]⟩
  short memory offset maxlen pos within start represented more holds := by
    have left := within.rest (Int.natCast_nonneg pos) start
    exact Parser.call_fails (reads.short memory _ _ left represented (by omega) holds)

/-- A decoder that needs no excuse may have one. -/
theorem Decoder.Reads.excused {decode : Decoder Byte Failure Value}
    (reads : Decoder.Reads rejection (fun _ => False) decode bytes good) :
    Decoder.Reads rejection excuse decode bytes good where
  fits memory offset maxlen within room holds :=
    (reads.fits memory offset maxlen within room holds).imp_right
      fun fails => fails.mono fun _ => False.elim
  short memory offset maxlen within represented more holds :=
    (reads.short memory offset maxlen within represented more holds).mono
      fun _ => .imp_right False.elim

theorem Parser.Reads.run {parser : Parser Byte Failure Value}
    (reads : Parser.Reads rejection excuse parser bytes good) :
    Decoder.Reads rejection excuse parser.run bytes good where
  fits memory offset maxlen within room holds := by
    simpa [Parser.run] using
      reads.fits memory offset maxlen 0 within (by omega) (by simpa using holds)
  short memory offset maxlen within represented more holds := by
    simpa [Parser.run] using reads.short memory offset maxlen 0 within within.nonneg represented
      (by omega) (by simpa using holds)

end Calls

end Decoders

end VelaExternal.Systems
