import Mathlib.Data.List.Forall2
import VelaExternal.Open1722.Argp

/-! How `argp_parse` goes through `argv`: every element it passes is an option or the value
of the option before it, and every option makes one call of the parser callback. -/

set_option autoImplicit false

namespace VelaExternal.Open1722

open Systems

universe u

variable {Input : Type u} {argp : Argp Input} {argv : Argv}

/-!
## Characters
-/

theorem Argv.char_of_lt {pointer : Pointer}
    (inside : pointer.offset < (argv.chars pointer.element).length) :
    argv.char pointer = (argv.chars pointer.element)[pointer.offset] := by
  simp only [Argv.char, List.getElem?_eq_getElem inside]

theorem Argv.char_terminator {pointer : Pointer}
    (last : pointer.offset = (argv.chars pointer.element).length) : argv.char pointer = 0 := by
  simp only [Argv.char, last, List.getElem?_length, if_true]

theorem Argv.chars_nonzero (element : Nat) : 0 ∉ argv.chars element := by
  unfold Argv.chars
  cases argv.elements[element]? with
  | none => simp
  | some string => exact string.nonzero

theorem Argv.text_nonzero (pointer : Pointer) : 0 ∉ argv.text pointer :=
  fun member => Argv.chars_nonzero pointer.element (List.mem_of_mem_drop member)

theorem Argv.length_text (pointer : Pointer) :
    (argv.text pointer).length = (argv.chars pointer.element).length - pointer.offset :=
  List.length_drop

theorem Argv.length_pos {element : Nat} (dash : argv.char ⟨element, 0⟩ = 45) :
    0 < (argv.chars element).length := by
  by_contra empty
  have last : 0 = (argv.chars element).length := by omega
  rw [Argv.char_terminator last] at dash
  cases dash

theorem Argv.one_lt_length {element : Nat} (dash : argv.char ⟨element, 0⟩ = 45)
    (not_lone : argv.chars element ≠ [45]) : 1 < (argv.chars element).length := by
  have positive := Argv.length_pos dash
  by_contra short
  obtain ⟨first, only⟩ := List.length_eq_one_iff.mp (by omega : (argv.chars element).length = 1)
  have first_char : argv.char ⟨element, 0⟩ = (argv.chars element)[0] := Argv.char_of_lt positive
  simp only [first_char, only, List.getElem_cons_zero] at dash
  exact not_lone (dash ▸ only)

theorem Argv.not_lone {element : Nat} (no_lone : ∀ string ∈ argv.elements, string.chars ≠ [45]) :
    argv.chars element ≠ [45] := by
  unfold Argv.chars
  cases found : argv.elements[element]? with
  | none => simp
  | some string => exact no_lone string (List.mem_of_getElem? found)

/-!
## The search
-/

/-- The search stops at `row`, which is the option that is asked for. -/
structure Selects (test : OptionTest) (rows : List ArgpOption) (row : ArgpOption) : Prop where
  stops : rows.find? (fun opt => test.isOption opt || test.isHelp) = some row
  found : test.isOption row = true

theorem searchOptions_verdict (test : OptionTest) (value : Option Pointer) (help : List UInt8)
    (rows : List ArgpOption) :
    (searchOptions test value help rows).verdict =
      match rows.find? fun opt => test.isOption opt || test.isHelp with
      | some opt => if test.isOption opt then accept test value opt else .exit 0 [] help
      | none => .exit 1 test.unknown help := by
  induction rows with
  | nil => rfl
  | cons opt rest ih =>
      rw [searchOptions, List.find?_cons]
      cases is_option : test.isOption opt with
      | true => simp [is_option]
      | false =>
          cases is_help : test.isHelp with
          | true => simp [is_option]
          | false => simpa [is_help] using ih

theorem Selects.verdict {test : OptionTest} {rows : List ArgpOption} {row : ArgpOption}
    (selects : Selects test rows row) (value : Option Pointer) (help : List UInt8) :
    (searchOptions test value help rows).verdict = accept test value row := by
  rw [searchOptions_verdict, selects.stops]
  exact if_pos selects.found

theorem Selects.mem {test : OptionTest} {rows : List ArgpOption} {row : ArgpOption}
    (selects : Selects test rows row) : row ∈ rows :=
  List.mem_of_find?_eq_some selects.stops

private theorem searchOptions_call {test : OptionTest} {value called : Option Pointer}
    {help : List UInt8} {rows : List ArgpOption} {key : Int}
    (calls : (searchOptions test value help rows).verdict = .call key called) :
    called = value ∧ ∃ opt, Selects test rows opt ∧ key = test.key opt ∧
      (opt.arg.isSome → called ≠ none) := by
  rw [searchOptions_verdict] at calls
  split at calls
  case h_1 opt stops =>
    split at calls
    case isTrue found =>
      unfold accept at calls
      split at calls
      case isTrue missing => cases calls
      case isFalse given =>
        cases calls
        refine ⟨rfl, opt, ⟨stops, found⟩, rfl, ?_⟩
        intro declares absent
        exact given ⟨declares, by simp [absent]⟩
    case isFalse helped => cases calls
  case h_2 unknown => cases calls

def optionTest (argv : Argv) (element : Nat) : OptionTest :=
  if argv.char ⟨element, 1⟩ = 45 then
    longTest argv ⟨element, 2⟩ (nameLength argv ⟨element, 2⟩)
  else shortTest argv ⟨element, 1⟩

theorem optionTest_key {element : Nat} {opt : ArgpOption}
    (found : (optionTest argv element).isOption opt = true) :
    (optionTest argv element).key opt = opt.key := by
  unfold optionTest at found ⊢
  split
  case isTrue long => rfl
  case isFalse short =>
    rw [if_neg short] at found
    exact (of_decide_eq_true found).symm

def optionValue (argv : Argv) (element : Nat) : Option Pointer × Nat :=
  if argv.char ⟨element, 1⟩ = 45 then longValue argv ⟨element, 2⟩ (element + 1)
  else shortValue argv ⟨element, 1⟩ (element + 1)

theorem Argp.parseOption_next (element : Nat) :
    (argp.parseOption argv element).next = (optionValue argv element).2 := by
  unfold Argp.parseOption optionValue
  split <;> rfl

theorem Argp.parseOption_call {element : Nat} {key : Int} {called : Option Pointer}
    (calls : (argp.parseOption argv element).verdict = .call key called) :
    called = (optionValue argv element).1 ∧
      ∃ opt ∈ argp.rows, Selects (optionTest argv element) argp.rows opt ∧ opt.key = key ∧
        (opt.arg.isSome → called ≠ none) := by
  have searched : called = (optionValue argv element).1 ∧
      ∃ opt, Selects (optionTest argv element) argp.rows opt ∧
        key = (optionTest argv element).key opt ∧ (opt.arg.isSome → called ≠ none) := by
    unfold Argp.parseOption at calls
    unfold optionValue optionTest
    split at calls
    case isTrue long =>
      rw [if_pos long, if_pos long]
      exact searchOptions_call calls
    case isFalse short =>
      rw [if_neg short, if_neg short]
      exact searchOptions_call calls
  obtain ⟨same, opt, selects, rfl, given⟩ := searched
  exact ⟨same, opt, selects.mem, selects, (optionTest_key selects.found).symm, given⟩

inductive ValueOf (argv : Argv) (element : Nat) : Option Pointer × Nat → Prop where
  | none (last : argv.argc ≤ element + 1) : ValueOf argv element (.none, element + 1)
  | attached (offset : Nat) (proper : 0 < offset)
      (inside : offset ≤ (argv.chars element).length) :
      ValueOf argv element (some ⟨element, offset⟩, element + 1)
  | separate (follows : element + 1 < argv.argc) :
      ValueOf argv element (some ⟨element + 1, 0⟩, element + 2)

private theorem valueOf_fetch (element : Nat) : ValueOf argv element (argv.fetch (element + 1)) := by
  unfold Argv.fetch
  split
  case isTrue follows => exact .separate follows
  case isFalse last => exact .none (Nat.le_of_not_lt last)

theorem valueOf_optionValue {element : Nat} (dash : argv.char ⟨element, 0⟩ = 45)
    (not_lone : argv.chars element ≠ [45]) :
    ValueOf argv element (optionValue argv element) := by
  have long_enough := Argv.one_lt_length dash not_lone
  unfold optionValue longValue shortValue
  split
  case isTrue long =>
    cases found : strchr (argv.text ⟨element, 2⟩) 61 with
    | none => exact valueOf_fetch element
    | some position =>
        have within := strchr_lt found
        rw [Argv.length_text] at within
        apply ValueOf.attached
        · omega
        · change 2 + (position + 1) ≤ (argv.chars element).length
          change position < (argv.chars element).length - 2 at within
          omega
  case isFalse short =>
    split
    case isTrue attached => exact .attached 2 Nat.two_pos long_enough
    case isFalse alone => exact valueOf_fetch element

/-!
## Turns of the loop
-/

inductive Turns (argp : Argp Input) (argv : Argv) (parsing : Parsing Input) :
    Parsing Input → Prop where
  | ends (last : argv.argc ≤ parsing.state.next) :
      Turns argp argv parsing { parsing with outcome := some (.returned 0) }
  | stops (inside : parsing.state.next < argv.argc)
      (word : argv.char ⟨parsing.state.next, 0⟩ ≠ 45) :
      Turns argp argv parsing
        { parsing with
          reads := parsing.reads ++ [⟨parsing.state.next, 0⟩], outcome := some (.returned 0) }
  | calls (key : Int) (value : Option Pointer) (answer : Int × ArgpState Input)
      (inside : parsing.state.next < argv.argc)
      (dash : argv.char ⟨parsing.state.next, 0⟩ = 45)
      (verdict : (argp.parseOption argv parsing.state.next).verdict = .call key value)
      (answered : argp.parser key value
        ⟨(argp.parseOption argv parsing.state.next).next, parsing.state.input⟩ = answer) :
      Turns argp argv parsing
        { parsing with
          state := answer.2
          reads := parsing.reads ++ [⟨parsing.state.next, 0⟩, ⟨parsing.state.next, 1⟩] ++
            (argp.parseOption argv parsing.state.next).reads
          calls := parsing.calls ++ [{ key, value, error := answer.1 }] }
  | exits (status : Nat) (stderr stdout : List UInt8) (inside : parsing.state.next < argv.argc)
      (dash : argv.char ⟨parsing.state.next, 0⟩ = 45)
      (verdict : (argp.parseOption argv parsing.state.next).verdict = .exit status stderr stdout) :
      Turns argp argv parsing
        { parsing with
          state := { parsing.state with
            next := (argp.parseOption argv parsing.state.next).next }
          reads := parsing.reads ++ [⟨parsing.state.next, 0⟩, ⟨parsing.state.next, 1⟩] ++
            (argp.parseOption argv parsing.state.next).reads
          outcome := some (.exited status stderr stdout) }

theorem Argp.turns_turn (argp : Argp Input) (argv : Argv) (parsing : Parsing Input) :
    Turns argp argv parsing (argp.turn argv parsing) := by
  unfold Argp.turn
  dsimp only
  split
  case isTrue inside =>
    split
    case isTrue dash =>
      cases verdict : (argp.parseOption argv parsing.state.next).verdict with
      | call key value =>
          simp only [Argp.conclude, verdict]
          exact .calls key value _ inside dash verdict rfl
      | exit status stderr stdout =>
          simp only [Argp.conclude, verdict]
          exact .exits status stderr stdout inside dash verdict
    case isFalse word => exact .stops inside word
  case isFalse last => exact .ends (Nat.le_of_not_lt last)

theorem Argp.argpParse_running {input : Input} {turns : Nat}
    (running : (argp.argpParse argv input turns).outcome = none) :
    argp.argpParse argv input (turns + 1) = argp.turn argv (argp.argpParse argv input turns) := by
  simp only [Argp.argpParse, running]

theorem Argp.argpParse_ended {input : Input} {turns : Nat}
    (ended : (argp.argpParse argv input turns).outcome ≠ none) :
    argp.argpParse argv input (turns + 1) = argp.argpParse argv input turns := by
  obtain ⟨outcome, found⟩ := Option.ne_none_iff_exists'.mp ended
  simp only [Argp.argpParse, found]

theorem Argp.argpParse_add {input : Input} {turns : Nat}
    (ended : (argp.argpParse argv input turns).outcome ≠ none) (more : Nat) :
    argp.argpParse argv input (turns + more) = argp.argpParse argv input turns := by
  induction more with
  | zero => rfl
  | succ more ih =>
      rw [← Nat.add_assoc, argpParse_ended (by rwa [ih]), ih]

theorem Argp.argpParse_invariant {input : Input} (holds : Nat → Parsing Input → Prop)
    (start : holds 0 (Argp.start input))
    (keeps : ∀ turns before after, holds turns before → before.outcome = none →
      Turns argp argv before after → holds (turns + 1) after)
    (ended : ∀ turns parsing, holds turns parsing → parsing.outcome ≠ none →
      holds (turns + 1) parsing) (turns : Nat) :
    holds turns (argp.argpParse argv input turns) := by
  induction turns with
  | zero => exact start
  | succ turns ih =>
      by_cases running : (argp.argpParse argv input turns).outcome = none
      · rw [argpParse_running running]
        exact keeps turns _ _ ih running (argp.turns_turn argv _)
      · rw [argpParse_ended running]
        exact ended turns _ ih running

/-!
## The pieces of `argv`
-/

/-- An option element, and whether the element after it is its value. -/
structure Piece where
  option : Nat
  separate : Bool

def Piece.elements (piece : Piece) : List Nat :=
  if piece.separate then [piece.option, piece.option + 1] else [piece.option]

/-- The value of a call is what the piece leaves for it. -/
def Piece.Gives (argv : Argv) (piece : Piece) (value : Option Pointer) : Prop :=
  if piece.separate then value = some ⟨piece.option + 1, 0⟩
  else value = none ∨ ∃ offset, 0 < offset ∧ offset ≤ (argv.chars piece.option).length ∧
    value = some ⟨piece.option, offset⟩

/-- The call is that of the row at which the search for the piece's option stops. -/
structure Causes (argp : Argp Input) (argv : Argv) (piece : Piece) (call : Call) : Prop where
  row : ∃ opt ∈ argp.rows, Selects (optionTest argv piece.option) argp.rows opt ∧
    opt.key = call.key ∧ (opt.arg.isSome → call.value ≠ none)
  value : piece.Gives argv call.value

/-- The elements before `next` are the pieces in turn, and each piece has made its call. -/
structure Partition (argp : Argp Input) (argv : Argv) (next : Nat) (pieces : List Piece)
    (calls : List Call) : Prop where
  elements : pieces.flatMap Piece.elements = List.range' 1 (next - 1)
  dashes : ∀ piece ∈ pieces, argv.char ⟨piece.option, 0⟩ = 45
  calls : List.Forall₂ (Causes argp argv) pieces calls

/-- The loop is left at the end of `argv` or at an element that is no option. -/
def AtEnd (argv : Argv) (next : Nat) : Prop :=
  next = max argv.argc 1 ∨ next < argv.argc ∧ argv.char ⟨next, 0⟩ ≠ 45

private theorem partition_start : Partition argp argv 1 [] [] where
  elements := rfl
  dashes := by simp
  calls := .nil

/-- `argv` is cut up for the calls made so far; an exit leaves its option without one. -/
inductive Partitioned (argp : Argp Input) (argv : Argv) (parsing : Parsing Input) : Prop where
  | running (pieces : List Piece) (outcome : parsing.outcome = none)
      (partition : Partition argp argv parsing.state.next pieces parsing.calls)
  | returned (pieces : List Piece) (outcome : parsing.outcome = some (.returned 0))
      (partition : Partition argp argv parsing.state.next pieces parsing.calls)
      (at_end : AtEnd argv parsing.state.next)
  | exited (pieces : List Piece) (last : Piece) (status : Nat) (stderr stdout : List UInt8)
      (outcome : parsing.outcome = some (.exited status stderr stdout))
      (elements : (pieces ++ [last]).flatMap Piece.elements =
        List.range' 1 (parsing.state.next - 1))
      (dash : argv.char ⟨last.option, 0⟩ = 45)
      (partition : Partition argp argv last.option pieces parsing.calls)

def Argp.LeavesNext (argp : Argp Input) : Prop :=
  ∀ key value next input, (argp.parser key value ⟨next, input⟩).2.next = next

/-- `next` as the loop moves it: past one element in every turn, and not behind `argv`. -/
structure Cursor (argv : Argv) (turns : Nat) (parsing : Parsing Input) : Prop where
  positive : 1 ≤ parsing.state.next
  within : parsing.state.next ≤ max argv.argc 1
  advanced : parsing.outcome = none → turns < parsing.state.next

theorem ValueOf.piece {element : Nat} {value : Option Pointer} {next : Nat} (positive : 1 ≤ element)
    (found : ValueOf argv element (value, next)) :
    ∃ piece : Piece, piece.option = element ∧ piece.Gives argv value ∧
      List.range' 1 (element - 1) ++ piece.elements = List.range' 1 (next - 1) := by
  obtain ⟨earlier, rfl⟩ := Nat.exists_eq_add_of_le' positive
  cases found with
  | none last =>
      refine ⟨⟨earlier + 1, false⟩, rfl, .inl rfl, ?_⟩
      simp [Piece.elements, List.range'_concat, Nat.add_comm]
  | attached offset proper inside =>
      refine ⟨⟨earlier + 1, false⟩, rfl, .inr ⟨offset, proper, inside, rfl⟩, ?_⟩
      simp [Piece.elements, List.range'_concat, Nat.add_comm]
  | separate follows =>
      refine ⟨⟨earlier + 1, true⟩, rfl, rfl, ?_⟩
      simp [Piece.elements, List.range'_concat, Nat.add_comm]

private theorem parseOption_piece {element : Nat} (positive : 1 ≤ element)
    (dash : argv.char ⟨element, 0⟩ = 45) (not_lone : argv.chars element ≠ [45]) :
    ∃ piece : Piece, piece.option = element ∧ piece.Gives argv (optionValue argv element).1 ∧
      List.range' 1 (element - 1) ++ piece.elements =
        List.range' 1 ((argp.parseOption argv element).next - 1) := by
  rw [Argp.parseOption_next]
  exact (valueOf_optionValue dash not_lone).piece positive

private theorem cursor_parseOption {element : Nat} (inside : element < argv.argc)
    (dash : argv.char ⟨element, 0⟩ = 45) (not_lone : argv.chars element ≠ [45]) :
    element < (argp.parseOption argv element).next ∧
      (argp.parseOption argv element).next ≤ argv.argc := by
  rw [Argp.parseOption_next]
  cases found : optionValue argv element with
  | mk value next =>
      have value_of := valueOf_optionValue dash not_lone
      rw [found] at value_of
      cases value_of with
      | none last => exact ⟨Nat.lt_succ_self _, inside⟩
      | attached offset proper within => exact ⟨Nat.lt_succ_self _, inside⟩
      | separate follows => exact ⟨Nat.lt_add_of_pos_right Nat.two_pos, follows⟩

private theorem cursor_turn {before after : Parsing Input} (leaves : argp.LeavesNext)
    (no_lone : ∀ string ∈ argv.elements, string.chars ≠ [45]) {turns : Nat}
    (cursor : Cursor argv turns before) (running : before.outcome = none)
    (turned : Turns argp argv before after) : Cursor argv (turns + 1) after := by
  have advanced := cursor.advanced running
  cases turned with
  | ends last => exact ⟨cursor.positive, cursor.within, by simp⟩
  | stops inside word => exact ⟨cursor.positive, cursor.within, by simp⟩
  | calls key value answer inside dash verdict answered =>
      obtain ⟨further, within⟩ := @cursor_parseOption _ argp _ _ inside dash (Argv.not_lone no_lone)
      have left := leaves key value (argp.parseOption argv before.state.next).next
        before.state.input
      rw [answered] at left
      constructor
      · change 1 ≤ answer.2.next
        omega
      · change answer.2.next ≤ _
        omega
      · intro _
        change turns + 1 < answer.2.next
        omega
  | exits status stderr stdout inside dash verdict =>
      obtain ⟨further, within⟩ := @cursor_parseOption _ argp _ _ inside dash (Argv.not_lone no_lone)
      constructor
      · exact Nat.one_le_of_lt further
      · exact Nat.le_trans within (Nat.le_max_left ..)
      · simp

theorem Partition.snoc {next : Nat} {pieces : List Piece} {calls : List Call} {piece : Piece}
    {call : Call} {stop : Nat} (partition : Partition argp argv next pieces calls)
    (here : piece.option = next) (dash : argv.char ⟨next, 0⟩ = 45)
    (elements : List.range' 1 (next - 1) ++ piece.elements = List.range' 1 (stop - 1))
    (causes : Causes argp argv piece call) :
    Partition argp argv stop (pieces ++ [piece]) (calls ++ [call]) := by
  constructor
  · rw [List.flatMap_append, partition.elements, ← elements, List.flatMap_singleton]
  · intro other member
    rcases List.mem_append.mp member with earlier | last
    · exact partition.dashes other earlier
    · rw [List.mem_singleton.mp last, here]
      exact dash
  · exact List.rel_append partition.calls (.cons causes .nil)

private theorem partitioned_turn {before after : Parsing Input} (leaves : argp.LeavesNext)
    (no_lone : ∀ string ∈ argv.elements, string.chars ≠ [45]) {turns : Nat}
    (cursor : Cursor argv turns before) (running : before.outcome = none)
    (partitioned : Partitioned argp argv before) (turned : Turns argp argv before after) :
    Partitioned argp argv after := by
  obtain ⟨pieces, partition⟩ : ∃ pieces,
      Partition argp argv before.state.next pieces before.calls := by
    cases partitioned with
    | running pieces outcome partition => exact ⟨pieces, partition⟩
    | returned pieces outcome => simp [running] at outcome
    | exited pieces last status stderr stdout outcome => simp [running] at outcome
  have positive := cursor.positive
  have within := cursor.within
  cases turned with
  | ends last =>
      have at_end : before.state.next = max argv.argc 1 := by omega
      exact .returned pieces rfl partition (.inl at_end)
  | stops inside word => exact .returned pieces rfl partition (.inr ⟨inside, word⟩)
  | calls key value answer inside dash verdict answered =>
      obtain ⟨piece, here, gives, elements⟩ :=
        @parseOption_piece _ argp _ _ positive dash (Argv.not_lone no_lone)
      obtain ⟨same, row⟩ := Argp.parseOption_call verdict
      have left := leaves key value (argp.parseOption argv before.state.next).next
        before.state.input
      rw [answered] at left
      have causes : Causes argp argv piece { key, value, error := answer.1 } :=
        ⟨here ▸ row, same ▸ gives⟩
      rw [← left] at elements
      have longer := partition.snoc here dash elements causes
      exact .running (pieces ++ [piece]) running longer
  | exits status stderr stdout inside dash verdict =>
      obtain ⟨piece, here, gives, elements⟩ :=
        @parseOption_piece _ argp _ _ positive dash (Argv.not_lone no_lone)
      have last_elements : (pieces ++ [piece]).flatMap Piece.elements =
          List.range' 1 ((argp.parseOption argv before.state.next).next - 1) := by
        rw [List.flatMap_append, partition.elements, ← elements, List.flatMap_singleton]
      exact .exited pieces piece status stderr stdout rfl last_elements (here ▸ dash)
        (here ▸ partition)

/-- The loop ends, `next` stays inside `argv`, and what it has passed is cut up into options
with their values, each of which has made its call of the parser callback. -/
theorem argp_parse_partitions (leaves : argp.LeavesNext)
    (no_lone : ∀ string ∈ argv.elements, string.chars ≠ [45]) (input : Input) {turns : Nat}
    (enough : argv.argc < turns) :
    (argp.argpParse argv input turns).outcome ≠ none ∧
      1 ≤ (argp.argpParse argv input turns).state.next ∧
      (1 ≤ argv.argc → (argp.argpParse argv input turns).state.next ≤ argv.argc) ∧
      Partitioned argp argv (argp.argpParse argv input turns) := by
  obtain ⟨cursor, partitioned⟩ : Cursor argv turns (argp.argpParse argv input turns) ∧
      Partitioned argp argv (argp.argpParse argv input turns) := by
    apply Argp.argpParse_invariant fun turns parsing =>
      Cursor argv turns parsing ∧ Partitioned argp argv parsing
    · exact ⟨⟨Nat.le_refl 1, Nat.le_max_right .., fun _ => Nat.one_pos⟩,
        .running [] rfl partition_start⟩
    · intro turns before after held running turned
      exact ⟨cursor_turn leaves no_lone held.1 running turned,
        partitioned_turn leaves no_lone held.1 running held.2 turned⟩
    · intro turns parsing held ended
      exact ⟨⟨held.1.positive, held.1.within, fun running => absurd running ended⟩, held.2⟩
  have within := cursor.within
  constructor
  · intro running
    have advanced := cursor.advanced running
    omega
  · constructor
    · exact cursor.positive
    · constructor
      · intro positive
        omega
      · exact partitioned

/-!
## Command lines
-/

def optionRow (name : String) (key : Char) (arg : Option String) : ArgpOption where
  name := some (.literal name)
  key := key.toNat
  arg := arg.map .literal
  doc := none

def accepting (options : List ArgpOption) : Argp Unit where
  options := options
  parser := fun _ _ state => (0, state)

def commandLine (elements : List String) : Argv where
  elements := elements.map .literal
  beyond := fun _ => 0
  charSigned := true

theorem argp_parse_partitions_two_options :
    ∃ final, (accepting [optionRow "output" 'o' (some "FILE"), optionRow "level" 'l' (some "N")]
        ).argpParse (commandLine ["prog", "-o", "out", "--level=3", "rest"]) () 6 = final ∧
      final.calls = [⟨111, some ⟨2, 0⟩, 0⟩, ⟨108, some ⟨3, 8⟩, 0⟩] ∧
      final.outcome ≠ none ∧ 1 ≤ final.state.next ∧ (1 ≤ 5 → final.state.next ≤ 5) ∧
      Partitioned
        (accepting [optionRow "output" 'o' (some "FILE"), optionRow "level" 'l' (some "N")])
        (commandLine ["prog", "-o", "out", "--level=3", "rest"]) final :=
  ⟨_, rfl, by decide, argp_parse_partitions (fun _ _ _ _ => rfl) (by decide) () (by decide)⟩

end VelaExternal.Open1722
