import VelaExternal.Open1722.ArgpProperties

/-! What single turns of `argp_parse` do, and what follows for all of them: the value of an
option without an argument, the characters that are read, the errors of the callback. -/

set_option autoImplicit false

namespace VelaExternal.Open1722

open Systems

universe u

variable {Input : Type u} {argp : Argp Input} {argv : Argv}

/-- A property that a turn keeps just when a condition holds before it is kept by all turns
just when the condition always holds. -/
theorem Argp.argpParse_iff {input : Input} (holds condition : Parsing Input → Prop)
    (start : holds (Argp.start input))
    (exact_turn : ∀ before after, holds before → before.outcome = none →
      Turns argp argv before after → (holds after ↔ condition before)) :
    (∀ turns, holds (argp.argpParse argv input turns)) ↔
      ∀ turns, (argp.argpParse argv input turns).outcome = none →
        condition (argp.argpParse argv input turns) := by
  constructor
  · intro always turns running
    have turned := argp.turns_turn argv (argp.argpParse argv input turns)
    rw [← argpParse_running running] at turned
    exact (exact_turn _ _ (always turns) running turned).mp (always (turns + 1))
  · intro conditions turns
    induction turns with
    | zero => exact start
    | succ turns ih =>
        by_cases running : (argp.argpParse argv input turns).outcome = none
        · have turned := argp.turns_turn argv (argp.argpParse argv input turns)
          rw [← argpParse_running running] at turned
          exact (exact_turn _ _ ih running turned).mpr (conditions turns running)
        · rw [argpParse_ended running]
          exact ih

/-!
## Options without an argument
-/

/-- The element is `-k` or `--name`, without a value in it, and `row` is the option that is
asked for. -/
inductive SelectedAlone (argp : Argp Input) (argv : Argv) (element : Nat) (row : ArgpOption) :
    Prop where
  | short (key : UInt8) (chars : argv.chars element = [45, key]) (not_long : key ≠ 45)
      (selects : Selects (shortTest argv ⟨element, 1⟩) argp.rows row)
  | long (name : List UInt8) (chars : argv.chars element = 45 :: 45 :: name)
      (no_value : 61 ∉ name)
      (selects : Selects (longTest argv ⟨element, 2⟩ name.length) argp.rows row)

theorem SelectedAlone.inside {element : Nat} {row : ArgpOption}
    (selected : SelectedAlone argp argv element row) : element < argv.argc := by
  have positive : 0 < (argv.chars element).length := by
    cases selected with
    | short key chars not_long selects => simp [chars]
    | long name chars no_value selects => simp [chars]
  by_contra outside
  have none_there : argv.elements[element]? = none :=
    List.getElem?_eq_none (Nat.le_of_not_lt outside)
  simp [Argv.chars, none_there] at positive

theorem SelectedAlone.dash {element : Nat} {row : ArgpOption}
    (selected : SelectedAlone argp argv element row) : argv.char ⟨element, 0⟩ = 45 := by
  cases selected with
  | short key chars not_long selects => simp [Argv.char, chars]
  | long name chars no_value selects => simp [Argv.char, chars]

theorem SelectedAlone.parseOption {element : Nat} {row : ArgpOption}
    (selected : SelectedAlone argp argv element row) (flag : row.arg = none) :
    (argp.parseOption argv element).verdict = .call row.key (argv.fetch (element + 1)).1 ∧
      (argp.parseOption argv element).next = (argv.fetch (element + 1)).2 := by
  cases selected with
  | short key chars not_long selects =>
      have second : argv.char ⟨element, 1⟩ = key := by simp [Argv.char, chars]
      have third : argv.char (Pointer.add ⟨element, 1⟩ 1) = 0 := by
        simp [Argv.char, Pointer.add, chars]
      have is_row : row.key = argv.charValue (argv.char ⟨element, 1⟩) :=
        of_decide_eq_true selects.found
      have value : shortValue argv ⟨element, 1⟩ (element + 1) = argv.fetch (element + 1) := by
        rw [shortValue, if_neg (not_not.mpr third)]
      rw [Argp.parseOption, if_neg (by rwa [second]), parseShortOption, value]
      constructor
      · rw [selects.verdict, accept, flag]
        simp [shortTest, is_row]
      · rfl
  | long name chars no_value selects =>
      have second : argv.char ⟨element, 1⟩ = 45 := by simp [Argv.char, chars]
      have text : argv.text ⟨element, 2⟩ = name := by simp [Argv.text, chars]
      have no_position : strchr (argv.text ⟨element, 2⟩) 61 = none := by
        rw [text, strchr, List.findIdx?_eq_none_iff]
        intro char member
        rw [beq_eq_false_iff_ne]
        rintro rfl
        exact no_value member
      have length : nameLength argv ⟨element, 2⟩ = name.length := by
        rw [nameLength, no_position, text, Option.getD_none]
      have value : longValue argv ⟨element, 2⟩ (element + 1) = argv.fetch (element + 1) := by
        simp only [longValue, no_position]
      rw [Argp.parseOption, if_pos second, parseLongOption, value, length]
      constructor
      · rw [selects.verdict, accept, flag]
        simp [longTest]
      · rfl

/-- The callback gets no value, `state->next` stands at the element after the option, and
unless the callback moves it an option there is dispatched in the next turn. -/
structure FlagKept (argp : Argp Input) (argv : Argv) (parsing : Parsing Input)
    (row : ArgpOption) : Prop where
  value : (argp.turn argv parsing).calls.map (fun call => (call.key, call.value)) =
    parsing.calls.map (fun call => (call.key, call.value)) ++ [(row.key, none)]
  cursor : (argp.parseOption argv parsing.state.next).next = parsing.state.next + 1
  dispatched : parsing.state.next + 1 < argv.argc →
    argv.char ⟨parsing.state.next + 1, 0⟩ = 45 →
    (argp.turn argv parsing).state.next =
      (argp.parseOption argv parsing.state.next).next →
    (argp.turn argv parsing).outcome = none ∧
      (argp.turn argv parsing).state.next = parsing.state.next + 1

/-- An option without an argument leaves the next element alone just when there is none. -/
theorem flag_kept_iff {parsing : Parsing Input} {row : ArgpOption}
    (selected : SelectedAlone argp argv parsing.state.next row) (flag : row.arg = none) :
    FlagKept argp argv parsing row ↔ argv.argc ≤ parsing.state.next + 1 := by
  obtain ⟨verdict, next⟩ := selected.parseOption flag
  have turned : (argp.turn argv parsing).calls.map (fun call => (call.key, call.value)) =
      parsing.calls.map (fun call => (call.key, call.value)) ++
        [(row.key, (argv.fetch (parsing.state.next + 1)).1)] := by
    simp [Argp.turn, selected.inside, selected.dash, Argp.conclude, verdict]
  constructor
  · intro kept
    by_contra follows
    have none_fetched := kept.value
    rw [turned, Argv.fetch, if_pos (Nat.lt_of_not_le follows)] at none_fetched
    simp at none_fetched
  · intro last
    have fetched : argv.fetch (parsing.state.next + 1) = (none, parsing.state.next + 1) := by
      rw [Argv.fetch, if_neg (Nat.not_lt_of_le last)]
    rw [fetched] at turned next
    constructor
    · exact turned
    · exact next
    · intro follows
      omega

theorem flag_kept_at_end :
    FlagKept (accepting [optionRow "verbose" 'v' none]) (commandLine ["prog", "-v"])
      (Argp.start ()) (optionRow "verbose" 'v' none) :=
  (flag_kept_iff (.short 118 (by decide) (by decide) ⟨by decide, by decide⟩) rfl).mpr (by decide)

/-- The flag `-v` is called with `-q` as its value, and `-q` is not dispatched. -/
theorem flag_takes_next_option :
    SelectedAlone (accepting [optionRow "verbose" 'v' none, optionRow "quiet" 'q' none])
        (commandLine ["prog", "-v", "-q"]) 1 (optionRow "verbose" 'v' none) ∧
      (∃ final, (accepting [optionRow "verbose" 'v' none, optionRow "quiet" 'q' none]).argpParse
          (commandLine ["prog", "-v", "-q"]) () 3 = final ∧
        final.calls = [⟨118, some ⟨2, 0⟩, 0⟩] ∧ final.outcome = some (.returned 0)) ∧
      ¬ FlagKept (accepting [optionRow "verbose" 'v' none, optionRow "quiet" 'q' none])
        (commandLine ["prog", "-v", "-q"]) (Argp.start ()) (optionRow "verbose" 'v' none) := by
  refine ⟨.short 118 (by decide) (by decide) ⟨by decide, by decide⟩,
    ⟨_, rfl, by decide, by decide⟩, ?_⟩
  intro kept
  exact absurd kept.cursor (by decide)

/-!
## Characters inside the strings
-/

/-- The pointer leads to a character of an element or to its terminator. -/
def Inside (argv : Argv) (pointer : Pointer) : Prop :=
  pointer.element < argv.argc ∧ pointer.offset ≤ (argv.chars pointer.element).length

instance (pointer : Pointer) : Decidable (Inside argv pointer) :=
  inferInstanceAs (Decidable (_ ∧ _))

def AllInside (argv : Argv) (reads : List Pointer) : Prop := ∀ pointer ∈ reads, Inside argv pointer

instance (reads : List Pointer) : Decidable (AllInside argv reads) :=
  inferInstanceAs (Decidable (∀ _ ∈ _, _))

private theorem allInside_append {first second : List Pointer} :
    AllInside argv (first ++ second) ↔ AllInside argv first ∧ AllInside argv second :=
  List.forall_mem_append

private theorem allInside_span {pointer : Pointer} {count : Nat} (inside : Inside argv pointer)
    (short : count ≤ (argv.text pointer).length + 1) : AllInside argv (pointer.span count) := by
  intro other member
  obtain ⟨position, in_range, rfl⟩ := List.mem_map.mp member
  have before_count := List.mem_range.mp in_range
  have within := inside.2
  rw [Argv.length_text] at short
  constructor
  · exact inside.1
  · change pointer.offset + position ≤ (argv.chars pointer.element).length
    omega

private theorem allInside_search {test : OptionTest} {value : Option Pointer} {help : List UInt8}
    {rows : List ArgpOption} (options : ∀ opt, AllInside argv (test.optionReads opt))
    (helps : AllInside argv test.helpReads) (unknown : AllInside argv test.unknownReads) :
    AllInside argv (searchOptions test value help rows).reads := by
  induction rows with
  | nil => exact unknown
  | cons opt rest ih =>
      unfold searchOptions
      split
      case isTrue => exact options opt
      case isFalse =>
        split
        case isTrue => exact allInside_append.mpr ⟨options opt, helps⟩
        case isFalse =>
          exact allInside_append.mpr ⟨allInside_append.mpr ⟨options opt, helps⟩, ih⟩

private theorem allInside_parseLongOption {rows : List ArgpOption} {pointer : Pointer} {next : Nat}
    (inside : Inside argv pointer) :
    AllInside argv (parseLongOption rows argv pointer next).reads := by
  have whole : AllInside argv (pointer.span ((argv.text pointer).length + 1)) :=
    allInside_span inside (Nat.le_refl _)
  apply allInside_append.mpr
  constructor
  · exact allInside_append.mpr ⟨allInside_span inside (strchrReads_le ..), whole⟩
  · apply allInside_search
    · intro opt
      dsimp only [longTest]
      cases opt.name with
      | none => simp [AllInside]
      | some name => exact allInside_span inside (strncmpReads_le ..).2
    · exact allInside_span inside (strcmpReads_le ..)
    · exact whole

private theorem allInside_parseShortOption {rows : List ArgpOption} {pointer : Pointer} {next : Nat}
    (inside : Inside argv pointer) :
    AllInside argv (parseShortOption rows argv pointer next).reads ↔
      pointer.offset < (argv.chars pointer.element).length := by
  have searched : AllInside argv (searchOptions (shortTest argv pointer)
      (shortValue argv pointer next).1 (printHelp rows (argv.chars 0)) rows).reads := by
    apply allInside_search <;> simp [shortTest, AllInside]
  rw [parseShortOption, allInside_append, and_iff_left searched]
  constructor
  · intro both
    exact (both (pointer.add 1) (by simp)).2
  · intro longer other member
    rcases List.mem_pair.mp member with rfl | rfl
    · exact inside
    · exact ⟨inside.1, longer⟩

private theorem allInside_parseOption {element : Nat} (inside : element < argv.argc)
    (dash : argv.char ⟨element, 0⟩ = 45) :
    AllInside argv (argp.parseOption argv element).reads ↔ argv.chars element ≠ [45] := by
  have positive := Argv.length_pos dash
  unfold Argp.parseOption
  split
  case isTrue long =>
    have not_lone : argv.chars element ≠ [45] := by
      intro lone
      simp [Argv.char, lone] at long
    have two : Inside argv ⟨element, 2⟩ := ⟨inside, Argv.one_lt_length dash not_lone⟩
    exact iff_of_true (allInside_parseLongOption two) not_lone
  case isFalse short =>
    have one : Inside argv ⟨element, 1⟩ := ⟨inside, positive⟩
    rw [allInside_parseShortOption one]
    constructor
    · intro longer lone
      simp [lone] at longer
    · exact Argv.one_lt_length dash

/-- No character behind a terminator has been read, and the callback has got no pointer
to one. -/
structure Safe (argv : Argv) (parsing : Parsing Input) : Prop where
  reads : AllInside argv parsing.reads
  values : ∀ call ∈ parsing.calls, ∀ pointer, call.value = some pointer → Inside argv pointer

private theorem inside_value {element : Nat} {pointer : Pointer} (inside : element < argv.argc)
    (dash : argv.char ⟨element, 0⟩ = 45) (not_lone : argv.chars element ≠ [45])
    (value : (optionValue argv element).1 = some pointer) : Inside argv pointer := by
  cases found : optionValue argv element with
  | mk given next =>
      have value_of := valueOf_optionValue dash not_lone
      rw [found] at value_of value
      cases value_of with
      | none last => cases value
      | attached offset proper within =>
          cases value
          exact ⟨inside, within⟩
      | separate follows =>
          cases value
          exact ⟨follows, Nat.zero_le _⟩

private theorem allInside_option (argp : Argp Input) {reads : List Pointer} {element : Nat}
    (already : AllInside argv reads)
    (inside : element < argv.argc) (dash : argv.char ⟨element, 0⟩ = 45) :
    AllInside argv
        (reads ++ [⟨element, 0⟩, ⟨element, 1⟩] ++ (argp.parseOption argv element).reads) ↔
      argv.chars element ≠ [45] := by
  have first_two : AllInside argv [⟨element, 0⟩, ⟨element, 1⟩] := by
    simp [AllInside, Inside, inside, Nat.succ_le_of_lt (Argv.length_pos dash)]
  rw [allInside_append, allInside_append, and_iff_right ⟨already, first_two⟩]
  exact allInside_parseOption inside dash

private theorem safe_turn {before after : Parsing Input} (safe : Safe argv before)
    (turned : Turns argp argv before after) :
    Safe argv after ↔ argv.chars before.state.next ≠ [45] := by
  cases turned with
  | ends last =>
      have nothing : argv.elements[before.state.next]? = none := List.getElem?_eq_none last
      exact iff_of_true ⟨safe.reads, safe.values⟩ (by simp [Argv.chars, nothing])
  | stops inside word =>
      have first : AllInside argv [⟨before.state.next, 0⟩] := by
        simp [AllInside, Inside, inside]
      have not_lone : argv.chars before.state.next ≠ [45] := by
        intro lone
        exact word (by simp [Argv.char, lone])
      exact iff_of_true ⟨allInside_append.mpr ⟨safe.reads, first⟩, safe.values⟩ not_lone
  | calls key value answer inside dash verdict answered =>
      have reads := allInside_option argp safe.reads inside dash
      constructor
      · intro after_safe
        exact reads.mp after_safe.reads
      · intro not_lone
        constructor
        · exact reads.mpr not_lone
        · intro call member pointer points
          rcases List.mem_append.mp member with earlier | last
          · exact safe.values call earlier pointer points
          · cases List.mem_singleton.mp last
            have same := (Argp.parseOption_call verdict).1
            exact inside_value inside dash not_lone (same ▸ points)
  | exits status stderr stdout inside dash verdict =>
      have reads := allInside_option argp safe.reads inside dash
      constructor
      · intro after_safe
        exact reads.mp after_safe.reads
      · intro not_lone
        exact ⟨reads.mpr not_lone, safe.values⟩

/-- All turns read inside the strings, and hand over pointers into them, just when the lone
`-` is never where an option is looked for. -/
theorem reads_inside_iff (argp : Argp Input) (argv : Argv) (input : Input) :
    (∀ turns, Safe argv (argp.argpParse argv input turns)) ↔
      ∀ turns, (argp.argpParse argv input turns).outcome = none →
        argv.chars (argp.argpParse argv input turns).state.next ≠ [45] := by
  apply Argp.argpParse_iff (Safe argv) fun parsing => argv.chars parsing.state.next ≠ [45]
  · exact ⟨by simp [AllInside, Argp.start], by simp [Argp.start]⟩
  · intro before after safe running turned
    exact safe_turn safe turned

/-- The lone `-` has its terminator at 1; the character at 2 is read. -/
theorem lone_dash_reads_behind :
    ∃ pointer ∈ ((accepting [optionRow "verbose" 'v' none]).argpParse
        (commandLine ["prog", "-"]) () 1).reads,
      pointer = ⟨1, 2⟩ ∧ ¬ Inside (commandLine ["prog", "-"]) pointer :=
  ⟨⟨1, 2⟩, by decide, rfl, by decide⟩

/-!
## Errors of the callback
-/

/-- No error of the callback is lost: nothing comes after it but its return. -/
structure ErrorsReturned (parsing : Parsing Input) : Prop where
  accepted : parsing.outcome = some (.returned 0) → ∀ call ∈ parsing.calls, call.error = 0
  last : ∀ earlier call later, parsing.calls = earlier ++ call :: later → call.error ≠ 0 →
    later = []
  returned : ∀ call ∈ parsing.calls, call.error ≠ 0 → ∀ outcome, parsing.outcome = some outcome →
    outcome = .returned call.error

def Accepted (parsing : Parsing Input) : Prop := ∀ call ∈ parsing.calls, call.error = 0

theorem Accepted.errorsReturned {parsing : Parsing Input} (accepted : Accepted parsing) :
    ErrorsReturned parsing where
  accepted := fun _ => accepted
  last := fun earlier call later calls error => absurd (accepted call (by simp [calls])) error
  returned := fun call member error => absurd (accepted call member) error

private theorem errorsReturned_call {before after : Parsing Input} {call : Call}
    (running : after.outcome = none) (calls : after.calls = before.calls ++ [call]) :
    ErrorsReturned after ↔ Accepted before := by
  constructor
  · intro returned earlier_call member
    by_contra error
    obtain ⟨earlier, later, split⟩ := List.append_of_mem member
    have longer : after.calls = earlier ++ earlier_call :: (later ++ [call]) := by
      rw [calls, split, List.append_assoc, List.cons_append]
    have nothing := returned.last earlier earlier_call (later ++ [call]) longer error
    simp at nothing
  · intro accepted
    constructor
    · simp [running]
    · intro earlier other later split error
      rcases List.eq_nil_or_concat later with none_later | ⟨middle, final, concat⟩
      · exact none_later
      · rw [calls, concat, List.concat_eq_append, ← List.cons_append, ← List.append_assoc] at split
        have before_calls := (List.append_inj_left' split rfl)
        exact absurd (accepted other (by simp [before_calls])) error
    · simp [running]

/-- A turn that starts after a rejected option loses the error, whatever it does. -/
theorem errorsReturned_turn {before after : Parsing Input} (running : before.outcome = none)
    (turned : Turns argp argv before after) : ErrorsReturned after ↔ Accepted before := by
  cases turned with
  | ends last =>
      constructor
      · intro returned
        exact returned.accepted rfl
      · intro accepted
        exact Accepted.errorsReturned accepted
  | stops inside word =>
      constructor
      · intro returned
        exact returned.accepted rfl
      · intro accepted
        exact Accepted.errorsReturned accepted
  | calls key value answer inside dash verdict answered =>
      exact errorsReturned_call running rfl
  | exits status stderr stdout inside dash verdict =>
      constructor
      · intro returned call member
        by_contra error
        cases returned.returned call member error _ rfl
      · intro accepted
        exact Accepted.errorsReturned accepted

private theorem accepted_of_turns {input : Input}
    (accepted : ∀ turns, (argp.argpParse argv input turns).outcome = none →
      Accepted (argp.argpParse argv input turns)) (turns : Nat) :
    Accepted (argp.argpParse argv input turns) := by
  induction turns with
  | zero => simp [Accepted, Argp.argpParse, Argp.start]
  | succ turns ih =>
      by_cases still : (argp.argpParse argv input (turns + 1)).outcome = none
      · exact accepted (turns + 1) still
      · by_cases running : (argp.argpParse argv input turns).outcome = none
        · have turned := argp.turns_turn argv (argp.argpParse argv input turns)
          rw [← Argp.argpParse_running running] at turned
          generalize argp.argpParse argv input (turns + 1) = after at still turned
          cases turned with
          | ends last => exact ih
          | stops inside word => exact ih
          | calls key value answer inside dash verdict answered => exact absurd running still
          | exits status stderr stdout inside dash verdict => exact ih
        · rw [Argp.argpParse_ended running]
          exact ih

/-- In all turns the errors of the callback are returned just when there are none. -/
theorem errors_returned_iff (argp : Argp Input) (argv : Argv) (input : Input) :
    (∀ turns, ErrorsReturned (argp.argpParse argv input turns)) ↔
      ∀ turns, ∀ call ∈ (argp.argpParse argv input turns).calls, call.error = 0 := by
  have turn_iff : (∀ turns, ErrorsReturned (argp.argpParse argv input turns)) ↔
      ∀ turns, (argp.argpParse argv input turns).outcome = none →
        Accepted (argp.argpParse argv input turns) := by
    apply Argp.argpParse_iff ErrorsReturned Accepted
    · apply Accepted.errorsReturned
      simp [Accepted, Argp.start]
    · intro before after returned running turned
      exact errorsReturned_turn running turned
  rw [turn_iff]
  constructor
  · intro accepted turns
    exact accepted_of_turns accepted turns
  · intro accepted turns running
    exact accepted turns

/-- The callback rejects both values with 22, and `argp_parse` returns 0. -/
theorem errors_dropped :
    ∃ final, ({ options := [optionRow "level" 'l' (some "N")]
                parser := fun _ _ state => (22, state) } : Argp Unit).argpParse
        (commandLine ["prog", "--level=x", "--level=y"]) () 3 = final ∧
      final.calls = [⟨108, some ⟨1, 8⟩, 22⟩, ⟨108, some ⟨2, 8⟩, 22⟩] ∧
      final.outcome = some (.returned 0) ∧ ¬ ErrorsReturned final := by
  refine ⟨_, rfl, by decide, by decide, ?_⟩
  intro errors
  have accepted := errors.accepted (by decide)
  exact absurd accepted (by decide)

end VelaExternal.Open1722
