import Mathlib.Data.List.Nodup
import Mathlib.Data.List.TakeWhile
import Mathlib.Tactic.IntervalCases
import VelaExternal.Open1722.ArgpTurns
import VelaExternal.Systems.Search

/-! How the rows of an option table compete for an option. The first row that has an answer
decides, and the built-in help answers at every row that does not match. -/

set_option autoImplicit false

namespace VelaExternal.Open1722

open Systems

universe u

/-!
## Answers of rows
-/

/-- What happens, without the texts. -/
def Verdict.quiet : Verdict → Verdict
  | .call key value => .call key value
  | .exit status _ _ => .exit status [] []

def Outcome.quiet : Outcome → Outcome
  | .returned error => .returned error
  | .exited status _ _ => .exited status [] []

def OptionTest.answer (test : OptionTest) (value : Option Pointer) (opt : ArgpOption) :
    Option Verdict :=
  if test.isOption opt then some (accept test value opt).quiet
  else if test.isHelp then some (.exit 0 [] [])
  else none

private theorem searchOptions_quiet (test : OptionTest) (value : Option Pointer) (help : List UInt8)
    (rows : List ArgpOption) :
    (searchOptions test value help rows).verdict.quiet =
      (rows.findSome? (test.answer value)).getD (.exit 1 [] []) := by
  induction rows with
  | nil => rfl
  | cons opt rest ih =>
      rw [searchOptions, List.findSome?_cons, OptionTest.answer]
      split
      case isTrue => rfl
      case isFalse =>
        split
        case isTrue => rfl
        case isFalse => exact ih

theorem OptionTest.answer_eq_some {test : OptionTest} {value : Option Pointer}
    {opt : ArgpOption} {verdict : Verdict} (answers : test.answer value opt = some verdict) :
    test.isOption opt = true ∧ verdict = (accept test value opt).quiet ∨
      test.isOption opt = false ∧ test.isHelp = true ∧ verdict = .exit 0 [] [] := by
  unfold OptionTest.answer at answers
  split at answers
  case isTrue found =>
    cases answers
    exact .inl ⟨found, rfl⟩
  case isFalse other =>
    split at answers
    case isTrue helps =>
      cases answers
      exact .inr ⟨Bool.eq_false_iff.mpr other, helps, rfl⟩
    case isFalse => cases answers

section Competition

variable {Input : Type u} {argp : Argp Input} {argv : Argv}

private theorem parseOption_quiet (element : Nat) :
    (argp.parseOption argv element).verdict.quiet =
      (argp.rows.findSome? ((optionTest argv element).answer (optionValue argv element).1)).getD
        (.exit 1 [] []) := by
  unfold Argp.parseOption optionTest optionValue
  split
  case isTrue long => exact searchOptions_quiet ..
  case isFalse short => exact searchOptions_quiet ..

/-- The row declares an argument, and there is no value. -/
def Lacks (value : Option Pointer) (opt : ArgpOption) : Prop :=
  opt.arg.isSome ∧ value.isNone

instance (value : Option Pointer) (opt : ArgpOption) : Decidable (Lacks value opt) :=
  inferInstanceAs (Decidable (_ ∧ _))

private theorem accept_quiet (test : OptionTest) (value : Option Pointer) (opt : ArgpOption) :
    (accept test value opt).quiet =
      if Lacks value opt then .exit 1 [] [] else .call (test.key opt) value := by
  by_cases lacks : Lacks value opt
  · rw [if_pos lacks, accept, if_pos (show opt.arg.isSome ∧ value.isNone from lacks)]
    rfl
  · rw [if_neg lacks, accept, if_neg (show ¬ (opt.arg.isSome ∧ value.isNone) from lacks)]
    rfl

/-- No row competes with another one, or with the help, for the option: they would have to
exit alike for want of an argument. -/
def Unrivalled (test : OptionTest) (value : Option Pointer) (rows : List ArgpOption) : Prop :=
  ∀ row ∈ rows, ∀ rival ∈ rows, test.isOption row = true →
    (test.isOption rival = true ∨ test.isHelp = true) →
    row = rival ∨ test.isOption rival = true ∧ Lacks value row ∧ Lacks value rival

instance (test : OptionTest) (value : Option Pointer) (rows : List ArgpOption) :
    Decidable (Unrivalled test value rows) :=
  inferInstanceAs (Decidable (∀ _ ∈ _, _))

private theorem unrivalled_of_agree {rows : List ArgpOption} {element : Nat} {value : Option Pointer}
    (distinct : ∀ row ∈ rows, ∀ rival ∈ rows, row.key = rival.key → row = rival)
    (agree : Agree ((optionTest argv element).answer value) rows) :
    Unrivalled (optionTest argv element) value rows := by
  intro row row_member rival rival_member found competes
  have row_answer : (optionTest argv element).answer value row =
      some (accept (optionTest argv element) value row).quiet := by
    rw [OptionTest.answer, if_pos found]
  by_cases rival_found : (optionTest argv element).isOption rival = true
  · have rival_answer : (optionTest argv element).answer value rival =
        some (accept (optionTest argv element) value rival).quiet := by
      rw [OptionTest.answer, if_pos rival_found]
    have same := agree row row_member rival rival_member _ _ row_answer rival_answer
    rw [accept_quiet, accept_quiet, optionTest_key found, optionTest_key rival_found] at same
    by_cases row_lacks : Lacks value row <;> by_cases rival_lacks : Lacks value rival
    · exact .inr ⟨rival_found, row_lacks, rival_lacks⟩
    · simp [row_lacks, rival_lacks] at same
    · simp [row_lacks, rival_lacks] at same
    · simp only [row_lacks, rival_lacks, if_false, Verdict.call.injEq, and_true] at same
      exact .inl (distinct row row_member rival rival_member same)
  · have helps : (optionTest argv element).isHelp = true := competes.resolve_left rival_found
    have rival_answer : (optionTest argv element).answer value rival =
        some (.exit 0 [] []) := by
      rw [OptionTest.answer, if_neg rival_found, if_pos helps]
    have same := agree row row_member rival rival_member _ _ row_answer rival_answer
    rw [accept_quiet] at same
    split at same <;> cases same

theorem Unrivalled.agree {test : OptionTest} {value : Option Pointer} {rows : List ArgpOption}
    (unrivalled : Unrivalled test value rows) : Agree (test.answer value) rows := by
  intro row row_member rival rival_member one other row_answer rival_answer
  rcases OptionTest.answer_eq_some row_answer with ⟨row_found, rfl⟩ | ⟨row_other, helps, rfl⟩
  · rcases OptionTest.answer_eq_some rival_answer with
      ⟨rival_found, rfl⟩ | ⟨rival_other, helps, rfl⟩
    · rcases unrivalled row row_member rival rival_member row_found (.inl rival_found) with
        rfl | ⟨-, row_lacks, rival_lacks⟩
      · rfl
      · rw [accept_quiet, accept_quiet, if_pos row_lacks, if_pos rival_lacks]
    · rcases unrivalled row row_member rival rival_member row_found (.inr helps) with
        rfl | ⟨rival_found, -⟩
      · simp [row_found] at rival_other
      · simp [rival_found] at rival_other
  · rcases OptionTest.answer_eq_some rival_answer with
      ⟨rival_found, rfl⟩ | ⟨rival_other, -, rfl⟩
    · rcases unrivalled rival rival_member row row_member rival_found (.inr helps) with
        rfl | ⟨row_found, -⟩
      · simp [rival_found] at row_other
      · simp [row_found] at row_other
    · rfl

private theorem agree_iff_unrivalled {rows : List ArgpOption} {element : Nat} {value : Option Pointer}
    (distinct : ∀ row ∈ rows, ∀ rival ∈ rows, row.key = rival.key → row = rival) :
    Agree ((optionTest argv element).answer value) rows ↔
      Unrivalled (optionTest argv element) value rows :=
  ⟨unrivalled_of_agree distinct, Unrivalled.agree⟩

/-!
## Turns without texts
-/

/-- What a parsing has done, without its reads and texts. -/
structure Core (Input : Type u) where
  state : ArgpState Input
  calls : List Call
  outcome : Option Outcome

def Parsing.core (parsing : Parsing Input) : Core Input where
  state := parsing.state
  calls := parsing.calls
  outcome := parsing.outcome.map Outcome.quiet

def Core.observed (core : Core Input) : List (Int × Option Pointer) × Option Outcome :=
  (core.calls.map fun call => (call.key, call.value), core.outcome)

def Core.conclude (parser : ArgpParser Input) (next : Nat) (core : Core Input) :
    Verdict → Core Input
  | .call key value =>
      { core with
        state := (parser key value ⟨next, core.state.input⟩).2
        calls := core.calls ++
          [{ key, value, error := (parser key value ⟨next, core.state.input⟩).1 }] }
  | .exit status _ _ =>
      { core with
        state := ⟨next, core.state.input⟩
        outcome := some (.exited status [] []) }

private theorem core_turn_option {parsing : Parsing Input} (inside : parsing.state.next < argv.argc)
    (dash : argv.char ⟨parsing.state.next, 0⟩ = 45) :
    (argp.turn argv parsing).core =
      parsing.core.conclude argp.parser (optionValue argv parsing.state.next).2
        (argp.parseOption argv parsing.state.next).verdict.quiet := by
  have next : (argp.parseOption argv parsing.state.next).next =
      (optionValue argv parsing.state.next).2 := Argp.parseOption_next _
  simp only [Argp.turn, if_pos inside, if_pos dash, Argp.conclude]
  rw [← next]
  cases (argp.parseOption argv parsing.state.next).verdict with
  | call key value => rfl
  | exit status stderr stdout => rfl

private theorem core_turn_other {parsing : Parsing Input}
    (other : ¬ (parsing.state.next < argv.argc ∧ argv.char ⟨parsing.state.next, 0⟩ = 45)) :
    (argp.turn argv parsing).core =
      { parsing.core with outcome := some (.returned 0) } := by
  unfold Argp.turn
  dsimp only
  split
  case isTrue inside =>
    rw [if_neg fun dash => other ⟨inside, dash⟩]
    rfl
  case isFalse last => rfl

theorem Core.observed_conclude {core : Core Input} {parser : ArgpParser Input} {next : Nat}
    {one other : Verdict} (running : core.outcome = none)
    (same : (core.conclude parser next one).observed = (core.conclude parser next other).observed) :
    one.quiet = other.quiet := by
  cases one with
  | call key value =>
      cases other with
      | call other_key other_value => simpa [Core.conclude, Core.observed, Verdict.quiet] using same
      | exit status stderr stdout => simp [Core.conclude, Core.observed, running] at same
  | exit status stderr stdout =>
      cases other with
      | call key value => simp [Core.conclude, Core.observed, running] at same
      | exit other_status other_stderr other_stdout =>
          simpa [Core.conclude, Core.observed, Verdict.quiet] using same

/-!
## The order of the table
-/

private theorem rows_eq_options (nonzero : ∀ opt ∈ argp.options, opt.key ≠ 0) :
    argp.rows = argp.options := by
  apply List.takeWhile_eq_self_iff.mpr
  intro opt member
  simp [ArgpOption.isEnd, nonzero opt member]

/-- Where an option is looked for, no two rows compete for it. -/
def UnrivalledAt (argp : Argp Input) (argv : Argv) (element : Nat) : Prop :=
  element < argv.argc → argv.char ⟨element, 0⟩ = 45 →
    Unrivalled (optionTest argv element) (optionValue argv element).1 argp.rows

instance (element : Nat) : Decidable (UnrivalledAt argp argv element) :=
  inferInstanceAs (Decidable (_ → _ → _))

private theorem core_turn_congr {other : Argp Input} {one two : Parsing Input}
    (parser : other.parser = argp.parser) (same : two.core = one.core)
    (alike : one.state.next < argv.argc → argv.char ⟨one.state.next, 0⟩ = 45 →
      (other.parseOption argv one.state.next).verdict.quiet =
        (argp.parseOption argv one.state.next).verdict.quiet) :
    (other.turn argv two).core = (argp.turn argv one).core := by
  have state : two.state = one.state := congrArg Core.state same
  by_cases option : one.state.next < argv.argc ∧ argv.char ⟨one.state.next, 0⟩ = 45
  · rw [core_turn_option option.1 option.2, core_turn_option (state ▸ option.1) (state ▸ option.2),
      same, state, parser, alike option.1 option.2]
  · rw [core_turn_other option, core_turn_other (state ▸ option), same]

private theorem cores_succ {other : Argp Input} {input : Input} {turns : Nat}
    (parser : other.parser = argp.parser)
    (same : (other.argpParse argv input turns).core = (argp.argpParse argv input turns).core)
    (alike : (argp.argpParse argv input turns).outcome = none →
      (argp.argpParse argv input turns).state.next < argv.argc →
      argv.char ⟨(argp.argpParse argv input turns).state.next, 0⟩ = 45 →
      (other.parseOption argv (argp.argpParse argv input turns).state.next).verdict.quiet =
        (argp.parseOption argv (argp.argpParse argv input turns).state.next).verdict.quiet) :
    (other.argpParse argv input (turns + 1)).core =
      (argp.argpParse argv input (turns + 1)).core := by
  have outcomes : (other.argpParse argv input turns).outcome = none ↔
      (argp.argpParse argv input turns).outcome = none := by
    have mapped : (other.argpParse argv input turns).outcome.map Outcome.quiet =
        (argp.argpParse argv input turns).outcome.map Outcome.quiet := congrArg Core.outcome same
    rw [← @Option.map_eq_none_iff _ _ _ Outcome.quiet, mapped, Option.map_eq_none_iff]
  by_cases running : (argp.argpParse argv input turns).outcome = none
  · rw [Argp.argpParse_running running, Argp.argpParse_running (outcomes.mpr running)]
    exact core_turn_congr parser same (alike running)
  · rw [Argp.argpParse_ended running, Argp.argpParse_ended (mt outcomes.mp running)]
    exact same

theorem Verdict.quiet_quiet (verdict : Verdict) : verdict.quiet.quiet = verdict.quiet := by
  cases verdict with
  | call key value => rfl
  | exit status stderr stdout => rfl

private theorem quiet_of_observed {other : Argp Input} {input : Input} {turns : Nat}
    (parser : other.parser = argp.parser)
    (same : (other.argpParse argv input turns).core = (argp.argpParse argv input turns).core)
    (seen : (other.argpParse argv input (turns + 1)).core.observed =
      (argp.argpParse argv input (turns + 1)).core.observed)
    (running : (argp.argpParse argv input turns).outcome = none)
    (inside : (argp.argpParse argv input turns).state.next < argv.argc)
    (dash : argv.char ⟨(argp.argpParse argv input turns).state.next, 0⟩ = 45) :
    (other.parseOption argv (argp.argpParse argv input turns).state.next).verdict.quiet =
      (argp.parseOption argv (argp.argpParse argv input turns).state.next).verdict.quiet := by
  have state : (other.argpParse argv input turns).state = (argp.argpParse argv input turns).state :=
    congrArg Core.state same
  have core_running : (argp.argpParse argv input turns).core.outcome = none := by
    simp [Parsing.core, running]
  have other_running : (other.argpParse argv input turns).outcome = none := by
    have mapped : (other.argpParse argv input turns).outcome.map Outcome.quiet = none :=
      (congrArg Core.outcome same).trans core_running
    exact Option.map_eq_none_iff.mp mapped
  rw [Argp.argpParse_running running, Argp.argpParse_running other_running,
    core_turn_option inside dash, core_turn_option (state ▸ inside) (state ▸ dash), same, state,
    parser] at seen
  have quiet := Core.observed_conclude core_running seen
  rwa [Verdict.quiet_quiet, Verdict.quiet_quiet] at quiet

private theorem cores_of_seen {other : Argp Input} {input : Input} (parser : other.parser = argp.parser)
    (seen : ∀ turns, (other.argpParse argv input turns).core.observed =
      (argp.argpParse argv input turns).core.observed) (turns : Nat) :
    (other.argpParse argv input turns).core = (argp.argpParse argv input turns).core := by
  induction turns with
  | zero => rfl
  | succ turns ih =>
      apply cores_succ parser ih
      intro running inside dash
      exact quiet_of_observed parser ih (seen (turns + 1)) running inside dash

private theorem cores_of_unrivalled {other : Argp Input} {input : Input}
    (parser : other.parser = argp.parser) (perm : other.rows.Perm argp.rows)
    (unrivalled : ∀ turns, (argp.argpParse argv input turns).outcome = none →
      UnrivalledAt argp argv (argp.argpParse argv input turns).state.next) (turns : Nat) :
    (other.argpParse argv input turns).core = (argp.argpParse argv input turns).core := by
  induction turns with
  | zero => rfl
  | succ turns ih =>
      apply cores_succ parser ih
      intro running inside dash
      have agree := (unrivalled turns running inside dash).agree
      rw [parseOption_quiet, parseOption_quiet, agree.findSome?_eq perm]

/-- All permutations of the table lead to the same calls of the callback, and to the same
outcome, just when no two rows compete for an option that is looked for. -/
theorem option_order_iff (argp : Argp Input) (argv : Argv) (input : Input)
    (nonzero : ∀ opt ∈ argp.options, opt.key ≠ 0)
    (distinct : (argp.options.map ArgpOption.key).Nodup) :
    (∀ permuted : List ArgpOption, permuted.Perm argp.options → ∀ turns,
      ({ argp with options := permuted }.argpParse argv input turns).core.observed =
        (argp.argpParse argv input turns).core.observed) ↔
    ∀ turns, (argp.argpParse argv input turns).outcome = none →
      UnrivalledAt argp argv (argp.argpParse argv input turns).state.next := by
  have rows := rows_eq_options nonzero
  have permuted_rows : ∀ permuted : List ArgpOption, permuted.Perm argp.options →
      { argp with options := permuted }.rows = permuted := by
    intro permuted perm
    apply rows_eq_options
    intro opt member
    exact nonzero opt (perm.mem_iff.mp member)
  have same_key : ∀ row ∈ argp.rows, ∀ rival ∈ argp.rows, row.key = rival.key → row = rival := by
    rw [rows]
    intro row row_member rival rival_member same
    exact List.inj_on_of_nodup_map distinct row_member rival_member same
  constructor
  · intro seen turns running inside dash
    rw [← agree_iff_unrivalled same_key, agree_iff (.exit 1 [] [])]
    intro permuted perm
    have options_perm : permuted.Perm argp.options := rows ▸ perm
    have parser : { argp with options := permuted }.parser = argp.parser := rfl
    have cores := cores_of_seen parser (seen permuted options_perm)
    have alike := quiet_of_observed parser (cores turns) (seen permuted options_perm (turns + 1))
      running inside dash
    rw [parseOption_quiet, parseOption_quiet, permuted_rows permuted options_perm] at alike
    exact alike
  · intro unrivalled permuted perm turns
    have rows_perm : { argp with options := permuted }.rows.Perm argp.rows := by
      rw [permuted_rows permuted perm, rows]
      exact perm
    have parser : { argp with options := permuted }.parser = argp.parser := rfl
    rw [cores_of_unrivalled parser rows_perm unrivalled turns]

theorem option_order_free :
    ((accepting [optionRow "level" 'l' (some "N"), optionRow "verbose" 'v' none]).argpParse
        (commandLine ["prog", "--lev=3"]) () 2).core.observed =
      ((accepting [optionRow "verbose" 'v' none, optionRow "level" 'l' (some "N")]).argpParse
        (commandLine ["prog", "--lev=3"]) () 2).core.observed := by
  have unrivalled : ∀ turns, ((accepting [optionRow "verbose" 'v' none,
      optionRow "level" 'l' (some "N")]).argpParse (commandLine ["prog", "--lev=3"]) ()
        turns).outcome = none →
      UnrivalledAt (accepting [optionRow "verbose" 'v' none, optionRow "level" 'l' (some "N")])
        (commandLine ["prog", "--lev=3"]) ((accepting [optionRow "verbose" 'v' none,
          optionRow "level" 'l' (some "N")]).argpParse (commandLine ["prog", "--lev=3"]) ()
            turns).state.next := by
    intro turns running
    by_cases early : turns < 2
    · interval_cases turns <;> decide
    · obtain ⟨more, rfl⟩ := Nat.exists_eq_add_of_le (Nat.le_of_not_lt early)
      rw [Argp.argpParse_add (by decide)] at running
      exact absurd running (by decide)
  exact (option_order_iff _ _ _ (by decide) (by decide)).mpr unrivalled _
    (List.Perm.swap _ _ []) 2

/-- The built-in help is tried at the first row, so whether `-h` is the option `host` depends
on where its row stands. -/
theorem help_hides_later_option :
    [optionRow "verbose" 'v' none, optionRow "host" 'h' (some "NAME")].Perm
      [optionRow "host" 'h' (some "NAME"), optionRow "verbose" 'v' none] ∧
    ((accepting [optionRow "host" 'h' (some "NAME"), optionRow "verbose" 'v' none]).argpParse
        (commandLine ["prog", "-hvela"]) () 1).core.observed =
      ([(104, some ⟨1, 2⟩)], none) ∧
    ((accepting [optionRow "verbose" 'v' none, optionRow "host" 'h' (some "NAME")]).argpParse
        (commandLine ["prog", "-hvela"]) () 1).core.observed =
      ([], some (.exited 0 [] [])) :=
  ⟨.swap .., by decide, by decide⟩

end Competition

/-!
## Long names
-/

def longName (argv : Argv) (arg : Pointer) : List UInt8 := before (argv.text arg) 61

def ArgpOption.isNamed (opt : ArgpOption) (name : List UInt8) : Bool :=
  opt.name.any fun full => full.chars = name

def ArgpOption.beginsWith (opt : ArgpOption) (name : List UInt8) : Bool :=
  opt.name.any fun full => name.isPrefixOf full.chars

/-- The rows that a long name stands for: the ones with the name, or else the ones whose
names begin with it, if they have one key. The empty name stands for none. -/
def resolve (rows : List ArgpOption) (name : List UInt8) : List ArgpOption :=
  if name = [] then []
  else if rows.any fun opt => opt.isNamed name then rows.filter fun opt => opt.isNamed name
  else if (rows.filter fun opt => opt.beginsWith name).Pairwise fun one other =>
      one.key = other.key then rows.filter fun opt => opt.beginsWith name
  else []

/-- No row is taken: the option is unknown, or it asks for the built-in help. -/
def NoneTaken (rows : List ArgpOption) (argv : Argv) (arg : Pointer) (verdict : Verdict) : Prop :=
  verdict = .exit 1 (longTest argv arg (nameLength argv arg)).unknown
      (printHelp rows (argv.chars 0)) ∨
    argv.text arg = ascii "help" ∧ verdict = .exit 0 [] (printHelp rows (argv.chars 0))

instance (rows : List ArgpOption) (argv : Argv) (arg : Pointer) (verdict : Verdict) :
    Decidable (NoneTaken rows argv arg verdict) :=
  inferInstanceAs (Decidable (_ ∨ _))

/-- A long name is taken for one of the rows it stands for: the verdict is that row's call, or
the complaint that names it when it lacks its argument. Without such a row none is taken. -/
def ExactFirst (rows : List ArgpOption) (argv : Argv) (arg : Pointer) (value : Option Pointer)
    (verdict : Verdict) : Prop :=
  if resolve rows (longName argv arg) = [] then NoneTaken rows argv arg verdict
  else ∃ row ∈ resolve rows (longName argv arg),
    verdict = accept (longTest argv arg (nameLength argv arg)) value row

instance (rows : List ArgpOption) (argv : Argv) (arg : Pointer) (value : Option Pointer)
    (verdict : Verdict) : Decidable (ExactFirst rows argv arg value verdict) :=
  inferInstanceAs (Decidable (if resolve rows (longName argv arg) = [] then
    NoneTaken rows argv arg verdict else ∃ row ∈ _, _))

def SameCall (value : Option Pointer) (one other : ArgpOption) : Prop :=
  ¬ Lacks value one ∧ ¬ Lacks value other ∧ one.key = other.key

/-- The first row whose name begins with the text is one that the text stands for, or leads to
the same call as such a row. Where the text is `help`, a row that does not begin with it may
come before, but only if the text stands for no row. -/
def FirstRowRight (rows : List ArgpOption) (argv : Argv) (arg : Pointer)
    (value : Option Pointer) : Prop :=
  match rows.find? fun opt =>
      opt.beginsWith (longName argv arg) || argv.text arg = ascii "help" with
  | none => True
  | some first =>
      if first.beginsWith (longName argv arg) then
        first ∈ resolve rows (longName argv arg) ∨
          ∃ row ∈ resolve rows (longName argv arg), SameCall value row first
      else resolve rows (longName argv arg) = []

private theorem longTest_isOption {argv : Argv} {arg : Pointer} {opt : ArgpOption} :
    (longTest argv arg (nameLength argv arg)).isOption opt =
      opt.beginsWith (longName argv arg) := by
  dsimp only [longTest]
  unfold ArgpOption.beginsWith longName
  cases opt.name with
  | none => rfl
  | some full =>
      have text_nonzero : 0 ∉ argv.text arg := Argv.text_nonzero arg
      have within : nameLength argv arg ≤ (argv.text arg).length := strchr_le ..
      have same := strncmp_eq_zero_iff_prefix full.nonzero text_nonzero within
      rw [show (argv.text arg).take (nameLength argv arg) = before (argv.text arg) 61 from
        take_strchr ..] at same
      rw [Option.any_some, Option.any_some, Bool.eq_iff_iff, decide_eq_true_iff, same,
        List.isPrefixOf_iff_prefix]

private theorem longTest_isHelp {argv : Argv} {arg : Pointer} {len : Nat} :
    (longTest argv arg len).isHelp = decide (argv.text arg = ascii "help") := by
  have text_nonzero : 0 ∉ argv.text arg := Argv.text_nonzero arg
  have help_nonzero : 0 ∉ ascii "help" := by decide
  rw [Bool.eq_iff_iff, decide_eq_true_iff]
  exact decide_eq_true_iff.trans (strcmp_eq_zero_iff text_nonzero help_nonzero)

private theorem beginsWith_of_isNamed {opt : ArgpOption} {name : List UInt8}
    (named : opt.isNamed name = true) : opt.beginsWith name = true := by
  unfold ArgpOption.isNamed at named
  unfold ArgpOption.beginsWith
  cases found : opt.name with
  | none => simp [found] at named
  | some full =>
      rw [found, Option.any_some, decide_eq_true_iff] at named
      rw [Option.any_some, List.isPrefixOf_iff_prefix]
      exact named ▸ List.prefix_rfl

private theorem mem_resolve {rows : List ArgpOption} {name : List UInt8} {row : ArgpOption}
    (member : row ∈ resolve rows name) : row ∈ rows ∧ row.beginsWith name = true := by
  unfold resolve at member
  split at member
  case isTrue => simp at member
  case isFalse =>
    split at member
    case isTrue =>
      obtain ⟨row_member, named⟩ := List.mem_filter.mp member
      exact ⟨row_member, beginsWith_of_isNamed named⟩
    case isFalse =>
      split at member
      case isTrue => exact List.mem_filter.mp member
      case isFalse => simp at member

private theorem mem_resolve_of_name {rows : List ArgpOption} {name : List UInt8} {row other : ArgpOption}
    (member : row ∈ resolve rows name) (other_member : other ∈ rows)
    (same : other.name = row.name) : other ∈ resolve rows name := by
  have named : other.isNamed name = row.isNamed name := by
    rw [ArgpOption.isNamed, same, ArgpOption.isNamed]
  have begins : other.beginsWith name = row.beginsWith name := by
    rw [ArgpOption.beginsWith, same, ArgpOption.beginsWith]
  unfold resolve at member ⊢
  split at member
  case isTrue => simp at member
  case isFalse proper =>
    split at member
    case isTrue exact_name =>
      rw [if_neg proper, if_pos exact_name]
      exact List.mem_filter.mpr ⟨other_member, named.trans (List.mem_filter.mp member).2⟩
    case isFalse inexact =>
      split at member
      case isTrue agreeing =>
        rw [if_neg proper, if_neg inexact, if_pos agreeing]
        exact List.mem_filter.mpr ⟨other_member, begins.trans (List.mem_filter.mp member).2⟩
      case isFalse => simp at member

private theorem exists_name {opt : ArgpOption} {name : List UInt8} (begins : opt.beginsWith name = true) :
    ∃ full, opt.name = some full := by
  unfold ArgpOption.beginsWith at begins
  cases found : opt.name with
  | none => simp [found] at begins
  | some full => exact ⟨full, rfl⟩

section Verdicts

variable {argv : Argv} {arg : Pointer} {len : Nat} {value : Option Pointer}
variable {row first : ArgpOption} {name : List UInt8}

private theorem accept_lacking (lacks : Lacks value row) :
    accept (longTest argv arg len) value row =
      .exit 1 ((longTest argv arg len).requiresArgument row) [] :=
  if_pos lacks

private theorem accept_given (given : ¬ Lacks value row) :
    accept (longTest argv arg len) value row = .call row.key value :=
  if_neg given

private theorem requiresArgument_inj (row_begins : row.beginsWith name = true)
    (first_begins : first.beginsWith name = true)
    (same : (longTest argv arg len).requiresArgument first =
      (longTest argv arg len).requiresArgument row) : first.name = row.name := by
  obtain ⟨row_name, row_named⟩ := exists_name row_begins
  obtain ⟨first_name, first_named⟩ := exists_name first_begins
  have chars : first_name.chars = row_name.chars := by
    simpa [longTest, row_named, first_named] using same
  rw [row_named, first_named, CString.ext chars]

/-- Two rows that begin with the name have one verdict just when they have one name and both
lack their argument, or lead to the same call. -/
theorem accept_eq_iff (row_begins : row.beginsWith name = true)
    (first_begins : first.beginsWith name = true) :
    accept (longTest argv arg len) value first = accept (longTest argv arg len) value row ↔
      (first.name = row.name ∧ Lacks value first ∧ Lacks value row) ∨
        SameCall value row first := by
  unfold SameCall
  by_cases row_lacks : Lacks value row <;> by_cases first_lacks : Lacks value first
  · rw [accept_lacking row_lacks, accept_lacking first_lacks]
    constructor
    · intro same
      rw [Verdict.exit.injEq] at same
      exact .inl ⟨requiresArgument_inj row_begins first_begins same.2.1, first_lacks, row_lacks⟩
    · rintro (⟨same, -, -⟩ | ⟨given, -, -⟩)
      · simp only [longTest, same]
      · exact absurd row_lacks given
  · simp [accept_lacking row_lacks, accept_given first_lacks, row_lacks, first_lacks]
  · simp [accept_given row_lacks, accept_lacking first_lacks, row_lacks, first_lacks]
  · rw [accept_given row_lacks, accept_given first_lacks, Verdict.call.injEq]
    simp [row_lacks, first_lacks, eq_comm]

private theorem accept_mem_resolve_iff {rows : List ArgpOption} (member : first ∈ rows)
    (first_begins : first.beginsWith name = true) :
    (∃ row ∈ resolve rows name, accept (longTest argv arg len) value first =
        accept (longTest argv arg len) value row) ↔
      first ∈ resolve rows name ∨ ∃ row ∈ resolve rows name, SameCall value row first := by
  constructor
  · rintro ⟨row, row_member, same⟩
    rcases (accept_eq_iff (mem_resolve row_member).2 first_begins).mp same with
      ⟨same_name, -, -⟩ | same_call
    · exact .inl (mem_resolve_of_name row_member member same_name)
    · exact .inr ⟨row, row_member, same_call⟩
  · rintro (resolved | ⟨row, row_member, same_call⟩)
    · exact ⟨first, resolved, rfl⟩
    · exact ⟨row, row_member,
        (accept_eq_iff (mem_resolve row_member).2 first_begins).mpr (.inr same_call)⟩

private theorem not_noneTaken_accept {rows : List ArgpOption} :
    ¬ NoneTaken rows argv arg (accept (longTest argv arg (nameLength argv arg)) value first) := by
  by_cases lacks : Lacks value first
  · rw [accept_lacking lacks]
    rintro (unknown | ⟨-, helps⟩)
    · -- the two complaints begin with different letters
      rw [Verdict.exit.injEq] at unknown
      exact absurd (congrArg List.head? unknown.2.1) (by simp [longTest, ascii])
    · simp at helps
  · rw [accept_given lacks]
    simp [NoneTaken]

end Verdicts

/-- `parse_long_option` takes exact names first, and abbreviations only where they are
unambiguous, just when the first row that it comes to is right. -/
theorem long_option_exact_iff (rows : List ArgpOption) (argv : Argv) (arg : Pointer)
    (next : Nat) :
    ExactFirst rows argv arg (longValue argv arg next).1
        (parseLongOption rows argv arg next).verdict ↔
      FirstRowRight rows argv arg (longValue argv arg next).1 := by
  generalize value_eq : (longValue argv arg next).1 = value
  have searched := searchOptions_verdict (longTest argv arg (nameLength argv arg)) value
    (printHelp rows (argv.chars 0)) rows
  have helps : (longTest argv arg (nameLength argv arg)).isHelp =
      decide (argv.text arg = ascii "help") := longTest_isHelp
  simp only [longTest_isOption, helps] at searched
  rw [parseLongOption, value_eq]
  dsimp only
  rw [searched]
  unfold ExactFirst FirstRowRight
  cases stops : rows.find? fun opt =>
      opt.beginsWith (longName argv arg) || argv.text arg = ascii "help" with
  | none =>
      have nothing : resolve rows (longName argv arg) = [] := by
        apply List.eq_nil_iff_forall_not_mem.mpr
        intro row member
        obtain ⟨row_member, begins⟩ := mem_resolve member
        have passed := List.find?_eq_none.mp stops row row_member
        simp [begins] at passed
      rw [if_pos nothing]
      exact iff_of_true (.inl rfl) trivial
  | some first =>
      dsimp only
      by_cases begins : first.beginsWith (longName argv arg) = true
      · rw [if_pos begins, if_pos begins]
        by_cases empty : resolve rows (longName argv arg) = []
        · rw [if_pos empty, empty]
          simpa using not_noneTaken_accept
        · rw [if_neg empty]
          exact accept_mem_resolve_iff (List.mem_of_find?_eq_some stops) begins
      · have help : argv.text arg = ascii "help" := by
          simpa [begins] using List.find?_some stops
        rw [if_neg begins, if_neg begins]
        by_cases empty : resolve rows (longName argv arg) = []
        · rw [if_pos empty]
          exact iff_of_true (.inr ⟨help, rfl⟩) empty
        · rw [if_neg empty]
          apply iff_of_false _ empty
          rintro ⟨row, -, taken⟩
          rw [accept] at taken
          split at taken <;> cases taken

def outputRows : List ArgpOption :=
  [optionRow "output-dir" 'd' (some "DIR"), optionRow "output" 'o' (some "FILE")]

/-- `--output=x` is taken for `output-dir`, and `--=x` for the first row; a last `--output`
is told that `--output-dir` requires an argument, and so is a last `--`. -/
theorem longer_name_before_exact :
    (parseLongOption outputRows (commandLine ["prog", "--output=x"]) ⟨1, 2⟩ 2).verdict =
        .call 100 (some ⟨1, 9⟩) ∧
      ¬ ExactFirst outputRows (commandLine ["prog", "--output=x"]) ⟨1, 2⟩ (some ⟨1, 9⟩)
        (.call 100 (some ⟨1, 9⟩)) ∧
      (parseLongOption outputRows (commandLine ["prog", "--=x"]) ⟨1, 2⟩ 2).verdict =
        .call 100 (some ⟨1, 3⟩) ∧
      ¬ ExactFirst outputRows (commandLine ["prog", "--=x"]) ⟨1, 2⟩ (some ⟨1, 3⟩)
        (.call 100 (some ⟨1, 3⟩)) ∧
      (∀ last ∈ ["--output", "--"],
        (parseLongOption outputRows (commandLine ["prog", last]) ⟨1, 2⟩ 2).verdict =
            .exit 1 (ascii "Option --output-dir requires an argument\n") [] ∧
          ¬ ExactFirst outputRows (commandLine ["prog", last]) ⟨1, 2⟩ none
            (.exit 1 (ascii "Option --output-dir requires an argument\n") [])) :=
  ⟨by decide, by decide, by decide, by decide, by decide⟩

end VelaExternal.Open1722
