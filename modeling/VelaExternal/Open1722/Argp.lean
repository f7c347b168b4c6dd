import VelaExternal.Systems.CString

/-!
# The argument parser of open1722

`argp_parse` of `open1722/argp.c`. A pointer into `argv` is an element and an offset. The
characters that the parser reads are recorded, and so are its calls of the parser callback.
-/

set_option autoImplicit false

namespace VelaExternal.Open1722

open Systems

universe u

/-!
## The argument vector
-/

/-- Where a `char *` into `argv` points. -/
structure Pointer where
  element : Nat
  offset : Nat
  deriving DecidableEq

namespace Pointer

def add (pointer : Pointer) (count : Nat) : Pointer :=
  { pointer with offset := pointer.offset + count }

def span (pointer : Pointer) (count : Nat) : List Pointer :=
  (List.range count).map pointer.add

end Pointer

/-- The strings of `argv`, what the memory holds behind their terminators, and whether the
platform's `char` is signed. -/
structure Argv where
  elements : List CString
  beyond : Pointer → UInt8
  charSigned : Bool

namespace Argv

def argc (argv : Argv) : Nat := argv.elements.length

def chars (argv : Argv) (element : Nat) : List UInt8 :=
  (argv.elements[element]?.map CString.chars).getD []

def char (argv : Argv) (pointer : Pointer) : UInt8 :=
  match (argv.chars pointer.element)[pointer.offset]? with
  | some char => char
  | none =>
      if pointer.offset = (argv.chars pointer.element).length then 0 else argv.beyond pointer

/-- The string at a pointer that is not behind a terminator. -/
def text (argv : Argv) (pointer : Pointer) : List UInt8 :=
  (argv.chars pointer.element).drop pointer.offset

def charValue (argv : Argv) (char : UInt8) : Int :=
  if argv.charSigned then char.toInt8.toInt else char.toNat

/-- `state->argv[state->next++]`, if there is one, and the new `state->next`. -/
def fetch (argv : Argv) (next : Nat) : Option Pointer × Nat :=
  if next < argv.argc then (some ⟨next, 0⟩, next + 1) else (none, next)

end Argv

/-!
## The option table
-/

structure ArgpOption where
  name : Option CString
  key : Int
  arg : Option CString
  doc : Option CString
  deriving DecidableEq

/-- The all-zero row. -/
def ArgpOption.isEnd (opt : ArgpOption) : Bool :=
  opt.name.isNone && opt.key = 0 && opt.arg.isNone && opt.doc.isNone

structure ArgpState (Input : Type u) where
  next : Nat
  input : Input
  deriving DecidableEq

/-- `argp_parser_t`: from the key, the value and the state to an error and a new state. -/
abbrev ArgpParser (Input : Type u) :=
  Int → Option Pointer → ArgpState Input → Int × ArgpState Input

structure Argp (Input : Type u) where
  options : List ArgpOption
  parser : ArgpParser Input

/-- The rows before the all-zero row, which the array has at the latest behind `options`. -/
def Argp.rows {Input : Type u} (argp : Argp Input) : List ArgpOption :=
  argp.options.takeWhile fun opt => !opt.isEnd

/-!
## `print_help`
-/

/-- `%c` -/
def charOf (key : Int) : UInt8 := UInt8.ofBitVec (BitVec.ofInt 8 key)

/-- `%-20s` and its like -/
def padded (width : Nat) (text : List UInt8) : List UInt8 :=
  text ++ List.replicate (width - text.length) 32

def helpDoc (opt : ArgpOption) : List UInt8 :=
  ascii " " ++ (opt.doc.map CString.chars).getD [] ++ ascii "\n"

def helpNames (name : CString) : Option CString → List UInt8
  | some arg => ascii "--" ++ padded 20 name.chars ++ ascii "=" ++ padded 10 arg.chars
  | none => ascii "--" ++ padded 31 name.chars

def helpRow (opt : ArgpOption) : List UInt8 :=
  match opt.name with
  | some name =>
      if opt.key ≠ 0 then
        ascii "  -" ++ [charOf opt.key] ++ ascii ", " ++ helpNames name opt.arg ++ helpDoc opt
      else ascii "       " ++ helpNames name opt.arg ++ helpDoc opt
  | none =>
      if opt.key ≠ 0 then
        ascii "  -" ++ [charOf opt.key] ++ ascii ", " ++ padded 33 [] ++ helpDoc opt
      else []

def printHelp (rows : List ArgpOption) (programName : List UInt8) : List UInt8 :=
  ascii "Usage: " ++ programName ++ ascii " [OPTIONS]...\n\n" ++ ascii "Options:\n" ++
    rows.flatMap helpRow ++ ascii "\n"

/-!
## The search for an option
-/

/-- The search calls the parser callback or exits; the program's last words are its
standard error and output. -/
inductive Verdict where
  | call (key : Int) (value : Option Pointer)
  | exit (status : Nat) (stderr stdout : List UInt8)
  deriving DecidableEq

structure Search where
  verdict : Verdict
  reads : List Pointer
  deriving DecidableEq

/-- What `parse_long_option` and `parse_short_option` do differently with a row. -/
structure OptionTest where
  isOption : ArgpOption → Bool
  optionReads : ArgpOption → List Pointer
  isHelp : Bool
  helpReads : List Pointer
  key : ArgpOption → Int
  requiresArgument : ArgpOption → List UInt8
  unknown : List UInt8
  unknownReads : List Pointer

/-- The row's call of the parser callback, unless the row declares an argument and there
is no value. -/
def accept (test : OptionTest) (value : Option Pointer) (opt : ArgpOption) : Verdict :=
  if opt.arg.isSome ∧ value.isNone then .exit 1 (test.requiresArgument opt) []
  else .call (test.key opt) value

/-- The loop over the option table; `help` is the output of `print_help`. -/
def searchOptions (test : OptionTest) (value : Option Pointer) (help : List UInt8) :
    List ArgpOption → Search
  | [] => { verdict := .exit 1 test.unknown help, reads := test.unknownReads }
  | opt :: rest =>
      if test.isOption opt then
        { verdict := accept test value opt, reads := test.optionReads opt }
      else if test.isHelp then
        { verdict := .exit 0 [] help, reads := test.optionReads opt ++ test.helpReads }
      else
        let search := searchOptions test value help rest
        { search with reads := test.optionReads opt ++ test.helpReads ++ search.reads }

structure Handled where
  verdict : Verdict
  next : Nat
  reads : List Pointer
  deriving DecidableEq

/-- `opt->name && strncmp(opt->name, arg, len) == 0`, else `strcmp(arg, "help") == 0` -/
def longTest (argv : Argv) (arg : Pointer) (len : Nat) : OptionTest where
  isOption := fun opt => opt.name.any fun name => strncmp name.chars (argv.text arg) len = 0
  optionReads := fun opt =>
    (opt.name.map fun name => arg.span (strncmpReads name.chars (argv.text arg) len)).getD []
  isHelp := strcmp (argv.text arg) (ascii "help") = 0
  helpReads := arg.span (strcmpReads (argv.text arg) (ascii "help"))
  key := ArgpOption.key
  requiresArgument := fun opt =>
    ascii "Option --" ++ (opt.name.map CString.chars).getD [] ++ ascii " requires an argument\n"
  unknown := ascii "Unknown option: --" ++ argv.text arg ++ ascii "\n"
  unknownReads := arg.span ((argv.text arg).length + 1)

def nameLength (argv : Argv) (arg : Pointer) : Nat :=
  (strchr (argv.text arg) 61).getD (argv.text arg).length

/-- `value` and `state->next` before the search of `parse_long_option`. -/
def longValue (argv : Argv) (arg : Pointer) (next : Nat) : Option Pointer × Nat :=
  match strchr (argv.text arg) 61 with
  | some pos => (some (arg.add (pos + 1)), next)
  | none => argv.fetch next

def parseLongOption (rows : List ArgpOption) (argv : Argv) (arg : Pointer) (next : Nat) :
    Handled :=
  let value := longValue argv arg next
  let search := searchOptions (longTest argv arg (nameLength argv arg)) value.1
    (printHelp rows (argv.chars 0)) rows
  { verdict := search.verdict
    next := value.2
    reads := arg.span (strchrReads (argv.text arg) 61) ++
      arg.span ((argv.text arg).length + 1) ++ search.reads }

/-- `opt->key == key`, else `key == 'h'` -/
def shortTest (argv : Argv) (arg : Pointer) : OptionTest where
  isOption := fun opt => opt.key = argv.charValue (argv.char arg)
  optionReads := fun _ => []
  isHelp := argv.char arg = 104
  helpReads := []
  key := fun _ => argv.charValue (argv.char arg)
  requiresArgument := fun _ =>
    ascii "Option -" ++ [argv.char arg] ++ ascii " requires an argument\n"
  unknown := ascii "Unknown option: -" ++ [argv.char arg] ++ ascii "\n"
  unknownReads := []

/-- `value` and `state->next` before the search of `parse_short_option`. -/
def shortValue (argv : Argv) (arg : Pointer) (next : Nat) : Option Pointer × Nat :=
  if argv.char (arg.add 1) ≠ 0 then (some (arg.add 1), next) else argv.fetch next

def parseShortOption (rows : List ArgpOption) (argv : Argv) (arg : Pointer) (next : Nat) :
    Handled :=
  let value := shortValue argv arg next
  let search := searchOptions (shortTest argv arg) value.1 (printHelp rows (argv.chars 0)) rows
  { verdict := search.verdict
    next := value.2
    reads := [arg, arg.add 1] ++ search.reads }

/-!
## `argp_parse`
-/

inductive Outcome where
  | returned (error : Int)
  | exited (status : Nat) (stderr stdout : List UInt8)
  deriving DecidableEq

structure Call where
  key : Int
  value : Option Pointer
  error : Int
  deriving DecidableEq

/-- The state of `argp_parse`, the characters it has read, its calls of the parser callback
and, at its end, its outcome. -/
structure Parsing (Input : Type u) where
  state : ArgpState Input
  reads : List Pointer
  calls : List Call
  outcome : Option Outcome
  deriving DecidableEq

namespace Argp

variable {Input : Type u}

def start (input : Input) : Parsing Input where
  state := { next := 1, input }
  reads := []
  calls := []
  outcome := none

def parseOption (argp : Argp Input) (argv : Argv) (element : Nat) : Handled :=
  if argv.char ⟨element, 1⟩ = 45 then
    parseLongOption argp.rows argv ⟨element, 2⟩ (element + 1)
  else parseShortOption argp.rows argv ⟨element, 1⟩ (element + 1)

/-- The parser callback is called, and what it returns is dropped. -/
def conclude (argp : Argp Input) (handled : Handled) (parsing : Parsing Input) : Parsing Input :=
  match handled.verdict with
  | .call key value =>
      let answer := argp.parser key value { parsing.state with next := handled.next }
      { parsing with
        state := answer.2
        calls := parsing.calls ++ [{ key, value, error := answer.1 }] }
  | .exit status stderr stdout =>
      { parsing with
        state := { parsing.state with next := handled.next }
        outcome := some (.exited status stderr stdout) }

def turn (argp : Argp Input) (argv : Argv) (parsing : Parsing Input) : Parsing Input :=
  let next := parsing.state.next
  if next < argv.argc then
    if argv.char ⟨next, 0⟩ = 45 then
      let handled := argp.parseOption argv next
      argp.conclude handled
        { parsing with reads := parsing.reads ++ [⟨next, 0⟩, ⟨next, 1⟩] ++ handled.reads }
    else
      { parsing with reads := parsing.reads ++ [⟨next, 0⟩], outcome := some (.returned 0) }
  else { parsing with outcome := some (.returned 0) }

/-- `argp_parse` after `turns` turns of its loop, or at its end. -/
def argpParse (argp : Argp Input) (argv : Argv) (input : Input) : Nat → Parsing Input
  | 0 => start input
  | turns + 1 =>
      let parsing := argp.argpParse argv input turns
      match parsing.outcome with
      | none => argp.turn argv parsing
      | some _ => parsing

end Argp

end VelaExternal.Open1722
