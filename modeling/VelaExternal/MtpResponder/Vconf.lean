import Mathlib.Logic.Function.Basic
import VelaExternal.Systems.CString
import VelaExternal.Systems.Run

/-!
# String settings

`vconf_get_str` and `vconf_set_str` of `mtp_port.c` over a property store that is outside
the repository. They answer for the keys as a map would, as long as every string is short
and every key that is asked for has been set.
-/

set_option autoImplicit false

namespace VelaExternal.MtpResponder

open Systems

universe u

/-!
## The property store
-/

/-- What is relied on of `property_set_buffer` and `property_get_buffer`: a negative result
is a failure, and `contents` are the bytes that the store keeps for a key. -/
structure PropertyStore (Store : Type u) where
  empty : Store
  contents : Store → CString → Option (List UInt8)
  propertySetBuffer : Store → CString → List UInt8 → Int × Store
  propertyGetBuffer : Store → CString → List UInt8 → Int × List UInt8
  contents_empty : ∀ key, contents empty key = none
  set_kept : ∀ store key bytes, 0 ≤ (propertySetBuffer store key bytes).1 →
    contents (propertySetBuffer store key bytes).2 =
      Function.update (contents store) key (some bytes)
  set_failed : ∀ store key bytes, (propertySetBuffer store key bytes).1 < 0 →
    contents (propertySetBuffer store key bytes).2 = contents store
  get_kept : ∀ store key bytes buffer, contents store key = some bytes →
    (propertyGetBuffer store key buffer).2 = overwrite buffer bytes
  get_absent : ∀ store key buffer, contents store key = none →
    (propertyGetBuffer store key buffer).1 < 0 ∧ (propertyGetBuffer store key buffer).2 = buffer

/-- `sizeof(const char *)` and the constants that come from outside. -/
structure VconfConstants where
  pointerSize : Nat
  propValueMax : Nat
  defaultModelName : CString
  syncPartner : CString

/-- A string argument with the memory behind its terminator. -/
structure StringArgument where
  string : CString
  behind : Nat → UInt8

def StringArgument.bytes (argument : StringArgument) (count : Nat) : List UInt8 :=
  (argument.string.chars ++ 0 :: (List.range count).map argument.behind).take count

/-!
## `vconf_get_str` and `vconf_set_str`
-/

/-- `VCONFKEY_SETAPPL_DEVICE_NAME_STR` -/
def setapplDeviceNameStr : CString := .literal "db/setappl/device_name_str"

/-- `VCONFKEY_MTP_SYNC_PARTNER_STR` -/
def mtpSyncPartnerStr : CString := .literal "db/setting/mtp_sync_partner_str"

def strlcpy (buffer : List UInt8) (source : CString) (size : Nat) : List UInt8 :=
  if size = 0 then buffer else overwrite buffer (source.chars.take (size - 1) ++ [0])

section Functions

variable {Store : Type u} (properties : PropertyStore Store) (constants : VconfConstants)

/-- `pstr` is what `malloc(PROP_VALUE_MAX)` returns; the result is the buffer that the
returned pointer leads to. -/
def vconfGetStr (store : Store) (key : CString) (pstr : List UInt8) : Option (List UInt8) :=
  if strcmp key.chars setapplDeviceNameStr.chars = 0 then
    some (strlcpy pstr constants.defaultModelName constants.propValueMax)
  else if strcmp key.chars mtpSyncPartnerStr.chars = 0 then
    some (strlcpy pstr constants.syncPartner constants.propValueMax)
  else some (properties.propertyGetBuffer store key pstr).2

def vconfSetStr (store : Store) (key : CString) (strval : StringArgument) : Int × Store :=
  let set := properties.propertySetBuffer store key (strval.bytes constants.pointerSize)
  if set.1 < 0 then (-1, set.2) else (0, set.2)

end Functions

/-!
## Settings as a map
-/

structure SetStr where
  key : CString
  strval : StringArgument

/-- The store, and the map that it is meant to be: the strings of the successful calls. -/
structure Settings (Store : Type u) where
  store : Store
  strings : CString → Option CString

namespace Settings

variable {Store : Type u} {properties : PropertyStore Store} {constants : VconfConstants}
  {settings after : Settings Store} {event : SetStr}

def initial (properties : PropertyStore Store) : Settings Store where
  store := properties.empty
  strings := fun _ => none

def step (properties : PropertyStore Store) (constants : VconfConstants)
    (settings : Settings Store) (event : SetStr) : Option (Settings Store) :=
  let set := vconfSetStr properties constants settings.store event.key event.strval
  some {
    store := set.2
    strings := if set.1 = 0 then
        Function.update settings.strings event.key (some event.strval.string)
      else settings.strings }

/-- A caller of `vconf_get_str` gets the string of the map, or `NULL`. -/
def Answers (expected : Option CString) (answer : Option (List UInt8)) : Prop :=
  match expected with
  | none => answer = none
  | some string => ∃ buffer, answer = some buffer ∧ stringIn buffer = some string.chars

/-- What the store keeps for a key is a piece of memory that starts with the string of the
map. -/
inductive KeptAs (constants : VconfConstants) :
    Option CString → Option (List UInt8) → Prop where
  | absent : KeptAs constants none none
  | kept (strval : StringArgument)
      (short : strval.string.chars.length < constants.propValueMax) :
      KeptAs constants (some strval.string) (some (strval.bytes constants.pointerSize))

def Stored (properties : PropertyStore Store) (constants : VconfConstants)
    (settings : Settings Store) : Prop :=
  ∀ key, KeptAs constants (settings.strings key) (properties.contents settings.store key)

theorem stored_initial : Stored properties constants (initial properties) := by
  intro key
  rw [initial, properties.contents_empty]
  exact .absent

theorem step_eq_some (stepped : settings.step properties constants event = some after) :
    properties.contents after.store = properties.contents settings.store ∧
        after.strings = settings.strings ∨
      properties.contents after.store = Function.update (properties.contents settings.store)
          event.key (some (event.strval.bytes constants.pointerSize)) ∧
        after.strings =
          Function.update settings.strings event.key (some event.strval.string) := by
  obtain rfl := Option.some.inj stepped
  by_cases failed : (properties.propertySetBuffer settings.store event.key
      (event.strval.bytes constants.pointerSize)).1 < 0
  · have same := properties.set_failed settings.store event.key _ failed
    simp [vconfSetStr, failed, same]
  · have set := properties.set_kept settings.store event.key _ (Int.not_lt.mp failed)
    simp [vconfSetStr, failed, set]

theorem stored_step (stored : Stored properties constants settings)
    (short : event.strval.string.chars.length < constants.propValueMax)
    (stepped : settings.step properties constants event = some after) :
    Stored properties constants after := by
  intro key
  rcases step_eq_some stepped with ⟨contents, strings⟩ | ⟨contents, strings⟩
  · rw [contents, strings]
    exact stored key
  · rw [contents, strings]
    by_cases same : key = event.key
    · cases same
      rw [Function.update_self, Function.update_self]
      exact .kept event.strval short
    · rw [Function.update_of_ne same, Function.update_of_ne same]
      exact stored key

/-!
## What `vconf_get_str` answers
-/

private theorem vconfGetStr_other {key : CString} (not_name : key ≠ setapplDeviceNameStr)
    (not_partner : key ≠ mtpSyncPartnerStr) (store : Store) (pstr : List UInt8) :
    vconfGetStr properties constants store key pstr =
      some (properties.propertyGetBuffer store key pstr).2 := by
  rw [vconfGetStr, if_neg (mt CString.strcmp_eq_zero_iff.mp not_name),
    if_neg (mt CString.strcmp_eq_zero_iff.mp not_partner)]

/-- The terminator is among the bytes kept just when the string is shorter than a pointer. -/
theorem bytes_of_short {strval : StringArgument} {count : Nat}
    (short : strval.string.chars.length < count) :
    ∃ rest, strval.bytes count = strval.string.chars ++ 0 :: rest := by
  obtain ⟨left, size⟩ := Nat.exists_eq_add_of_lt short
  have more : count - strval.string.chars.length = left + 1 := by omega
  rw [StringArgument.bytes, List.take_append, List.take_of_length_le (Nat.le_of_lt short), more,
    List.take_succ_cons]
  exact ⟨_, rfl⟩

private theorem bytes_of_long {strval : StringArgument} {count : Nat}
    (long : count ≤ strval.string.chars.length) : 0 ∉ strval.bytes count := by
  rw [StringArgument.bytes, List.take_append_of_le_length long]
  exact fun member => strval.string.nonzero (List.mem_of_mem_take member)

private theorem answers_of_short {key string : CString} (stored : Stored properties constants settings)
    (kept : settings.strings key = some string)
    (short : string.chars.length < constants.pointerSize) {pstr : List UInt8}
    (allocated : pstr.length = constants.propValueMax) :
    Answers (settings.strings key)
      (some (properties.propertyGetBuffer settings.store key pstr).2) := by
  have kept_as := stored key
  rw [kept] at kept_as ⊢
  generalize found : properties.contents settings.store key = contents at kept_as
  cases kept_as with
  | kept strval within =>
      obtain ⟨rest, bytes⟩ := bytes_of_short short
      refine ⟨_, rfl, ?_⟩
      rw [properties.get_kept _ _ _ _ found, bytes]
      exact stringIn_overwrite strval.string.nonzero rest pstr (allocated ▸ within)

/-- Where the memory from `malloc` has no NUL in it, only a short string comes back. -/
theorem short_of_answers {key : CString} (stored : Stored properties constants settings)
    {pstr : List UInt8} (dirty : 0 ∉ pstr)
    (answers : Answers (settings.strings key)
      (some (properties.propertyGetBuffer settings.store key pstr).2)) :
    ∃ string, settings.strings key = some string ∧
      string.chars.length < constants.pointerSize := by
  have kept_as := stored key
  generalize found : properties.contents settings.store key = contents at kept_as
  generalize settings.strings key = expected at kept_as answers
  cases kept_as with
  | absent => cases answers
  | kept strval within =>
      refine ⟨strval.string, rfl, ?_⟩
      by_contra long
      obtain ⟨buffer, same, string⟩ := answers
      cases same
      rw [properties.get_kept _ _ _ _ found] at string
      have unterminated :
          stringIn (overwrite pstr (strval.bytes constants.pointerSize)) = none := by
        rw [stringIn_eq_none_iff, overwrite, List.mem_append]
        rintro (member | member)
        · exact bytes_of_long (Nat.le_of_not_lt long) (List.mem_of_mem_take member)
        · exact dirty (List.mem_of_mem_drop member)
      rw [unterminated] at string
      cases string

/-- After every run of settings, and whatever memory `malloc` returns, `vconf_get_str`
answers for a key as the map does just when the map has a string for it that is shorter
than a pointer. -/
theorem vconf_str_is_map_iff (properties : PropertyStore Store) (constants : VconfConstants)
    {events : List SetStr} {final : Settings Store}
    (short : ∀ event ∈ events, event.strval.string.chars.length < constants.propValueMax)
    (reached : run (step properties constants) (initial properties) events = some final)
    {key : CString} (not_name : key ≠ setapplDeviceNameStr)
    (not_partner : key ≠ mtpSyncPartnerStr) :
    (∀ pstr : List UInt8, pstr.length = constants.propValueMax →
      Answers (final.strings key) (vconfGetStr properties constants final.store key pstr)) ↔
    ∃ string, final.strings key = some string ∧
      string.chars.length < constants.pointerSize := by
  have stored : Stored properties constants final := by
    apply run_invariant_along _ stored_initial (along_of_forall_mem short) reached
    intro before event after stored stepped event_short
    exact stored_step stored event_short stepped
  simp only [vconfGetStr_other not_name not_partner]
  constructor
  · intro answers
    have dirty : 0 ∉ List.replicate constants.propValueMax (1 : UInt8) := by simp
    have allocated : (List.replicate constants.propValueMax (1 : UInt8)).length =
        constants.propValueMax := List.length_replicate
    exact short_of_answers stored dirty (answers _ allocated)
  · intro found pstr allocated
    obtain ⟨string, kept, short⟩ := found
    exact answers_of_short stored kept short allocated

def mapStore : PropertyStore (CString → Option (List UInt8)) where
  empty := fun _ => none
  contents := fun store => store
  propertySetBuffer := fun store key bytes => (0, Function.update store key (some bytes))
  propertyGetBuffer := fun store key buffer =>
    match store key with
    | some bytes => (bytes.length, overwrite buffer bytes)
    | none => (-1, buffer)
  contents_empty := fun _ => rfl
  set_kept := fun _ _ _ _ => rfl
  set_failed := fun _ _ _ failed => absurd failed (Int.lt_irrefl 0)
  get_kept := fun _ _ _ _ kept => by simp only [kept]
  get_absent := fun _ _ _ absent => by
    simp only [absent]
    exact ⟨by decide, trivial⟩

def constants32 : VconfConstants where
  pointerSize := 4
  propValueMax := 92
  defaultModelName := .literal "vela"
  syncPartner := .literal ""

def setLiteral (key text : String) : SetStr where
  key := .literal key
  strval := { string := .literal text, behind := fun _ => 0 }

def threeSettings : List SetStr :=
  [setLiteral "db/a" "off", setLiteral "db/b" "device", setLiteral "db/a" "on"]

theorem vconf_str_is_map_short :
    ∃ final, run (step mapStore constants32) (initial mapStore) threeSettings = some final ∧
      ∀ pstr : List UInt8, pstr.length = 92 →
        Answers (some (.literal "on"))
          (vconfGetStr mapStore constants32 final.store (.literal "db/a") pstr) := by
  have kept := @vconf_str_is_map_iff _ mapStore constants32 threeSettings _ (by decide) rfl
    (.literal "db/a") (by decide) (by decide)
  exact ⟨_, rfl, kept.mpr ⟨.literal "on", by decide, by decide⟩⟩

/-- A string of six characters comes back cut off, and a key that was never set comes back
with what `malloc` left in the buffer. -/
theorem vconf_str_drops_rest :
    ∃ final, run (step mapStore constants32) (initial mapStore) [setLiteral "db/b" "device"] =
        some final ∧
      final.strings (.literal "db/b") = some (.literal "device") ∧
      (vconfGetStr mapStore constants32 final.store (.literal "db/b")
        (List.replicate 92 0)).bind stringIn = some (ascii "devi") ∧
      ¬ Answers (final.strings (.literal "db/b"))
        (vconfGetStr mapStore constants32 final.store (.literal "db/b") (List.replicate 92 0)) ∧
      ¬ Answers (final.strings (.literal "db/c"))
        (vconfGetStr mapStore constants32 final.store (.literal "db/c") (List.replicate 92 1)) := by
  refine ⟨_, rfl, by decide, by decide, ?_, nofun⟩
  rintro ⟨buffer, returned, device⟩
  obtain rfl := Option.some.inj returned
  exact absurd device (by decide)

end Settings

end VelaExternal.MtpResponder
