import Mathlib.Logic.Function.Basic
import VelaExternal.Systems.CString
import VelaExternal.Systems.Run

/-!
# Integer settings

`vconf_get_int` and `vconf_set_int` of `mtp_port.c` over the integers of the property store.
A default that no key was set to stands for a key that is absent, and it is itself an
integer that a key can be set to.
-/

set_option autoImplicit false

namespace VelaExternal.MtpResponder

open Systems

universe u

/-- What is relied on of `property_set_int32` and `property_get_int32`: a map with a default
that the caller supplies, where a negative result of the first is a failure. -/
structure IntPropertyStore (Store : Type u) where
  empty : Store
  integer : Store → CString → Option Int32
  propertySetInt32 : Store → CString → Int32 → Int × Store
  propertyGetInt32 : Store → CString → Int32 → Int32
  integer_empty : ∀ key, integer empty key = none
  set_kept : ∀ store key intval, 0 ≤ (propertySetInt32 store key intval).1 →
    integer (propertySetInt32 store key intval).2 =
      Function.update (integer store) key (some intval)
  set_failed : ∀ store key intval, (propertySetInt32 store key intval).1 < 0 →
    integer (propertySetInt32 store key intval).2 = integer store
  get_default : ∀ store key default,
    propertyGetInt32 store key default = (integer store key).getD default

/-!
## `vconf_get_int` and `vconf_set_int`
-/

/-- `VCONFKEY_IDLE_LOCK_STATE_READ_ONLY` -/
def idleLockStateReadOnly : CString := .literal "memory/idle_lock_state_read_only"

/-- `VCONFKEY_SYSMAN_MMC_STATUS` -/
def sysmanMmcStatus : CString := .literal "memory/sysman/mmc_status"

/-- `VCONFKEY_SYSMAN_USB_STATUS` -/
def sysmanUsbStatus : CString := .literal "memory/sysman/usb_status"

/-- `VCONFKEY_SYSMAN_MMC_MOUNTED` -/
def sysmanMmcMounted : Int32 := 0

/-- `INT32_MAX` -/
def int32Max : Int32 := 2147483647

section Functions

variable {Store : Type u} (properties : IntPropertyStore Store) (mtpPhoneUsbConnected : Int32)

/-- What `vconf_get_int` writes to `*intval`. -/
def intvalOf (store : Store) (key : CString) : Int32 :=
  if strcmp key.chars idleLockStateReadOnly.chars = 0 then 0
  else if strcmp key.chars sysmanMmcStatus.chars = 0 then sysmanMmcMounted
  else if strcmp key.chars sysmanUsbStatus.chars = 0 then mtpPhoneUsbConnected
  else properties.propertyGetInt32 store key int32Max

/-- The result and the integer that is written to `*intval`. -/
def vconfGetInt (store : Store) (key : CString) : Int × Int32 :=
  let intval := intvalOf properties mtpPhoneUsbConnected store key
  if int32Max = intval then (-1, intval) else (0, intval)

def vconfSetInt (store : Store) (key : CString) (intval : Int32) : Int × Store :=
  let set := properties.propertySetInt32 store key intval
  if set.1 < 0 then (-1, set.2) else (0, set.2)

end Functions

/-!
## Settings as a map
-/

structure SetInt where
  key : CString
  intval : Int32

/-- The store, and the map that it is meant to be: the integers of the successful calls. -/
structure IntSettings (Store : Type u) where
  store : Store
  integers : CString → Option Int32

namespace IntSettings

variable {Store : Type u} {properties : IntPropertyStore Store} {mtpPhoneUsbConnected : Int32}
  {settings after : IntSettings Store} {event : SetInt} {key : CString}

def initial (properties : IntPropertyStore Store) : IntSettings Store where
  store := properties.empty
  integers := fun _ => none

def step (properties : IntPropertyStore Store) (settings : IntSettings Store)
    (event : SetInt) : Option (IntSettings Store) :=
  let set := vconfSetInt properties settings.store event.key event.intval
  some {
    store := set.2
    integers := if set.1 = 0 then
        Function.update settings.integers event.key (some event.intval)
      else settings.integers }

/-- A caller of `vconf_get_int` gets 0 and the integer of the map, or -1. -/
def Answers (expected : Option Int32) (answer : Int × Int32) : Prop :=
  match expected with
  | none => answer.1 = -1
  | some intval => answer = (0, intval)

/-- A key is answered for as the map says, and no setting of another key changes that. -/
structure MapAt (properties : IntPropertyStore Store) (mtpPhoneUsbConnected : Int32)
    (settings : IntSettings Store) (key : CString) : Prop where
  answers : Answers (settings.integers key)
    (vconfGetInt properties mtpPhoneUsbConnected settings.store key)
  independent : ∀ event after, event.key ≠ key → settings.step properties event = some after →
    vconfGetInt properties mtpPhoneUsbConnected after.store key =
      vconfGetInt properties mtpPhoneUsbConnected settings.store key

def Stored (properties : IntPropertyStore Store) (settings : IntSettings Store) : Prop :=
  properties.integer settings.store = settings.integers

theorem stored_initial : Stored properties (initial properties) :=
  funext properties.integer_empty

theorem step_eq_some (stepped : settings.step properties event = some after) :
    properties.integer after.store = properties.integer settings.store ∧
        after.integers = settings.integers ∨
      properties.integer after.store = Function.update (properties.integer settings.store)
          event.key (some event.intval) ∧
        after.integers = Function.update settings.integers event.key (some event.intval) := by
  obtain rfl := Option.some.inj stepped
  by_cases failed :
      (properties.propertySetInt32 settings.store event.key event.intval).1 < 0
  · have same := properties.set_failed settings.store event.key event.intval failed
    simp [vconfSetInt, failed, same]
  · have set := properties.set_kept settings.store event.key event.intval (Int.not_lt.mp failed)
    simp [vconfSetInt, failed, set]

theorem stored_step (stored : Stored properties settings)
    (stepped : settings.step properties event = some after) : Stored properties after := by
  rcases step_eq_some stepped with ⟨integer, integers⟩ | ⟨integer, integers⟩
  · exact integer.trans (stored.trans integers.symm)
  · rw [Stored, integer, integers, stored]

private theorem stored_run {events : List SetInt} {final : IntSettings Store}
    (reached : run (step properties) (initial properties) events = some final) :
    Stored properties final := by
  apply run_invariant _ stored_initial reached
  intro before event after stored stepped
  exact stored_step stored stepped

/-- Another key keeps what the store has for it. -/
theorem integer_step_other (other : event.key ≠ key)
    (stepped : settings.step properties event = some after) :
    properties.integer after.store key = properties.integer settings.store key := by
  rcases step_eq_some stepped with ⟨integer, _⟩ | ⟨integer, _⟩
  · rw [integer]
  · rw [integer, Function.update_of_ne other.symm]

/-!
## What `vconf_get_int` answers
-/

/-- The keys that `vconf_get_int` does not look up. -/
def Overridden (key : CString) : Prop :=
  key = idleLockStateReadOnly ∨ key = sysmanMmcStatus ∨ key = sysmanUsbStatus

instance (key : CString) : Decidable (Overridden key) :=
  inferInstanceAs (Decidable (_ ∨ _ ∨ _))

private theorem intvalOf_other (other : ¬ Overridden key) (store : Store) :
    intvalOf properties mtpPhoneUsbConnected store key =
      (properties.integer store key).getD int32Max := by
  obtain ⟨not_idle, not_mmc, not_usb⟩ : key ≠ idleLockStateReadOnly ∧ key ≠ sysmanMmcStatus ∧
      key ≠ sysmanUsbStatus := by simpa only [Overridden, not_or] using other
  rw [intvalOf, if_neg (mt CString.strcmp_eq_zero_iff.mp not_idle),
    if_neg (mt CString.strcmp_eq_zero_iff.mp not_mmc),
    if_neg (mt CString.strcmp_eq_zero_iff.mp not_usb), properties.get_default]

/-- The answer for a key depends on what the store has for that key only. -/
theorem vconfGetInt_congr (other : ¬ Overridden key) {store next : Store}
    (same : properties.integer next key = properties.integer store key) :
    vconfGetInt properties mtpPhoneUsbConnected next key =
      vconfGetInt properties mtpPhoneUsbConnected store key := by
  simp only [vconfGetInt, intvalOf_other other, same]

private theorem answers_iff {expected : Option Int32} (other : ¬ Overridden key) {store : Store}
    (kept : properties.integer store key = expected) :
    Answers expected (vconfGetInt properties mtpPhoneUsbConnected store key) ↔
      expected ≠ some int32Max := by
  cases expected with
  | none => simp [Answers, vconfGetInt, intvalOf_other other, kept]
  | some intval =>
      by_cases largest : int32Max = intval
      · simp [Answers, vconfGetInt, intvalOf_other other, kept, largest]
      · simp [Answers, vconfGetInt, intvalOf_other other, kept, largest, Ne.symm largest]

/-- After every run of settings, `vconf_get_int` answers for a key as the map does just when
the last integer that the key was set to, if any, is not the largest one. -/
theorem vconf_int_is_map_iff (properties : IntPropertyStore Store) (mtpPhoneUsbConnected : Int32)
    {events : List SetInt} {final : IntSettings Store}
    (reached : run (step properties) (initial properties) events = some final)
    {key : CString} (other : ¬ Overridden key) :
    MapAt properties mtpPhoneUsbConnected final key ↔ final.integers key ≠ some int32Max := by
  have stored := stored_run reached
  have answers : Answers (final.integers key)
      (vconfGetInt properties mtpPhoneUsbConnected final.store key) ↔
        final.integers key ≠ some int32Max := answers_iff other (congrFun stored key)
  constructor
  · intro map
    exact answers.mp map.answers
  · intro smaller
    refine ⟨answers.mpr smaller, ?_⟩
    intro event after different stepped
    exact vconfGetInt_congr other (integer_step_other different stepped)

def intMapStore : IntPropertyStore (CString → Option Int32) where
  empty := fun _ => none
  integer := fun store => store
  propertySetInt32 := fun store key intval => (0, Function.update store key (some intval))
  propertyGetInt32 := fun store key default => (store key).getD default
  integer_empty := fun _ => rfl
  set_kept := fun _ _ _ _ => rfl
  set_failed := fun _ _ _ failed => absurd failed (Int.lt_irrefl 0)
  get_default := fun _ _ _ => rfl

def setIntLiteral (key : String) (intval : Int32) : SetInt := ⟨.literal key, intval⟩

def threeIntSettings : List SetInt :=
  [setIntLiteral "db/a" int32Max, setIntLiteral "db/b" 7, setIntLiteral "db/a" (-1)]

theorem vconf_int_is_map_smaller :
    ∃ final, run (step intMapStore) (initial intMapStore) threeIntSettings = some final ∧
      MapAt intMapStore 1 final (.literal "db/a") := by
  have smaller := @vconf_int_is_map_iff _ intMapStore 1 threeIntSettings _ rfl
    (.literal "db/a") (by decide)
  exact ⟨_, rfl, smaller.mpr (by decide)⟩

/-- A key that was set to the largest integer looks as if it had never been set. -/
theorem vconf_int_drops_largest :
    ∃ final, run (step intMapStore) (initial intMapStore) [setIntLiteral "db/a" int32Max] =
        some final ∧
      final.integers (.literal "db/a") = some int32Max ∧
      vconfGetInt intMapStore 1 final.store (.literal "db/a") = (-1, int32Max) ∧
      ¬ MapAt intMapStore 1 final (.literal "db/a") := by
  refine ⟨_, rfl, by decide, by decide, ?_⟩
  intro map
  have answered : (-1, int32Max) = ((0 : Int), int32Max) := map.answers
  exact absurd answered (by decide)

end IntSettings

end VelaExternal.MtpResponder
