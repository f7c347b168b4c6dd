import VelaExternal.Ethercat.Cdev
import VelaExternal.Systems.Run

/-! Whether the driver node and the Ethernet device come and go together, over the calls of
several masters. -/

set_option autoImplicit false

namespace VelaExternal.Ethercat

open Systems

/-!
## What the two functions do
-/

section Rules

variable {world : CdevWorld}

@[simp] theorem ensures_setMaster {cdev master : Nat}
    {post : List CdevEvent → Unit → CdevWorld → Prop} :
    (setMaster cdev master).Ensures CdevWorld.handle post world ↔
      post [.memory] () (world.setMaster cdev master) := by
  apply Program.ensures_perform_sole rfl
  intro other different
  cases other with
  | memory => exact absurd rfl different
  | _ => rfl

@[simp] theorem ensures_registerDriver {path : String} {mode cdev : Nat}
    {post : List CdevEvent → Int → CdevWorld → Prop} :
    (registerDriver path mode cdev).Ensures CdevWorld.handle post world ↔
      (¬ world.Registered path → post [.registered] 0 (world.register ⟨path, mode, cdev⟩)) ∧
        ∀ errno, 0 < errno → post [.registerFailed errno] (-errno) world := by
  constructor
  · intro ensured
    constructor
    · intro free
      exact ensured .registered _ _ (if_neg free)
    · intro errno positive
      exact ensured (.registerFailed errno) _ _ (if_pos positive)
  · intro both event reply after handled
    obtain ⟨registered, failed⟩ := both
    cases event <;> simp only [CdevWorld.handle, Option.some.injEq, Prod.mk.injEq,
      Option.ite_none_right_eq_some, Option.ite_none_left_eq_some, reduceCtorEq] at handled
    case registered =>
      obtain ⟨free, rfl, rfl⟩ := handled
      exact registered free
    case registerFailed errno =>
      obtain ⟨positive, rfl, rfl⟩ := handled
      exact failed errno positive

@[simp] theorem ensures_unregisterDriver {path : String}
    {post : List CdevEvent → Int → CdevWorld → Prop} :
    (unregisterDriver path).Ensures CdevWorld.handle post world ↔
      ∀ result, post [.unregistered result] result (world.unregister path) := by
  apply Program.ensures_perform_kind fun _ => rfl
  intro other different
  cases other with
  | unregistered result => exact absurd rfl (different result)
  | _ => rfl

@[simp] theorem ensures_ecdevOffer {post : List CdevEvent → Nat → CdevWorld → Prop} :
    ecdevOffer.Ensures CdevWorld.handle post world ↔
      ∀ device, post [.offered device] device (world.offer device) := by
  apply Program.ensures_perform_kind fun _ => rfl
  intro other different
  cases other with
  | offered device => exact absurd rfl (different device)
  | _ => rfl

@[simp] theorem ensures_setEc {device : Nat} {post : List CdevEvent → Unit → CdevWorld → Prop} :
    (setEc device).Ensures CdevWorld.handle post world ↔
      post [.memory] () (world.setEc device) := by
  apply Program.ensures_perform_sole rfl
  intro other different
  cases other with
  | memory => exact absurd rfl different
  | _ => rfl

@[simp] theorem ensures_ecdevOpen {device : Nat}
    {post : List CdevEvent → Int → CdevWorld → Prop} :
    (ecdevOpen device).Ensures CdevWorld.handle post world ↔
      post [.opened] 0 (world.openDevice device) := by
  apply Program.ensures_perform_sole rfl
  intro other different
  cases other with
  | opened => exact absurd rfl different
  | _ => rfl

end Rules

/-- The world after `ether_device_init`. -/
def CdevWorld.initDevice (world : CdevWorld) (device : Nat) : CdevWorld :=
  ((world.offer device).setEc device).openDevice device

/-- A call of `ec_cdev_init` registers the node or fails to, and offers and opens a device in
both cases. -/
inductive InitOutcome (cdev master : Nat) (before : CdevWorld) :
    List CdevEvent → Int → CdevWorld → Prop where
  | registered {answers : List CdevEvent} {device : Nat}
      (free : ¬ before.Registered devEtherCAT) (present : .registered ∈ answers) :
      InitOutcome cdev master before answers 0
        (((before.setMaster cdev master).register ⟨devEtherCAT, 0o644, cdev⟩).initDevice device)
  | failed {answers : List CdevEvent} {errno device : Nat} (positive : 0 < errno)
      (absent : .registered ∉ answers)
      (offered : ∀ other, .offered other ∈ answers ↔ other = device) :
      InitOutcome cdev master before answers (-errno)
        ((before.setMaster cdev master).initDevice device)

private theorem ecCdevInit_ensures (cdev master : Nat) (world : CdevWorld) :
    (ecCdevInit cdev master).Ensures CdevWorld.handle (InitOutcome cdev master world) world := by
  simp only [ecCdevInit, etherDeviceInit, Program.ensures_bind, ensures_setMaster,
    ensures_registerDriver, ensures_ecdevOffer, ensures_setEc, ensures_ecdevOpen,
    Program.pure_eq, Program.ensures_finish]
  constructor
  · intro free device
    exact .registered free (by simp)
  · intro errno positive device
    exact .failed positive (by simp) (by simp)

private theorem ecCdevClear_ensures (world : CdevWorld) :
    ecCdevClear.Ensures CdevWorld.handle
      (fun _ _ after => after = world.unregister devEtherCAT) world := by
  simp [ecCdevClear]

private theorem cdev_step_init {before after : CdevState} {cdev master : Nat} {answers : List CdevEvent}
    (stepped : before.step (.init cdev master answers) = some after) :
    InitOutcome cdev master before.world answers after.ret after.world := by
  simp only [CdevState.step, Option.map_eq_some_iff] at stepped
  obtain ⟨⟨ret, world⟩, executed, rfl⟩ := stepped
  exact Program.exec_ensures (ecCdevInit_ensures cdev master before.world) executed

private theorem cdev_step_clear {before after : CdevState} {cdev : Nat} {answers : List CdevEvent}
    (stepped : before.step (.clear cdev answers) = some after) :
    after.world = before.world.unregister devEtherCAT := by
  simp only [CdevState.step, Option.map_eq_some_iff] at stepped
  obtain ⟨⟨_, world⟩, executed, rfl⟩ := stepped
  exact Program.exec_ensures (ecCdevClear_ensures before.world) executed

private theorem not_registered_unregister (world : CdevWorld) (path : String) :
    ¬ (world.unregister path).Registered path := by
  intro registered
  obtain ⟨node, member, same⟩ := registered
  exact of_decide_eq_true (List.mem_filter.mp member).2 same

/-!
## The node and the device together
-/

/-- An Ethernet device is offered and open. -/
def CdevWorld.DeviceOpen (world : CdevWorld) : Prop :=
  ∃ device ∈ world.offered, device ∈ world.opened

structure SameDevices (before after : CdevWorld) : Prop where
  offered : after.offered = before.offered
  opened : after.opened = before.opened
  ec : after.ec = before.ec

private theorem sameDevices_setMaster (world : CdevWorld) (cdev master : Nat) :
    SameDevices world (world.setMaster cdev master) := ⟨rfl, rfl, rfl⟩

private theorem sameDevices_register (world : CdevWorld) (cdev master : Nat) (node : DriverNode) :
    SameDevices world ((world.setMaster cdev master).register node) := ⟨rfl, rfl, rfl⟩

/-- What one call is to leave behind. -/
def Undone (before : CdevState) : CdevCall → CdevState → Prop
  | .init _ _ _, after => after.ret ≠ 0 → SameDevices before.world after.world
  | .clear cdev _, after => ¬ after.world.Registered devEtherCAT ∧
      ∀ device, before.offeredFor cdev = some device → device ∉ after.world.offered

/-- An initialization that fails leaves the devices as they were, a clear leaves neither the
node nor the device of its initialization, and the device is open just when the node is
registered. -/
structure AllOrNothing (before : CdevState) (call : CdevCall) (after : CdevState) : Prop where
  undone : Undone before call after
  follows : after.world.DeviceOpen ↔ after.world.Registered devEtherCAT

/-- The node is registered, or the device that is offered is the one at hand; and no device
is open when there is a clear. -/
def Unspoilt (before : CdevState) : CdevCall → Prop
  | .init _ _ answers => .registered ∈ answers ∨
      ∃ device, .offered device ∈ answers ∧ before.world.ec = some device
  | .clear _ _ => ¬ before.world.DeviceOpen

/-- The code opens every device that it offers, and keeps the latest one in `ec`. -/
structure Recorded (world : CdevWorld) : Prop where
  same : world.opened = world.offered
  known : ∀ device, world.ec = some device → device ∈ world.offered

structure Together (state : CdevState) : Prop where
  recorded : Recorded state.world
  follows : state.world.DeviceOpen ↔ state.world.Registered devEtherCAT

private theorem together_boot : Together .boot := by
  refine ⟨⟨rfl, nofun⟩, ?_⟩
  simp [CdevState.boot, CdevWorld.DeviceOpen, CdevWorld.Registered]

theorem Recorded.initDevice {world middle : CdevWorld} (recorded : Recorded world)
    (kept : SameDevices world middle) (device : Nat) : Recorded (middle.initDevice device) := by
  have same : middle.opened = middle.offered :=
    kept.opened.trans (recorded.same.trans kept.offered.symm)
  constructor
  · exact congrArg (insert device) same
  · intro other held
    obtain rfl := Option.some.inj held
    exact Finset.mem_insert_self ..

theorem Recorded.deviceOpen {world : CdevWorld} (recorded : Recorded world) {device : Nat}
    (held : world.ec = some device) : world.DeviceOpen :=
  ⟨device, recorded.known device held, recorded.same ▸ recorded.known device held⟩

private theorem deviceOpen_initDevice (world : CdevWorld) (device : Nat) :
    (world.initDevice device).DeviceOpen :=
  ⟨device, Finset.mem_insert_self .., Finset.mem_insert_self ..⟩

/-- Initializing the device again leaves no trace just when it is the one in `ec`. -/
theorem sameDevices_initDevice_iff {world middle : CdevWorld} (recorded : Recorded world)
    (kept : SameDevices world middle) {device : Nat} :
    SameDevices world (middle.initDevice device) ↔ world.ec = some device := by
  constructor
  · intro same
    exact same.ec.symm
  · intro held
    have offered := recorded.known device held
    have opened : device ∈ world.opened := recorded.same ▸ offered
    constructor
    · exact (congrArg (insert device) kept.offered).trans (Finset.insert_eq_of_mem offered)
    · exact (congrArg (insert device) kept.opened).trans (Finset.insert_eq_of_mem opened)
    · exact held.symm

private theorem registered_register (world : CdevWorld) (path : String) (mode cdev : Nat) :
    (world.register ⟨path, mode, cdev⟩).Registered path :=
  ⟨⟨path, mode, cdev⟩, List.mem_append_right _ (List.mem_singleton_self _), rfl⟩

/-- The record of the devices is kept, whatever the calls. -/
theorem recorded_step {before after : CdevState} {call : CdevCall}
    (recorded : Recorded before.world) (stepped : before.step call = some after) :
    Recorded after.world := by
  obtain ⟨world, offeredFor, ret⟩ := after
  cases call with
  | init cdev master answers =>
      cases cdev_step_init stepped with
      | registered free present => exact recorded.initDevice (sameDevices_register ..) _
      | failed positive absent offered => exact recorded.initDevice (sameDevices_setMaster ..) _
  | clear cdev answers =>
      obtain rfl : world = before.world.unregister devEtherCAT := cdev_step_clear stepped
      exact ⟨recorded.same, recorded.known⟩

private theorem cdev_step_iff {before after : CdevState} {call : CdevCall} (together : Together before)
    (stepped : before.step call = some after) :
    AllOrNothing before call after ↔ Unspoilt before call := by
  obtain ⟨recorded, follows⟩ := together
  obtain ⟨world, offeredFor, ret⟩ := after
  cases call with
  | init cdev master answers =>
      cases cdev_step_init stepped with
      | registered free present =>
          apply iff_of_true _ (.inl present)
          refine ⟨fun failed => absurd rfl failed, ?_⟩
          exact iff_of_true (deviceOpen_initDevice ..) (registered_register ..)
      | @failed errno device positive absent offered =>
          have nonzero : (-(errno : Int)) ≠ 0 := by omega
          have same_iff : SameDevices before.world
              ((before.world.setMaster cdev master).initDevice device) ↔
                before.world.ec = some device :=
            sameDevices_initDevice_iff recorded (sameDevices_setMaster ..)
          constructor
          · intro both
            exact .inr ⟨device, (offered device).mpr rfl, same_iff.mp (both.undone nonzero)⟩
          · intro unspoilt
            rcases unspoilt with present | ⟨other, member, held⟩
            · exact absurd present absent
            · obtain rfl := (offered other).mp member
              refine ⟨fun _ => same_iff.mpr held, ?_⟩
              have still_registered : before.world.Registered devEtherCAT :=
                follows.mp (recorded.deviceOpen held)
              exact iff_of_true (deviceOpen_initDevice ..) still_registered
  | clear cdev answers =>
      obtain rfl : world = before.world.unregister devEtherCAT := cdev_step_clear stepped
      have unregistered := not_registered_unregister before.world devEtherCAT
      constructor
      · intro both still_open
        exact unregistered (both.follows.mp still_open)
      · intro closed
        refine ⟨⟨unregistered, ?_⟩, iff_of_false closed unregistered⟩
        intro device _ offered
        exact closed ⟨device, offered, recorded.same ▸ offered⟩

/-- Over any calls of any masters, initialization is all or nothing and is undone by a clear
exactly when each one registers the node, or has offered the very device that `ec` already
is, and none is cleared while a device is open. -/
theorem cdev_all_or_nothing_iff (calls : List CdevCall) :
    Along CdevState.step AllOrNothing .boot calls ↔
      Along CdevState.step (fun before call _ => Unspoilt before call) .boot calls := by
  refine along_iff_along ?_ ?_ together_boot
  · intro before call after together stepped
    exact cdev_step_iff together stepped
  · intro before call after together stepped unspoilt
    exact ⟨recorded_step together.recorded stepped,
      ((cdev_step_iff together stepped).mpr unspoilt).follows⟩

/-- An `ec_cdev_init` of which only the registration may fail. -/
def initCall (cdev device : Nat) (registration : CdevEvent) : CdevCall :=
  .init cdev cdev [.memory, registration, .offered device, .memory, .opened]

/-- The second master finds the path registered, and its device is offered and takes the
place of the first one's nevertheless (first part); a clear leaves the device open (second
part). -/
theorem cdev_device_left_open :
    ¬ Along CdevState.step AllOrNothing .boot
        [initCall 1 5 .registered, initCall 2 6 (.registerFailed 17)] ∧
      ¬ Along CdevState.step AllOrNothing .boot
        [initCall 1 5 .registered, .clear 1 [.unregistered 0]] := by
  constructor
  · intro along
    cases (along.2.1.undone (by decide)).ec
  · intro along
    exact along.2.1.undone.2 5 rfl (by decide)

end VelaExternal.Ethercat
