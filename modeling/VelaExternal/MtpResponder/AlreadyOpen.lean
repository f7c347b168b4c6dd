import VelaExternal.MtpResponder.UsbDeviceProperties

/-! Opening a device that is open. `ffs_transport_init_usb_device` looks for a positive
bulk-in descriptor, where its two siblings count every non-negative one as open. -/

set_option autoImplicit false

namespace VelaExternal.MtpResponder

open Systems

/-- An initialization that reports success leaves a bulk-in descriptor that was opened. -/
def NamedWhenReturned (state : DriverState) : Prop :=
  state.returned = some true → 0 ≤ state.world.usbEpIn

private theorem initUsbDevice_named {conf : MtpConfig} {world after : UsbWorld} {answers : List UsbEvent}
    (executed : (ffsTransportInitUsbDevice conf).exec UsbWorld.handle world answers =
      some (true, after)) :
    0 ≤ after.usbEpIn := by
  rcases Program.exec_ensures (ffsTransportInitUsbDevice_ensures conf world) executed with
    ⟨already, _, _, rfl⟩ | ⟨_, middle, pktSize, rxMqSz, txMqSz, outcome, rfl⟩
  · omega
  · generalize openResults answers = opens at outcome
    cases outcome with
    | complete in_unused out_unused status_unused distinct => exact in_unused.1

private theorem driver_step_named {conf : MtpConfig} {before after : DriverState} {call : DriverCall}
    (stepped : before.step conf call = some after) : NamedWhenReturned after := by
  obtain ⟨function, answers⟩ := call
  cases function with
  | initUsbDevice =>
      simp only [DriverState.step, Option.map_eq_some_iff] at stepped
      obtain ⟨⟨opened, world⟩, executed, rfl⟩ := stepped
      intro returned
      obtain rfl := Option.some.inj returned
      exact initUsbDevice_named executed
  | deinitUsbDevice =>
      simp only [DriverState.step, Option.map_eq_some_iff] at stepped
      obtain ⟨result, executed, rfl⟩ := stepped
      intro returned
      cases returned

/-- After any calls the last of which opened the device, opening it again reports
success and does nothing exactly when the number of bulk-in is not zero. -/
theorem initUsbDevice_again_noop_iff {conf : MtpConfig} {inUse : List Int}
    {calls : List DriverCall} {state : DriverState} {answers : List UsbEvent} {opened : Bool}
    {world : UsbWorld}
    (reached : run (DriverState.step conf) (.boot inUse) calls = some state)
    (returned : state.returned = some true)
    (executed : (ffsTransportInitUsbDevice conf).exec UsbWorld.handle state.world answers =
      some (opened, world)) :
    (opened = true ∧ (∀ fd, .opened fd ∉ answers) ∧ world.descriptor = state.world.descriptor) ↔
      state.world.usbEpIn ≠ 0 := by
  have named : 0 ≤ state.world.usbEpIn :=
    run_invariant (fun _ _ _ _ stepped => driver_step_named stepped)
      (show NamedWhenReturned (.boot inUse) from nofun) reached returned
  simp only [← ok_mem_openResults]
  rcases Program.exec_ensures (ffsTransportInitUsbDevice_ensures conf state.world) executed with
    ⟨already, none_opened, rfl, rfl⟩ | ⟨unopened, middle, pktSize, rxMqSz, txMqSz, outcome, rfl⟩
  · exact iff_of_true ⟨rfl, by simp [none_opened], rfl⟩ (by omega)
  · refine iff_of_false ?_ (by omega)
    intro noop
    obtain ⟨rfl, none_opened, _⟩ := noop
    generalize openResults answers = opens at outcome none_opened
    cases outcome with
    | @complete bulkIn bulkOut status in_unused out_unused status_unused distinct =>
        exact none_opened bulkIn List.mem_cons_self

theorem initUsbDevice_again_noop_reopened :
    ∃ state world, run (DriverState.step smallConfig) (.boot [0])
        [⟨.initUsbDevice, openedAnswers 3 4 5⟩, ⟨.deinitUsbDevice, closedAnswers⟩,
          ⟨.initUsbDevice, openedAnswers 5 3 4⟩] = some state ∧
      (ffsTransportInitUsbDevice smallConfig).exec UsbWorld.handle state.world [.memory] =
        some (true, world) ∧ world.descriptor = state.world.descriptor := by
  let opened (state : DriverState) : Prop := state.returned = some true ∧ state.world.usbEpIn = 5
  obtain ⟨state, reached, returned, named⟩ : ∃ state, run (DriverState.step smallConfig) (.boot [0])
      [⟨.initUsbDevice, openedAnswers 3 4 5⟩, ⟨.deinitUsbDevice, closedAnswers⟩,
        ⟨.initUsbDevice, openedAnswers 5 3 4⟩] = some state ∧ opened state :=
    run_computed (by decide) (by decide)
  have executed : (ffsTransportInitUsbDevice smallConfig).exec UsbWorld.handle state.world
      [.memory] = some (true, state.world) := by
    simp [ffsTransportInitUsbDevice, loadDescriptor, Program.exec, UsbWorld.handle,
      UsbWorld.descriptor, named]
  have noop := (initUsbDevice_again_noop_iff reached returned executed).mpr (by omega)
  exact ⟨state, state.world, reached, executed, noop.2.2⟩

/-- With standard input closed, bulk-in gets number zero: the second initialization
opens all endpoints once more and forgets the descriptors of the first. -/
theorem initUsbDevice_again_opens_twice :
    ∃ state, run (DriverState.step smallConfig) (.boot [])
        [⟨.initUsbDevice, openedAnswers 0 1 2⟩] = some state ∧
      (∀ call ∈ [DriverCall.mk .initUsbDevice (openedAnswers 0 1 2)], ∀ errno,
        .openFailed errno ∉ call.answers) ∧
      state.returned = some true ∧ state.world.AllOpen ∧
      ∃ world, (ffsTransportInitUsbDevice smallConfig).exec UsbWorld.handle state.world
          (openedAnswers 3 4 5) = some (true, world) ∧
        .opened 3 ∈ openedAnswers 3 4 5 ∧ world.descriptor ≠ state.world.descriptor ∧
        world.openFds = [0, 1, 2, 3, 4, 5] := by
  refine ⟨_, rfl, by simp [openedAnswers], rfl, by decide, _, rfl, by decide, ?_, by decide⟩
  intro same
  exact absurd (congrFun same .bulkIn) (by decide)

end VelaExternal.MtpResponder
