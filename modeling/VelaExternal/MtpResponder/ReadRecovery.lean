import VelaExternal.MtpResponder.UsbDeviceProperties
import VelaExternal.MtpResponder.ReadThreadProperties
import VelaExternal.Systems.Loop

/-! The recovery of the read thread as the loop that it is, and what one pass of that
loop can do. -/

set_option autoImplicit false

namespace VelaExternal.MtpResponder

open Systems

/-!
## The passes of the loop
-/

/-- What keeps a pass of the recovery from its read. -/
inductive Obstacle where
  | reopenFailed
  | disconnected
  | unknown
  deriving DecidableEq

/-- The part of a pass before its read. -/
def prepareRead (conf : MtpConfig) (err : Int) : UsbProgram (Option Obstacle) := do
  if err = 0 then
    return none
  else if err > 0 then
    return some .unknown
  else
    match ← loadErrno with
    | .eintr => return none
    | .eio =>
        if !(← usbConnected) then
          return some .disconnected
        ffsTransportDeinitUsbDevice
        if !(← ffsTransportInitUsbDevice conf) then
          return some .reopenFailed
        return none
    | .eshutdown => return none
    | _ => return some .unknown

def recoveryPass (conf : MtpConfig) (bufLen : Int) (err : Int) :
    UsbProgram (Except Obstacle Int) := do
  match ← prepareRead conf err with
  | none => return .ok (← readBulkOut (toSizeT bufLen))
  | some obstacle => return .error obstacle

def recoveryDecision (err : Int) : Except Obstacle Int → Decision Int Int
  | .ok result => if result > 0 then .leave result else .again result
  | .error .reopenFailed => .again err
  | .error .disconnected | .error .unknown => .leave err

abbrev RecoveryPass := Pass Int (Except Obstacle Int) UsbWorld UsbEvent

abbrev RecoveryPasses (conf : MtpConfig) (bufLen : Int) :=
  Program.Passes UsbWorld.handle (recoveryPass conf bufLen) recoveryDecision id

abbrev recovery (conf : MtpConfig) (bufLen : Int) : Nat → Int → UsbProgram Int :=
  Program.loop (recoveryPass conf bufLen) recoveryDecision id

/-- What follows the preparation of a pass, with the passes that are then left. -/
def afterPreparation (conf : MtpConfig) (bufLen : Int) (remaining : Nat) (err : Int) :
    Option Obstacle → UsbProgram Int
  | none => readAgain bufLen (recovery conf bufLen remaining)
  | some .reopenFailed => recovery conf bufLen remaining err
  | some .disconnected | some .unknown => .finish err

private theorem recovery_succ (conf : MtpConfig) (bufLen : Int) (remaining : Nat) (err : Int) :
    recovery conf bufLen (remaining + 1) err =
      prepareRead conf err >>= afterPreparation conf bufLen remaining err := by
  rw [recovery, Program.loop, recoveryPass, Program.bind_bind]
  apply congrArg (prepareRead conf err >>= ·)
  funext prepared
  cases prepared with
  | none =>
      simp only [Program.bind_bind]
      apply congrArg (readBulkOut (toSizeT bufLen) >>= ·)
      funext result
      by_cases delivered : result > 0
      · simp only [Program.pure_eq, Program.finish_bind, recoveryDecision, if_pos delivered]
      · simp only [Program.pure_eq, Program.finish_bind, recoveryDecision, if_neg delivered]
  | some obstacle => cases obstacle <;> rfl

theorem handleUsbReadErr_eq_recovery (conf : MtpConfig) (bufLen : Int) (bound : Nat) (err : Int) :
    handleUsbReadErr conf bufLen bound err = recovery conf bufLen bound err := by
  induction bound generalizing err with
  | zero => rfl
  | succ remaining ih =>
      rw [recovery_succ, handleUsbReadErr, prepareRead, funext ih]
      split
      · rfl
      · split
        · rfl
        · rw [Program.bind_bind]
          apply congrArg (loadErrno >>= ·)
          funext errno
          cases errno with
          | eio =>
              simp only [Program.bind_bind]
              apply congrArg (usbConnected >>= ·)
              funext connected
              cases connected with
              | false => rfl
              | true =>
                  simp only [Bool.not_true, Bool.false_eq_true, if_false, Program.bind_bind]
                  apply congrArg (ffsTransportDeinitUsbDevice >>= ·)
                  funext _
                  apply congrArg (ffsTransportInitUsbDevice conf >>= ·)
                  funext opened
                  cases opened with
                  | false => rfl
                  | true => rfl
          | _ => rfl

/-!
## What one pass does
-/

def Errno.Retried (errno : Errno) : Prop := errno ∈ [.eintr, .eio, .eshutdown]

instance (errno : Errno) : Decidable errno.Retried := inferInstanceAs (Decidable (_ ∈ _))

/-- The answers that opening and closing the endpoints consists of. -/
def UsbEvent.OnDescriptors : UsbEvent → Prop
  | .readBytes _ | .readFailed _ | .usbConnected _ => False
  | _ => True

private theorem handle_onDescriptors {op : UsbOp} {before after : UsbWorld} {event : UsbEvent}
    {reply : op.Reply} (on_descriptors : op.OnDescriptors)
    (handled : before.handle op event = some (reply, after)) : event.OnDescriptors := by
  cases op <;> cases event <;> trivial

private theorem ensures_onDescriptors {Value : Type} {program : UsbProgram Value} {world : UsbWorld}
    (only : program.Only UsbOp.OnDescriptors) :
    program.Ensures UsbWorld.handle
      (fun events _ after => (∀ event ∈ events, event.OnDescriptors) ∧
        after.received = world.received) world := by
  let keeps (after : UsbWorld) : Prop := after.received = world.received
  have start : keeps world := rfl
  refine Program.ensures_of_only ?_ only start
  intro op before event reply after on_descriptors kept handled
  have same := handle_received on_descriptors.notRead handled
  exact ⟨handle_onDescriptors on_descriptors handled, same.trans kept⟩

/-- The answers of a pass before its read, and what it comes to. -/
inductive Prepared (err : Int) (before : UsbWorld) : List UsbEvent → Option Obstacle → Prop where
  | skipped {events : List UsbEvent} (quiet : ∀ event ∈ events, event = .memory)
      (minor : err = 0 ∨ err < 0 ∧ before.errno.Retried ∧ before.errno ≠ .eio) :
      Prepared err before events none
  | reopened {rest : List UsbEvent} (quiet : ∀ event ∈ rest, event.OnDescriptors)
      (failed : err < 0) (broken : before.errno = .eio)
      (opened : ∀ errno, .openFailed errno ∉ rest) :
      Prepared err before (.memory :: .usbConnected true :: rest) none
  | reopenFailed {rest : List UsbEvent} {errno : Errno}
      (quiet : ∀ event ∈ rest, event.OnDescriptors) (failed : err < 0)
      (broken : before.errno = .eio) (unopened : .openFailed errno ∈ rest) :
      Prepared err before (.memory :: .usbConnected true :: rest) (some .reopenFailed)
  | disconnected (failed : err < 0) (broken : before.errno = .eio) :
      Prepared err before [.memory, .usbConnected false] (some .disconnected)
  | unknown {events : List UsbEvent} (quiet : ∀ event ∈ events, event = .memory)
      (strange : 0 < err ∨ err < 0 ∧ ¬ before.errno.Retried) :
      Prepared err before events (some .unknown)

/-- Opening the endpoints again, after they were closed, opens them all or fails. -/
theorem reopen_ensures (conf : MtpConfig) (world : UsbWorld) (closed : world.usbEpIn = -1) :
    (ffsTransportInitUsbDevice conf).Ensures UsbWorld.handle
      (fun events opened _ =>
        (opened = true → ∀ errno, .openFailed errno ∉ events) ∧
          (opened = false → ∃ errno, .openFailed errno ∈ events)) world := by
  apply (ffsTransportInitUsbDevice_ensures conf world).mono
  intro events opened after outcome
  rcases outcome with ⟨positive, -⟩ | ⟨-, middle, _, _, _, outcome, -⟩
  · omega
  · simp only [← error_mem_openResults]
    generalize openResults events = opens at outcome
    cases outcome with
    | unopened errno => simp
    | abandoned unused succeeded failed stale closed inUse =>
        exact ⟨nofun, fun _ => ⟨_, failed⟩⟩
    | complete in_unused out_unused status_unused distinct => simp

private theorem releaseEndpoint_opens_nothing (endpoint : Endpoint) (world : UsbWorld) :
    (releaseEndpoint endpoint).Ensures UsbWorld.handle
      (fun events _ _ => openResults events = []) world := by
  simp only [releaseEndpoint, Program.ensures_bind, ensures_loadDescriptor]
  split
  · simp [openResults]
  · simp [openResults]

private theorem deinit_opens_nothing (world : UsbWorld) :
    ffsTransportDeinitUsbDevice.Ensures UsbWorld.handle
      (fun events _ _ => openResults events = []) world := by
  simp only [ffsTransportDeinitUsbDevice, Program.ensures_bind]
  apply (releaseEndpoint_opens_nothing .bulkIn world).mono
  intro first _ _ first_none
  apply (releaseEndpoint_opens_nothing .bulkOut _).mono
  intro second _ _ second_none
  apply (releaseEndpoint_opens_nothing .status _).mono
  intro third _ _ third_none
  simp [openResults_append, first_none, second_none, third_none]

private theorem deinit_usbEpIn (world : UsbWorld) :
    ffsTransportDeinitUsbDevice.Ensures UsbWorld.handle
      (fun _ _ after => after.usbEpIn = -1) world := by
  apply (ffsTransportDeinitUsbDevice_ensures world).mono
  intro events value after failed
  obtain ⟨errno, rfl⟩ := failed
  change UsbWorld.descriptor _ .bulkIn = -1
  simp [descriptor_release]

/-- Closing the endpoints and opening them again, as a pass does after `EIO`. -/
theorem reconnect_ensures (conf : MtpConfig) (world : UsbWorld) :
    (ffsTransportDeinitUsbDevice >>= fun _ => ffsTransportInitUsbDevice conf).Ensures
      UsbWorld.handle
      (fun events opened after =>
        ((∀ event ∈ events, event.OnDescriptors) ∧ after.received = world.received) ∧
          (opened = true → ∀ errno, .openFailed errno ∉ events) ∧
          (opened = false → ∃ errno, .openFailed errno ∈ events)) world := by
  refine (ensures_onDescriptors ?_).and ?_
  · exact Program.only_bind ffsTransportDeinitUsbDevice_onDescriptors fun _ =>
      ffsTransportInitUsbDevice_onDescriptors conf
  · rw [Program.ensures_bind]
    refine ((deinit_opens_nothing world).and (deinit_usbEpIn world)).mono ?_
    intro first _ middle released
    obtain ⟨none_opened, closed⟩ := released
    apply (reopen_ensures conf middle closed).mono
    intro second opened after outcome
    have elsewhere (errno : Errno) : .openFailed errno ∉ first := by
      rw [← error_mem_openResults, none_opened]
      exact List.not_mem_nil
    simpa [elsewhere] using outcome

private theorem prepareRead_ensures (conf : MtpConfig) (err : Int) (world : UsbWorld) :
    (prepareRead conf err).Ensures UsbWorld.handle
      (fun events prepared after =>
        Prepared err world events prepared ∧ after.received = world.received) world := by
  unfold prepareRead
  by_cases zero : err = 0
  · rw [if_pos zero]
    exact ⟨.skipped nofun (.inl zero), rfl⟩
  by_cases positive : err > 0
  · rw [if_neg zero, if_pos positive]
    exact ⟨.unknown nofun (.inl positive), rfl⟩
  have failed : err < 0 := by omega
  have quiet : ∀ event ∈ [UsbEvent.memory], event = .memory := by simp
  rw [if_neg zero, if_neg positive, Program.ensures_bind, ensures_loadErrno]
  cases errno : world.errno with
  | eintr =>
      exact ⟨.skipped quiet (.inr ⟨failed, by simp [errno, Errno.Retried]⟩), rfl⟩
  | eshutdown =>
      exact ⟨.skipped quiet (.inr ⟨failed, by simp [errno, Errno.Retried]⟩), rfl⟩
  | eio =>
      simp only [Program.ensures_bind, ensures_usbConnected]
      intro connected
      cases connected with
      | false => exact ⟨.disconnected failed errno, rfl⟩
      | true =>
          simp only [Bool.not_true, Bool.false_eq_true, if_false, ← Program.bind_bind]
          rw [Program.ensures_bind]
          apply (reconnect_ensures conf world).mono
          intro rest opened after reopened
          obtain ⟨⟨quiet, received⟩, complete, incomplete⟩ := reopened
          cases opened with
          | false =>
              obtain ⟨refused, member⟩ := incomplete rfl
              simp only [Bool.not_false, if_true, Program.pure_eq, Program.ensures_finish,
                List.cons_append, List.nil_append, List.append_nil]
              exact ⟨.reopenFailed quiet failed errno member, received⟩
          | true =>
              simp only [Bool.not_true, Bool.false_eq_true, if_false, Program.pure_eq,
                Program.ensures_finish, List.cons_append, List.nil_append, List.append_nil]
              exact ⟨.reopened quiet failed errno (complete rfl), received⟩
  | _ =>
      exact ⟨.unknown quiet (.inr ⟨failed, by simp [errno, Errno.Retried]⟩), rfl⟩

/-- How a pass ends: before its read, or with what the read returns. -/
inductive PassOutcome (err : Int) (before : UsbWorld) :
    List UsbEvent → Except Obstacle Int → UsbWorld → Prop where
  | ended {events : List UsbEvent} {obstacle : Obstacle} {after : UsbWorld}
      (prepared : Prepared err before events (some obstacle))
      (received : after.received = before.received) :
      PassOutcome err before events (.error obstacle) after
  | delivered {first : List UsbEvent} {bytes : List UInt8} {middle : UsbWorld}
      (prepared : Prepared err before first none) (received : middle.received = before.received) :
      PassOutcome err before (first ++ [.memory, .readBytes bytes]) (.ok bytes.length)
        (middle.deliver bytes)
  | failed {first : List UsbEvent} {errno : Errno} {middle : UsbWorld}
      (prepared : Prepared err before first none) (received : middle.received = before.received) :
      PassOutcome err before (first ++ [.memory, .readFailed errno]) (.ok (-1))
        (middle.setErrno errno)

theorem recoveryPass_ensures (conf : MtpConfig) (bufLen err : Int) (world : UsbWorld) :
    (recoveryPass conf bufLen err).Ensures UsbWorld.handle (PassOutcome err world) world := by
  rw [recoveryPass, Program.ensures_bind]
  apply (prepareRead_ensures conf err world).mono
  intro first prepared middle both
  obtain ⟨outcome, received⟩ := both
  cases prepared with
  | some obstacle =>
      simp only [Program.pure_eq, Program.ensures_finish, List.append_nil]
      exact .ended outcome received
  | none =>
      simp only [readBulkOut, Program.ensures_bind, ensures_loadDescriptor, ensures_readDescriptor,
        Program.pure_eq, Program.ensures_finish]
      constructor
      · intro bytes _
        exact .delivered outcome received
      · intro errno
        exact .failed outcome received

end VelaExternal.MtpResponder
