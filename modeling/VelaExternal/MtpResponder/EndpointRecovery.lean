import VelaExternal.MtpResponder.Transport
import VelaExternal.MtpResponder.ReadThreadProperties
import VelaExternal.MtpResponder.UsbDeviceProperties
import VelaExternal.MtpResponder.WriteThreadProperties

/-! The descriptor that the write thread waits on, next to recoveries of the read thread.
The thread captured its number at the start; it remains the number of bulk-in only as
long as every recovery happens to get it back. -/

set_option autoImplicit false

namespace VelaExternal.MtpResponder

open Systems

/-!
## What a recovery does to a captured number
-/

def UsbWorld.BulkInOpen (world : UsbWorld) : Prop :=
  ∃ file ∈ world.openFiles, file.endpoint = .bulkIn

instance (world : UsbWorld) : Decidable world.BulkInOpen :=
  inferInstanceAs (Decidable (∃ file ∈ world.openFiles, file.endpoint = .bulkIn))

/-- The number was closed by the driver and is not open again. -/
def UsbWorld.Closed (world : UsbWorld) (fd : Int) : Prop :=
  fd ∈ world.closes.map CloseCall.fd ∧ fd ∉ world.openFds

instance (world : UsbWorld) (fd : Int) : Decidable (world.Closed fd) :=
  inferInstanceAs (Decidable (_ ∧ _))

/-- No other number was ever used for bulk-in, and no other endpoint uses this one. -/
structure Held (captured : Int) (world : UsbWorld) : Prop where
  number : ∀ file ∈ world.openFiles, file.endpoint = .bulkIn → file.fd = captured
  global : world.usbEpIn = captured ∨ world.usbEpIn = -1
  reserved : captured ∈ world.openFds → world.BulkInOpen
  closed : ¬ world.BulkInOpen → captured ∈ world.closes.map CloseCall.fd

namespace Held

variable {captured : Int} {world : UsbWorld}

private theorem captured_mem (held : Held captured world) (opened : world.BulkInOpen) :
    captured ∈ world.openFds := by
  obtain ⟨file, member, bulkIn⟩ := opened
  exact held.number file member bulkIn ▸ List.mem_map_of_mem member

private theorem closed_iff (held : Held captured world) :
    world.Closed captured ↔ ¬ world.BulkInOpen :=
  ⟨fun closed opened => closed.2 (held.captured_mem opened),
    fun not_open => ⟨held.closed not_open, fun member => not_open (held.reserved member)⟩⟩

theorem congr {other : UsbWorld} (held : Held captured world)
    (files : other.openFiles = world.openFiles) (closes : other.closes = world.closes)
    (global : other.usbEpIn = world.usbEpIn) : Held captured other := by
  obtain ⟨number, value, reserved, closed⟩ := held
  constructor
  · exact files ▸ number
  · exact global ▸ value
  · simpa only [UsbWorld.openFds, UsbWorld.BulkInOpen, files] using reserved
  · simpa only [UsbWorld.BulkInOpen, files, closes] using closed

theorem setErrno (held : Held captured world) (errno : Errno) :
    Held captured (world.setErrno errno) := held.congr rfl rfl rfl

theorem assign (held : Held captured world) (endpoint : Endpoint) (fd : Int)
    (kept : endpoint = .bulkIn → fd = captured ∨ fd = -1) :
    Held captured (world.assign endpoint fd) := by
  cases endpoint with
  | bulkIn => exact ⟨held.number, kept rfl, held.reserved, held.closed⟩
  | bulkOut => exact held.congr rfl rfl rfl
  | status => exact held.congr rfl rfl rfl

theorem close (held : Held captured world) (fd : Int) : Held captured (world.close fd) := by
  have remains (different : captured ≠ fd) (opened : world.BulkInOpen) :
      (world.close fd).BulkInOpen := by
    obtain ⟨file, member, bulkIn⟩ := opened
    have kept : file.fd ≠ fd := held.number file member bulkIn ▸ different
    exact ⟨file, List.mem_filter.mpr ⟨member, decide_eq_true kept⟩, bulkIn⟩
  constructor
  · intro file member
    exact held.number file (List.mem_filter.mp member).1
  · exact held.global
  · rw [mem_openFds_close]
    rintro ⟨member, different⟩
    exact remains different (held.reserved member)
  · intro not_open
    rw [UsbWorld.close, List.map_append, List.mem_append]
    by_cases same : captured = fd
    · exact .inr (by simp [same])
    · exact .inl (held.closed fun opened => not_open (remains same opened))

private theorem openBulkIn (held : Held captured world) :
    Held captured (world.openFile captured .bulkIn) := by
  have opened : (world.openFile captured .bulkIn).BulkInOpen :=
    ⟨⟨captured, .bulkIn⟩, by simp [UsbWorld.openFile], rfl⟩
  constructor
  · intro file member
    rcases List.mem_append.mp member with member | member
    · exact held.number file member
    · obtain rfl := List.mem_singleton.mp member
      exact fun _ => rfl
  · exact held.global
  · intro _
    exact opened
  · intro not_open
    exact absurd opened not_open

private theorem openOther (held : Held captured world) {fd : Int} {endpoint : Endpoint}
    (other : endpoint ≠ .bulkIn) (different : fd ≠ captured) :
    Held captured (world.openFile fd endpoint) := by
  have remains (opened : world.BulkInOpen) : (world.openFile fd endpoint).BulkInOpen := by
    obtain ⟨file, member, bulkIn⟩ := opened
    exact ⟨file, List.mem_append_left _ member, bulkIn⟩
  constructor
  · intro file member
    rcases List.mem_append.mp member with member | member
    · exact held.number file member
    · obtain rfl := List.mem_singleton.mp member
      exact fun bulkIn => absurd bulkIn other
  · exact held.global
  · intro member
    rw [openFds_openFile] at member
    rcases List.mem_append.mp member with member | member
    · exact remains (held.reserved member)
    · exact absurd (List.mem_singleton.mp member).symm different
  · intro not_open
    exact held.closed fun opened => not_open (remains opened)

end Held

/-- The operations that keep a captured number whatever they are answered. -/
def UsbOp.Harmless : UsbOp → Prop
  | .open _ => False
  | .store endpoint fd => endpoint = .bulkIn → fd = -1
  | _ => True

private theorem held_handle {captured : Int} {op : UsbOp} {world after : UsbWorld} {event : UsbEvent}
    {reply : op.Reply} (harmless : op.Harmless) (held : Held captured world)
    (handled : world.handle op event = some (reply, after)) : Held captured after := by
  cases op <;> cases event <;> simp only [UsbWorld.handle, Option.some.injEq, Prod.mk.injEq,
    Option.ite_none_right_eq_some, reduceCtorEq] at handled
  case open.opened => exact harmless.elim
  case open.openFailed => exact harmless.elim
  case close.closed fd =>
    obtain ⟨-, rfl⟩ := handled
    exact held.close fd
  case close.closeFailed fd errno =>
    obtain ⟨-, rfl⟩ := handled
    exact (held.close fd).setErrno errno
  case store.memory endpoint fd =>
    obtain ⟨-, rfl⟩ := handled
    exact held.assign endpoint fd fun bulkIn => .inr (harmless bulkIn)
  case read.readBytes =>
    obtain ⟨-, -, rfl⟩ := handled
    exact held.congr rfl rfl rfl
  all_goals
    obtain ⟨-, rfl⟩ := handled
    exact held.congr rfl rfl rfl

def ReturnsCaptured (captured : Int) (op : UsbOp) (event : UsbEvent) : Prop :=
  op = .open .bulkIn → ∀ fd, event = .opened fd → fd = captured

/-- A program that, with such answers, never lets go of the captured number. -/
def KeepsHeld {Value : Type} (captured : Int) (program : UsbProgram Value)
    (post : Value → UsbWorld → Prop) (world : UsbWorld) : Prop :=
  program.Throughout UsbWorld.handle (ReturnsCaptured captured) (Held captured) post world

section Recovery

variable {captured : Int} {world : UsbWorld}

private theorem keepsHeld_of_only {Value : Type} {program : UsbProgram Value}
    (only : program.Only UsbOp.Harmless) (held : Held captured world) :
    KeepsHeld captured program (fun _ => Held captured) world :=
  Program.throughout_of_only (fun _ _ _ _ _ => held_handle) only held

private theorem keepsHeld_bind {Value Result : Type} {program : UsbProgram Value}
    {continuation : Value → UsbProgram Result} {post : Result → UsbWorld → Prop}
    (first : KeepsHeld captured program
      (fun value middle => KeepsHeld captured (continuation value) post middle) world) :
    KeepsHeld captured (program >>= continuation) post world :=
  Program.throughout_bind.mpr first

private theorem keepsHeld_load (endpoint : Endpoint) {post : Int → UsbWorld → Prop}
    (held : Held captured world) (ended : post (world.descriptor endpoint) world) :
    KeepsHeld captured (loadDescriptor endpoint) post world := by
  intro event reply after _ handled
  cases event <;> simp only [UsbWorld.handle, Option.some.injEq, Prod.mk.injEq,
    reduceCtorEq] at handled
  obtain ⟨rfl, rfl⟩ := handled
  exact ⟨held, ended⟩

private theorem keepsHeld_store {endpoint : Endpoint} {fd : Int} {post : Unit → UsbWorld → Prop}
    (held : Held captured (world.assign endpoint fd)) (ended : post () (world.assign endpoint fd)) :
    KeepsHeld captured (storeDescriptor endpoint fd) post world := by
  intro event reply after _ handled
  cases event <;> simp only [UsbWorld.handle, Option.some.injEq, Prod.mk.injEq,
    reduceCtorEq] at handled
  obtain ⟨_, rfl⟩ := handled
  exact ⟨held, ended⟩

private theorem keepsHeld_openBulkIn {post : Int → UsbWorld → Prop} (held : Held captured world)
    (opened : world.Unused captured → post captured (world.openFile captured .bulkIn))
    (failed : ∀ errno, post (-1) (world.setErrno errno)) :
    KeepsHeld captured (openEndpoint .bulkIn) post world := by
  intro event reply after returns handled
  cases event <;> simp only [UsbWorld.handle, Option.some.injEq, Prod.mk.injEq,
    Option.ite_none_right_eq_some, reduceCtorEq] at handled
  case opened fd =>
    obtain ⟨unused, rfl, rfl⟩ := handled
    obtain rfl := returns rfl fd rfl
    exact ⟨held.openBulkIn, opened unused⟩
  case openFailed errno =>
    obtain ⟨rfl, rfl⟩ := handled
    exact ⟨held.setErrno errno, failed errno⟩

private theorem keepsHeld_openOther {endpoint : Endpoint} {post : Int → UsbWorld → Prop}
    (other : endpoint ≠ .bulkIn) (held : Held captured world) (bulkIn : world.BulkInOpen)
    (opened : ∀ fd, world.Unused fd → Held captured (world.openFile fd endpoint) →
      post fd (world.openFile fd endpoint))
    (failed : ∀ errno, post (-1) (world.setErrno errno)) :
    KeepsHeld captured (openEndpoint endpoint) post world := by
  intro event reply after returns handled
  cases event <;> simp only [UsbWorld.handle, Option.some.injEq, Prod.mk.injEq,
    Option.ite_none_right_eq_some, reduceCtorEq] at handled
  case opened fd =>
    obtain ⟨unused, rfl, rfl⟩ := handled
    have different : fd ≠ captured := fun same =>
      unused.2.1 (same ▸ held.captured_mem bulkIn)
    have held_after := held.openOther other different
    exact ⟨held_after, opened fd unused held_after⟩
  case openFailed errno =>
    obtain ⟨rfl, rfl⟩ := handled
    exact ⟨held.setErrno errno, failed errno⟩

private theorem bulkInOpen_openFile (opened : world.BulkInOpen) (endpoint assigned : Endpoint)
    (fd value : Int) :
    ((world.openFile fd endpoint).assign assigned value).BulkInOpen := by
  obtain ⟨file, member, bulkIn⟩ := opened
  refine ⟨file, ?_, bulkIn⟩
  cases assigned <;> exact List.mem_append_left _ member

private theorem keepsHeld_ioInit (held : Held captured world) :
    KeepsHeld captured ioInit (fun _ => Held captured) world := by
  have not_activated : ¬ sdListenFds 0 ≥ 4 := by decide
  unfold ioInit
  rw [if_neg not_activated]
  refine keepsHeld_bind (keepsHeld_openBulkIn held (fun unused => ?_) fun errno => ?_)
  · have opened : Held captured (world.openFile captured .bulkIn) := held.openBulkIn
    have stored := opened.assign .bulkIn captured fun _ => .inl rfl
    have bulkIn : ((world.openFile captured .bulkIn).assign .bulkIn captured).BulkInOpen :=
      ⟨⟨captured, .bulkIn⟩, by simp [UsbWorld.openFile, UsbWorld.assign], rfl⟩
    refine keepsHeld_bind (keepsHeld_store stored
      (keepsHeld_bind (keepsHeld_load .bulkIn stored ?_)))
    rw [descriptor_assign, if_pos rfl, if_neg (Int.not_lt.mpr unused.1)]
    refine keepsHeld_bind (keepsHeld_openOther (by simp) stored bulkIn
      (fun out out_unused out_held => ?_) fun errno => ?_)
    · have out_stored := out_held.assign .bulkOut out (by simp)
      have still_open := bulkInOpen_openFile bulkIn .bulkOut .bulkOut out out
      refine keepsHeld_bind (keepsHeld_store out_stored
        (keepsHeld_bind (keepsHeld_load .bulkOut out_stored ?_)))
      rw [descriptor_assign, if_pos rfl, if_neg (Int.not_lt.mpr out_unused.1)]
      refine keepsHeld_bind (keepsHeld_openOther (by simp) out_stored still_open
        (fun status status_unused status_held => ?_) fun errno => ?_)
      · have status_stored := status_held.assign .status status (by simp)
        refine keepsHeld_bind (keepsHeld_store status_stored
          (keepsHeld_bind (keepsHeld_load .status status_stored ?_)))
        rw [descriptor_assign, if_pos rfl, if_neg (Int.not_lt.mpr status_unused.1)]
        exact status_stored
      · have status_stored := (out_stored.setErrno errno).assign .status (-1) (by simp)
        refine keepsHeld_bind (keepsHeld_store status_stored
          (keepsHeld_bind (keepsHeld_load .status status_stored ?_)))
        rw [descriptor_assign, if_pos rfl, if_pos (by decide)]
        exact keepsHeld_of_only (by simp [loadDescriptor, closeDescriptor, UsbOp.Harmless])
          status_stored
    · have out_stored := (stored.setErrno errno).assign .bulkOut (-1) (by simp)
      refine keepsHeld_bind (keepsHeld_store out_stored
        (keepsHeld_bind (keepsHeld_load .bulkOut out_stored ?_)))
      rw [descriptor_assign, if_pos rfl, if_pos (by decide)]
      exact keepsHeld_of_only (by simp [loadDescriptor, closeDescriptor, UsbOp.Harmless]) out_stored
  · have stored := (held.setErrno errno).assign .bulkIn (-1) fun _ => .inr rfl
    refine keepsHeld_bind (keepsHeld_store stored
      (keepsHeld_bind (keepsHeld_load .bulkIn stored ?_)))
    rw [descriptor_assign, if_pos rfl, if_pos (by decide)]
    exact stored

private theorem keepsHeld_init (conf : MtpConfig) (held : Held captured world) :
    KeepsHeld captured (ffsTransportInitUsbDevice conf) (fun _ => Held captured) world := by
  refine keepsHeld_bind (keepsHeld_load .bulkIn held ?_)
  split
  · exact held
  · refine keepsHeld_bind ((keepsHeld_ioInit held).mono fun opened after held => ?_)
    split
    · exact held
    · exact keepsHeld_of_only (by simp [storeSizes, UsbOp.Harmless]) held

private theorem releaseEndpoint_harmless (endpoint : Endpoint) :
    (releaseEndpoint endpoint).Only UsbOp.Harmless := by
  simp [releaseEndpoint, loadDescriptor, storeDescriptor, closeDescriptor, UsbOp.Harmless]

private theorem keepsHeld_deinit (held : Held captured world) :
    KeepsHeld captured ffsTransportDeinitUsbDevice (fun _ => Held captured) world :=
  keepsHeld_of_only (Program.only_bind (releaseEndpoint_harmless .bulkIn) fun _ =>
    Program.only_bind (releaseEndpoint_harmless .bulkOut) fun _ =>
      releaseEndpoint_harmless .status) held

private theorem readBulkOut_harmless (size : Nat) : (readBulkOut size).Only UsbOp.Harmless := by
  simp [readBulkOut, loadDescriptor, readDescriptor, UsbOp.Harmless]

private theorem keepsHeld_readAgain (bufLen : Int) {again : Int → UsbProgram Int}
    (rest : ∀ err {world : UsbWorld}, Held captured world →
      KeepsHeld captured (again err) (fun _ => Held captured) world)
    (held : Held captured world) :
    KeepsHeld captured (readAgain bufLen again) (fun _ => Held captured) world := by
  refine keepsHeld_bind ((keepsHeld_of_only (readBulkOut_harmless _) held).mono
    fun err after held => ?_)
  split
  · exact held
  · exact rest err held

private theorem keepsHeld_handleUsbReadErr (conf : MtpConfig) (bufLen : Int) (remaining : Nat) (err : Int)
    (held : Held captured world) :
    KeepsHeld captured (handleUsbReadErr conf bufLen remaining err) (fun _ => Held captured)
      world := by
  induction remaining generalizing err world with
  | zero => exact held
  | succ remaining ih =>
      have again {world : UsbWorld} (held : Held captured world) :
          KeepsHeld captured (readAgain bufLen (handleUsbReadErr conf bufLen remaining))
            (fun _ => Held captured) world :=
        keepsHeld_readAgain bufLen (fun err _ held => ih err held) held
      unfold handleUsbReadErr
      split
      · exact again held
      · split
        · exact held
        · refine keepsHeld_bind ((keepsHeld_of_only (by simp [loadErrno, UsbOp.Harmless])
            held).mono fun errno after held => ?_)
          cases errno with
          | eintr => exact again held
          | eshutdown => exact again held
          | eio =>
              refine keepsHeld_bind ((keepsHeld_of_only (by simp [usbConnected, UsbOp.Harmless])
                held).mono fun connected after held => ?_)
              cases connected with
              | false => exact held
              | true =>
                  refine keepsHeld_bind ((keepsHeld_deinit held).mono fun _ after held => ?_)
                  refine keepsHeld_bind ((keepsHeld_init conf held).mono
                    fun opened after held => ?_)
                  cases opened with
                  | false => exact ih err held
                  | true => exact again held
          | _ => exact held

end Recovery

/-!
## Steps of the two threads
-/

namespace WriteThread

/-- The thread goes on with the number it has captured, and not to a write. -/
structure Onward (thread after : WriteThread) : Prop where
  fd : after.fd = thread.fd
  started : after.pc ≠ .start
  elsewhere : after.pc ≠ .write

private theorem onward_checkStatus (thread : WriteThread) : Onward thread thread.checkStatus := by
  unfold checkStatus
  split
  · exact ⟨rfl, nofun, nofun⟩
  · exact ⟨rfl, by simp, by simp⟩

private theorem onward_packetLoop (thread : WriteThread) : Onward thread thread.packetLoop := by
  unfold packetLoop
  split
  · exact ⟨rfl, by simp, by simp⟩
  · exact { onward_checkStatus _ with }

private theorem onward_dispatch (thread : WriteThread) : Onward thread thread.dispatch := by
  unfold dispatch
  split
  case h_1 => exact onward_packetLoop thread
  case h_2 => exact onward_packetLoop thread
  case h_3 => exact ⟨rfl, by simp, by simp⟩
  case h_4 => exact ⟨rfl, by simp, by simp⟩
  all_goals exact { onward_checkStatus _ with }

private theorem onward_afterWrite (thread : WriteThread) : Onward thread thread.afterWrite := by
  unfold afterWrite
  split
  · split
    · exact ⟨rfl, nofun, nofun⟩
    · exact onward_packetLoop thread
  · exact { onward_packetLoop _ with }

private theorem onward_afterCleanUp (thread : WriteThread) (resume : Resume) :
    Onward thread (thread.afterCleanUp resume) := by
  cases resume with
  | packetLoop => exact onward_packetLoop thread
  | exit => exact ⟨rfl, nofun, nofun⟩
  | cancelled => exact ⟨rfl, nofun, nofun⟩

/-- Only the start sets the number, and only a poll that reports `POLLOUT` leads to a write. -/
inductive Move (thread : WriteThread) : WriteEvent → WriteThread → Prop where
  | stays {event : WriteEvent} {after : WriteThread} (fd : after.fd = thread.fd)
      (pc : after.pc = thread.pc) (queued : ∀ result, event ≠ .poll result) :
      Move thread event after
  | starts {fd : Int} {after : WriteThread} (captured : after.fd = fd)
      (pc : after.pc = .testcancel) : Move thread (.start fd) after
  | polls {result : PollResult} {after : WriteThread} (at_poll : thread.pc = .poll)
      (fd : after.fd = thread.fd) (ready : after.pc = .write → result.pollOut = true) :
      Move thread (.poll result) after
  | onward {event : WriteEvent} {after : WriteThread} (started : thread.pc ≠ .start)
      (onward : Onward thread after) : Move thread event after

private theorem steps_move {thread after : WriteThread} {event : WriteEvent}
    (steps : Steps thread event after) : Move thread event after := by
  cases steps with
  | enqueue message => exact .stays rfl rfl (by simp)
  | drain resume head rest at_cleanUp queue => exact .stays rfl rfl (by simp)
  | start fd at_start => exact .starts rfl rfl
  | testcancel at_test => exact .onward (by simp [at_test]) ⟨rfl, by simp, by simp⟩
  | cancel at_point =>
      refine .onward (fun at_start => ?_) ⟨rfl, nofun, nofun⟩
      simp [atCancellationPoint, at_start] at at_point
  | receive head rest at_receive queue =>
      exact .onward (by simp [at_receive]) { onward_dispatch (thread.takeMessage head rest) with }
  | receiveFailed at_receive => exact .onward (by simp [at_receive]) (onward_dispatch thread)
  | poll result at_poll =>
      refine .polls at_poll ?_ ?_
      · unfold afterPoll
        split
        · exact (onward_packetLoop _).fd
        · split
          · rfl
          · exact (onward_packetLoop _).fd
      · unfold afterPoll
        split
        · exact fun at_write => absurd at_write (onward_packetLoop _).elsewhere
        · split
          · exact fun _ => ‹_›
          · exact fun at_write => absurd at_write (onward_packetLoop _).elsewhere
  | write result at_write within =>
      exact .onward (by simp [at_write]) { onward_afterWrite (thread.logWrite .bulkIn
        thread.mtpBuf thread.written thread.remaining result) with }
  | writeEvent result at_write within =>
      exact .onward (by simp [at_write]) { onward_checkStatus (thread.logWrite .status
        thread.mtpBuf 0 thread.len result).freeBuffer with }
  | writeZlp result at_write within =>
      exact .onward (by simp [at_write])
        { onward_checkStatus (thread.logWrite .bulkIn none 0 0 result) with }
  | drained resume at_cleanUp =>
      exact .onward (by simp [at_cleanUp]) (onward_afterCleanUp thread resume)

end WriteThread

namespace ReadThread

variable {conf : MtpConfig} {maxRetry : Nat} {captured : Int}

def nextOp (thread : ReadThread) : Option UsbOp :=
  match thread.pc with
  | .reading (.call op _) | .recovering (.call op _) => some op
  | _ => none

def isRecovering (thread : ReadThread) : Bool :=
  match thread.pc with
  | .recovering _ => true
  | _ => false

/-- A read outside of a recovery opens nothing. -/
def ReadsOnly (thread : ReadThread) : Prop :=
  ∀ program, thread.pc = .reading program → program.Only UsbOp.Harmless

/-- The number is held, and so it stays if a recovery is under way. -/
structure Holds (captured : Int) (thread : ReadThread) : Prop where
  world : Held captured thread.world
  recovery : ∀ program, thread.pc = .recovering program →
    KeepsHeld captured program (fun _ => Held captured) thread.world

private theorem holds_elsewhere {thread : ReadThread} (held : Held captured thread.world)
    (elsewhere : ∀ program, thread.pc ≠ .recovering program) : thread.Holds captured :=
  ⟨held, fun program here => absurd here (elsewhere program)⟩

private theorem holds_nextIteration {thread : ReadThread} (held : Held captured thread.world) :
    thread.nextIteration.Holds captured := by
  unfold nextIteration
  split
  · exact holds_elsewhere held (by simp)
  · exact holds_elsewhere held nofun

private theorem holds_afterRecovery {thread : ReadThread} {program : UsbProgram Int}
    (held : Held captured thread.world)
    (kept : KeepsHeld captured program (fun _ => Held captured) thread.world) :
    (thread.afterRecovery program).Holds captured := by
  cases program with
  | finish status =>
      unfold afterRecovery
      dsimp only
      split
      · exact holds_elsewhere held nofun
      · exact holds_elsewhere held (by simp)
  | call op next =>
      constructor
      · exact held
      · intro other here
        obtain rfl := ReadPc.recovering.inj here
        exact kept

private theorem holds_afterRead {thread : ReadThread} {program : UsbProgram Int}
    (held : Held captured thread.world) :
    (afterRead conf maxRetry thread program).Holds captured := by
  cases program with
  | finish status =>
      unfold afterRead
      dsimp only
      split
      · exact holds_afterRecovery held (keepsHeld_handleUsbReadErr conf _ maxRetry status held)
      · exact holds_elsewhere held (by simp)
  | call op next => exact holds_elsewhere held nofun

private theorem readsOnly_elsewhere {thread : ReadThread}
    (elsewhere : ∀ program, thread.pc ≠ .reading program) : thread.ReadsOnly :=
  fun program here => absurd here (elsewhere program)

private theorem readsOnly_afterRecovery {thread : ReadThread} {program : UsbProgram Int} :
    (thread.afterRecovery program).ReadsOnly := by
  cases program with
  | finish status =>
      unfold afterRecovery
      dsimp only
      split
      · exact readsOnly_elsewhere nofun
      · exact readsOnly_elsewhere (by simp)
  | call op next => exact readsOnly_elsewhere nofun

private theorem readsOnly_nextIteration {thread : ReadThread} : thread.nextIteration.ReadsOnly := by
  unfold nextIteration
  split
  · exact readsOnly_elsewhere (by simp)
  · exact readsOnly_elsewhere nofun

private theorem readsOnly_step {thread after : ReadThread} {event : ReadEvent}
    (readsOnly : thread.ReadsOnly) (steps : Steps conf maxRetry thread event after) :
    after.ReadsOnly := by
  cases steps with
  | malloc block bytes at_malloc fresh =>
      intro program here
      obtain rfl := ReadPc.reading.inj here
      exact readBulkOut_harmless _
  | reading event program rest world at_read stepped =>
      have only := (readsOnly program at_read).step stepped
      cases rest with
      | finish status =>
          unfold afterRead
          dsimp only
          split
          · exact readsOnly_afterRecovery
          · exact readsOnly_elsewhere (by simp)
      | call op next =>
          intro other here
          obtain rfl := ReadPc.reading.inj here
          exact only
  | recovering event program rest world at_recovery stepped => exact readsOnly_afterRecovery
  | sent at_send => exact readsOnly_nextIteration
  | sendFailed at_send => exact readsOnly_nextIteration
  | drain head rest at_cleanUp queue => exact readsOnly
  | consume head rest queue => exact readsOnly
  | _ => exact readsOnly_elsewhere nofun

private theorem holds_step {thread after : ReadThread} {event : ReadEvent}
    (holds : thread.Holds captured) (readsOnly : thread.ReadsOnly)
    (steps : Steps conf maxRetry thread event after)
    (returns : ∀ answer op, event = .usb answer → thread.nextOp = some op →
      ReturnsCaptured captured op answer) : after.Holds captured := by
  cases steps with
  | malloc block bytes at_malloc fresh =>
      exact holds_elsewhere (holds.world.congr rfl rfl rfl) (by simp)
  | reading event program rest world at_read stepped =>
      have kept := keepsHeld_of_only (readsOnly program at_read) holds.world
      have permitted (op : UsbOp) (next : op.Reply → UsbProgram Int)
          (same : program = .call op next) : ReturnsCaptured captured op event :=
        returns event op rfl (by rw [nextOp, at_read, same])
      exact holds_afterRead (Program.Throughout.step kept permitted stepped).1
  | recovering event program rest world at_recovery stepped =>
      have kept := holds.recovery program at_recovery
      have permitted (op : UsbOp) (next : op.Reply → UsbProgram Int)
          (same : program = .call op next) : ReturnsCaptured captured op event :=
        returns event op rfl (by rw [nextOp, at_recovery, same])
      obtain ⟨held, rest_kept⟩ := Program.Throughout.step kept permitted stepped
      exact holds_afterRecovery held rest_kept
  | sent at_send => exact holds_nextIteration holds.world
  | sendFailed at_send => exact holds_nextIteration holds.world
  | drain head rest at_cleanUp queue => exact { holds with }
  | consume head rest queue => exact { holds with }
  | _ => exact holds_elsewhere holds.world nofun

end ReadThread

namespace Transport

/-!
## Runs of both threads
-/

variable {conf : MtpConfig} {maxRetry : Nat}

/-- A poll is not on a number that the driver has closed, and a packet is written to the
descriptor that the last poll found ready. -/
def Waits (before : Transport) (event : TransportEvent) (_ : Transport) : Prop :=
  match event with
  | .writer (.poll _) => ¬ before.world.Closed before.writer.fd
  | .writer (.write _) => before.writer.pc = .write →
      before.polled = some (before.world.usbEpIn, true)
  | _ => True

/-- The thread starts on an open device and not during a recovery; from then on every
recovery that opens bulk-in gets the captured number back. -/
def ReopensAlike (before : Transport) (event : TransportEvent) (_ : Transport) : Prop :=
  match event with
  | .writer (.start _) => before.world.AllOpen ∧ before.reader.isRecovering = false
  | .reader (.usb (.opened fd)) => before.writer.pc ≠ .start →
      before.reader.nextOp = some (.open .bulkIn) → fd = before.writer.fd
  | _ => True

/-- The thread polls while bulk-in is open, and writes while the global is set. -/
def InPlace (before : Transport) (event : TransportEvent) (_ : Transport) : Prop :=
  match event with
  | .writer (.poll _) => before.world.BulkInOpen
  | .writer (.write _) => before.writer.pc = .write → 0 ≤ before.world.usbEpIn
  | _ => True

instance (before : Transport) (event : TransportEvent) (after : Transport) :
    Decidable (ReopensAlike before event after) := by
  unfold ReopensAlike
  split <;> infer_instance

instance (before : Transport) (event : TransportEvent) (after : Transport) :
    Decidable (InPlace before event after) := by
  unfold InPlace
  split <;> infer_instance

structure Captures (transport : Transport) : Prop where
  polled : transport.writer.pc = .write → transport.polled = some (transport.writer.fd, true)
  readsOnly : transport.reader.ReadsOnly
  holds : transport.writer.pc ≠ .start →
    0 ≤ transport.writer.fd ∧ transport.reader.Holds transport.writer.fd

private theorem held_of_allOpen {world : UsbWorld} (opened : world.AllOpen) : Held world.usbEpIn world where
  number file member bulkIn := by
    rw [opened.files] at member
    simp only [List.mem_cons, List.not_mem_nil, or_false] at member
    rcases member with rfl | rfl | rfl
    · rfl
    · cases bulkIn
    · cases bulkIn
  global := .inl rfl
  reserved _ := ⟨⟨world.usbEpIn, .bulkIn⟩, by simp [opened.files], rfl⟩
  closed not_open := absurd ⟨⟨world.usbEpIn, .bulkIn⟩, by simp [opened.files], rfl⟩ not_open

private theorem stepWriter_eq_some {transport after : Transport} {event : WriteEvent}
    (stepped : transport.stepWriter event = some after) :
    transport.writer.step event = some after.writer ∧ after.reader = transport.reader ∧
      (∀ result, event = .poll result →
        after.polled = some (transport.writer.fd, result.pollOut)) ∧
      ((∀ result, event ≠ .poll result) → after.polled = transport.polled) ∧
      ∀ fd, event = .start fd → fd = transport.world.usbEpIn := by
  cases event with
  | start fd =>
      obtain ⟨captured, started⟩ := Option.ite_none_right_eq_some.mp stepped
      obtain ⟨writer, moved, rfl⟩ := Option.map_eq_some_iff.mp started
      refine ⟨moved, rfl, by simp, fun _ => rfl, fun other same => ?_⟩
      cases same
      exact captured
  | poll result =>
      obtain ⟨writer, moved, rfl⟩ := Option.map_eq_some_iff.mp stepped
      refine ⟨moved, rfl, fun other same => ?_, fun other => absurd rfl (other result), by simp⟩
      cases same
      rfl
  | _ =>
      simp only [stepWriter, Option.map_eq_some_iff] at stepped
      obtain ⟨writer, moved, rfl⟩ := stepped
      exact ⟨moved, rfl, by simp, fun _ => rfl, by simp⟩

private theorem captures_stepWriter {transport after : Transport} {event : WriteEvent}
    (captures : transport.Captures) (stepped : transport.stepWriter event = some after)
    (reopens : ReopensAlike transport (.writer event) after) : after.Captures := by
  obtain ⟨moved, reader, polled, kept, captured⟩ := stepWriter_eq_some stepped
  have readsOnly : after.reader.ReadsOnly := reader ▸ captures.readsOnly
  cases WriteThread.steps_move (WriteThread.step_eq_some moved) with
  | stays fd pc queued =>
      constructor
      · rw [kept queued, fd, pc]
        exact captures.polled
      · exact readsOnly
      · rw [fd, pc, reader]
        exact captures.holds
  | starts fd pc =>
      constructor
      · intro at_write
        rw [pc] at at_write
        cases at_write
      · exact readsOnly
      · intro _
        obtain ⟨opened, idle⟩ := reopens
        rw [fd, captured _ rfl, reader]
        refine ⟨(opened.valid _ (by simp)).1, held_of_allOpen opened, fun program here => ?_⟩
        simp [ReadThread.isRecovering, here] at idle
  | polls at_poll fd ready =>
      constructor
      · intro at_write
        rw [polled _ rfl, fd, ready at_write]
      · exact readsOnly
      · intro _
        rw [fd, reader]
        exact captures.holds (by simp [at_poll])
  | onward started onward =>
      constructor
      · intro at_write
        exact absurd at_write onward.elsewhere
      · exact readsOnly
      · intro _
        rw [onward.fd, reader]
        exact captures.holds started

private theorem captures_step {transport after : Transport} {event : TransportEvent}
    (captures : transport.Captures) (stepped : transport.step conf maxRetry event = some after)
    (reopens : ReopensAlike transport event after) : after.Captures := by
  cases event with
  | writer event => exact captures_stepWriter captures stepped reopens
  | reader event =>
      obtain ⟨reader, moved, rfl⟩ := Option.map_eq_some_iff.mp stepped
      have steps := ReadThread.step_eq_some moved
      refine ⟨captures.polled, ReadThread.readsOnly_step captures.readsOnly steps,
        fun started => ?_⟩
      obtain ⟨valid, holds⟩ := captures.holds started
      refine ⟨valid, ReadThread.holds_step holds captures.readsOnly steps ?_⟩
      intro answer op same next
      subst same
      rintro rfl fd rfl
      exact reopens started next

private theorem waits_iff_inPlace {transport after : Transport} {event : TransportEvent}
    (captures : transport.Captures) (stepped : transport.step conf maxRetry event = some after) :
    Waits transport event after ↔ InPlace transport event after := by
  match event with
  | .reader _ => exact Iff.rfl
  | .writer (.poll result) =>
      have moved : transport.stepWriter (.poll result) = some after := stepped
      obtain ⟨at_poll, -⟩ := Option.ite_none_right_eq_some.mp (stepWriter_eq_some moved).1
      obtain ⟨-, holds⟩ := captures.holds (by simp [at_poll])
      exact not_iff_comm.mp holds.world.closed_iff.symm
  | .writer (.write result) =>
      apply forall_congr'
      intro at_write
      obtain ⟨valid, holds⟩ := captures.holds (by simp [at_write])
      rw [captures.polled at_write]
      simp only [Option.some.injEq, Prod.mk.injEq, and_true]
      constructor
      · intro same
        rw [← same]
        exact valid
      · intro set
        rcases holds.world.global with same | unset
        · exact same.symm
        · change 0 ≤ transport.reader.world.usbEpIn at set
          omega
  | .writer (.enqueue _) | .writer (.start _) | .writer .testcancel | .writer .cancel
  | .writer .receive | .writer .receiveFailed | .writer .drain | .writer .drained => exact Iff.rfl

private theorem captures_initial (world : UsbWorld) (queue : List MsgqPtr) :
    (initial world queue).Captures :=
  ⟨nofun, ReadThread.readsOnly_elsewhere nofun, fun started => absurd rfl started⟩

/-- When every recovery gets the captured number back, the write thread waits where it
writes in exactly those runs in which it polls and writes between the recoveries, not
after one has closed bulk-in and before it has opened it again. -/
theorem waits_where_it_writes_iff (conf : MtpConfig) (maxRetry : Nat) (world : UsbWorld)
    (queue : List MsgqPtr) (events : List TransportEvent)
    (reopens : Along (step conf maxRetry) ReopensAlike (initial world queue) events) :
    Along (step conf maxRetry) Waits (initial world queue) events ↔
      Along (step conf maxRetry) InPlace (initial world queue) events := by
  refine along_congr (fun before event after captures stepped met => ?_)
    (captures_initial world queue) reopens
  exact ⟨captures_step captures stepped met, waits_iff_inPlace captures stepped⟩

def openDevice : UsbWorld :=
  { UsbWorld.boot [0] with
    usbEpIn := 3, usbEpOut := 4, usbEpStatus := 5, pktSize := ⟨512, 512⟩
    openFiles := [⟨3, .bulkIn⟩, ⟨4, .bulkOut⟩, ⟨5, .status⟩] }

def readyPacket : List TransportEvent :=
  [.writer (.enqueue ⟨.bulk, 1, some ⟨1, [7]⟩⟩), .writer (.start 3), .writer .testcancel,
   .writer .receive, .writer (.poll (.returned 1 true))]

def failedRead : List ReadEvent :=
  [.start, .testcancel, .malloc 2 [], .usb .memory, .usb (.readFailed .eio), .usb .memory,
    .usb (.usbConnected true)]

def recoveryTo (bulkIn bulkOut status : Int) : List TransportEvent :=
  (failedRead ++ (closedAnswers ++ openedAnswers bulkIn bulkOut status).map ReadEvent.usb).map
    TransportEvent.reader

/-- The packet is polled for on descriptor 3 and goes to descriptor 6. -/
theorem writes_elsewhere_after_recovery :
    ∃ before after,
      run (step smallConfig 5) (initial openDevice []) (readyPacket ++ recoveryTo 6 7 8) =
        some before ∧
      before.step smallConfig 5 (.writer (.write (.accepted 1))) = some after ∧
      before.polled = some (3, true) ∧ before.world.usbEpIn = 6 ∧
      before.world.Closed before.writer.fd ∧
      ¬ Along (step smallConfig 5) Waits (initial openDevice [])
        (readyPacket ++ recoveryTo 6 7 8 ++ [.writer (.write (.accepted 1))]) := by
  have reached : run (step smallConfig 5) (initial openDevice [])
      (readyPacket ++ recoveryTo 6 7 8) = some _ := rfl
  refine ⟨_, _, reached, rfl, rfl, rfl, by decide, fun along => ?_⟩
  have same := ((along_snoc reached rfl).mp along).2 rfl
  exact absurd same (by decide)

theorem waits_where_it_writes_after_recovery :
    Along (step smallConfig 5) Waits (initial openDevice [])
      (readyPacket ++ recoveryTo 3 7 8 ++ [.writer (.write (.accepted 1))]) := by
  refine (waits_where_it_writes_iff smallConfig 5 openDevice [] _ ?_).mpr ?_
  · decide
  · decide

end Transport

end VelaExternal.MtpResponder
