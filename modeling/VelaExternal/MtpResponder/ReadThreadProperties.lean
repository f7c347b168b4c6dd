import VelaExternal.MtpResponder.ReadThread
import VelaExternal.Systems.History
import Mathlib.Data.List.Infix

/-! What the read thread puts on its queue. A read that delivers bytes ends the
recovery it is part of, so every read leads to one attempt to send; a failed
attempt loses the bytes and does not stop the thread. -/

set_option autoImplicit false

namespace VelaExternal.MtpResponder

open Systems

/-!
## Reads of the recovery
-/

def UsbOp.NotRead (op : UsbOp) : Prop := ∀ fd size, op ≠ .read fd size

/-- The program ends with the first read that delivers bytes, and reports their
number; without such a read it reports none. -/
inductive DeliversOnce : UsbProgram Int → Prop where
  | finish {status : Int} (nothing : status ≤ 0) : DeliversOnce (.finish status)
  | read {fd : Int} {size : Nat} {next : Int → UsbProgram Int}
      (delivered : ∀ status, 0 < status → next status = .finish status)
      (retried : ∀ status, status ≤ 0 → DeliversOnce (next status)) :
      DeliversOnce (.call (.read fd size) next)
  | other {op : UsbOp} {next : op.Reply → UsbProgram Int} (not_read : op.NotRead)
      (rest : ∀ reply, DeliversOnce (next reply)) : DeliversOnce (.call op next)

private theorem deliversOnce_bind {Value : Type} {program : UsbProgram Value}
    {continuation : Value → UsbProgram Int} (readless : program.Only UsbOp.NotRead)
    (rest : ∀ value, DeliversOnce (continuation value)) :
    DeliversOnce (program >>= continuation) := by
  induction program with
  | finish value => exact rest value
  | call op next ih => exact .other readless.1 fun reply => ih reply (readless.2 reply)

private theorem readBulkOut_deliversOnce (size : Nat) : DeliversOnce (readBulkOut size) :=
  .other (by nofun) fun _ => .read (fun _ _ => rfl) fun _ nothing => .finish nothing

private theorem readAgain_deliversOnce (bufLen : Int) {again : Int → UsbProgram Int}
    (rest : ∀ err, err ≤ 0 → DeliversOnce (again err)) : DeliversOnce (readAgain bufLen again) := by
  refine .other (by nofun) fun _ => .read (fun status delivered => ?_) fun status nothing => ?_
  · exact if_pos delivered
  · change DeliversOnce (if status > 0 then pure status else again status)
    rw [if_neg (Int.not_lt.mpr nothing)]
    exact rest status nothing

private theorem loadErrno_readless : loadErrno.Only UsbOp.NotRead := by
  simp [loadErrno, UsbOp.NotRead]

private theorem usbConnected_readless : usbConnected.Only UsbOp.NotRead := by
  simp [usbConnected, UsbOp.NotRead]

/-- The operations that opening and closing the endpoints is made of. -/
def UsbOp.OnDescriptors : UsbOp → Prop
  | .read _ _ | .errno | .usbStatus => False
  | _ => True

theorem UsbOp.OnDescriptors.notRead {op : UsbOp} (on_descriptors : op.OnDescriptors) :
    op.NotRead := by
  rintro fd size rfl
  exact on_descriptors

private theorem releaseEndpoint_onDescriptors (endpoint : Endpoint) :
    (releaseEndpoint endpoint).Only UsbOp.OnDescriptors := by
  simp [releaseEndpoint, loadDescriptor, storeDescriptor, closeDescriptor, UsbOp.OnDescriptors]

theorem ffsTransportDeinitUsbDevice_onDescriptors :
    ffsTransportDeinitUsbDevice.Only UsbOp.OnDescriptors :=
  Program.only_bind (releaseEndpoint_onDescriptors .bulkIn) fun _ =>
    Program.only_bind (releaseEndpoint_onDescriptors .bulkOut) fun _ =>
      releaseEndpoint_onDescriptors .status

private theorem ioInit_onDescriptors : ioInit.Only UsbOp.OnDescriptors := by
  simp [ioInit, loadDescriptor, storeDescriptor, closeDescriptor, openEndpoint,
    UsbOp.OnDescriptors]

theorem ffsTransportInitUsbDevice_onDescriptors (conf : MtpConfig) :
    (ffsTransportInitUsbDevice conf).Only UsbOp.OnDescriptors := by
  apply Program.only_bind (Program.only_perform.mpr trivial)
  intro fd
  split
  · trivial
  · apply Program.only_bind ioInit_onDescriptors
    intro opened
    split
    · trivial
    · exact Program.only_bind (Program.only_perform.mpr trivial) fun _ => trivial

private theorem ffsTransportDeinitUsbDevice_readless :
    ffsTransportDeinitUsbDevice.Only UsbOp.NotRead :=
  ffsTransportDeinitUsbDevice_onDescriptors.mono fun _ => UsbOp.OnDescriptors.notRead

private theorem ffsTransportInitUsbDevice_readless (conf : MtpConfig) :
    (ffsTransportInitUsbDevice conf).Only UsbOp.NotRead :=
  (ffsTransportInitUsbDevice_onDescriptors conf).mono fun _ => UsbOp.OnDescriptors.notRead

private theorem handleUsbReadErr_deliversOnce (conf : MtpConfig) (bufLen : Int) (remaining : Nat)
    {err : Int} (nothing : err ≤ 0) :
    DeliversOnce (handleUsbReadErr conf bufLen remaining err) := by
  induction remaining generalizing err with
  | zero => exact .finish nothing
  | succ remaining ih =>
      have again : DeliversOnce (readAgain bufLen (handleUsbReadErr conf bufLen remaining)) :=
        readAgain_deliversOnce bufLen fun err nothing => ih nothing
      unfold handleUsbReadErr
      split
      · exact again
      · split
        · exact .finish nothing
        · apply deliversOnce_bind loadErrno_readless
          intro errno
          cases errno with
          | eintr => exact again
          | eshutdown => exact again
          | eio =>
              apply deliversOnce_bind usbConnected_readless
              intro connected
              cases connected with
              | false => exact .finish nothing
              | true =>
                  rw [if_neg (by decide)]
                  apply deliversOnce_bind ffsTransportDeinitUsbDevice_readless
                  intro _
                  apply deliversOnce_bind (ffsTransportInitUsbDevice_readless conf)
                  intro opened
                  cases opened with
                  | false => exact ih nothing
                  | true => exact again
          | _ => exact .finish nothing

/-- One step of such a program: bytes are delivered and it is over, or nothing is. -/
inductive Delivery (world : UsbWorld) : UsbWorld → UsbProgram Int → Prop where
  | delivered (bytes : List UInt8) (nonempty : bytes ≠ []) :
      Delivery world (world.deliver bytes) (.finish bytes.length)
  | nothing {after : UsbWorld} {rest : UsbProgram Int} (received : after.received = world.received)
      (once : DeliversOnce rest) : Delivery world after rest

@[simp] theorem received_assign (world : UsbWorld) (endpoint : Endpoint) (fd : Int) :
    (world.assign endpoint fd).received = world.received := by
  cases endpoint <;> rfl

theorem handle_received {world after : UsbWorld} {op : UsbOp} {event : UsbEvent} {reply : op.Reply}
    (not_read : op.NotRead) (handled : world.handle op event = some (reply, after)) :
    after.received = world.received := by
  cases op <;> cases event <;> simp only [UsbWorld.handle, Option.some.injEq, Prod.mk.injEq,
    Option.ite_none_right_eq_some, reduceCtorEq] at handled
  case read fd size _ => exact absurd rfl (not_read fd size)
  all_goals grind [UsbWorld.openFile, UsbWorld.setErrno, UsbWorld.close, received_assign,
    UsbWorld.setSizes]

theorem DeliversOnce.step {program rest : UsbProgram Int} {world after : UsbWorld}
    {event : UsbEvent} (once : DeliversOnce program)
    (stepped : Program.step UsbWorld.handle (world, program) event = some (after, rest)) :
    Delivery world after rest := by
  cases once with
  | finish nothing => cases stepped
  | other not_read later =>
      simp only [Program.step, Option.map_eq_some_iff, Prod.mk.injEq] at stepped
      obtain ⟨⟨reply, middle⟩, handled, rfl, rfl⟩ := stepped
      exact .nothing (handle_received not_read handled) (later reply)
  | read delivered retried =>
      simp only [Program.step, Option.map_eq_some_iff, Prod.mk.injEq] at stepped
      obtain ⟨⟨reply, middle⟩, handled, rfl, rfl⟩ := stepped
      cases event <;> simp only [UsbWorld.handle, Option.some.injEq, Prod.mk.injEq,
        Option.ite_none_right_eq_some, reduceCtorEq] at handled
      case readFailed errno =>
        obtain ⟨rfl, rfl⟩ := handled
        exact .nothing rfl (retried (-1) (by decide))
      case readBytes bytes =>
        obtain ⟨-, rfl, rfl⟩ := handled
        by_cases empty : bytes = []
        · subst empty
          exact .nothing rfl (retried 0 (Int.le_refl 0))
        · rw [delivered bytes.length (by exact_mod_cast List.length_pos_iff.mpr empty)]
          exact .delivered bytes empty

namespace ReadThread

/-!
## Steps of the thread
-/

/-- How a step of a read or of a recovery ends. -/
inductive UsbOutcome (thread : ReadThread) : ReadThread → Prop where
  | delivered (bytes : List UInt8) (nonempty : bytes ≠ []) :
      UsbOutcome thread
        { thread with
          world := thread.world.deliver bytes
          status := bytes.length, length := bytes.length, pc := .send }
  | reading {world : UsbWorld} {program : UsbProgram Int}
      (received : world.received = thread.world.received) (once : DeliversOnce program) :
      UsbOutcome thread { thread with world, pc := .reading program }
  | recovering {world : UsbWorld} {program : UsbProgram Int} (status : Int)
      (received : world.received = thread.world.received) (once : DeliversOnce program) :
      UsbOutcome thread { thread with world, status, pc := .recovering program }
  | failed {world : UsbWorld} (status : Int)
      (received : world.received = thread.world.received) :
      UsbOutcome thread { thread with world, status }.freeBuffer.cleanUpMsgQueue

variable {conf : MtpConfig} {maxRetry : Nat}

theorem afterRecovery_outcome {thread : ReadThread} {world : UsbWorld} {rest : UsbProgram Int}
    (delivery : Delivery thread.world world rest) (status : Int) :
    UsbOutcome thread ({ thread with world, status }.afterRecovery rest) := by
  cases delivery with
  | delivered bytes nonempty =>
      have positive : 0 < bytes.length := List.length_pos_iff.mpr nonempty
      rw [afterRecovery, if_neg (by omega)]
      exact .delivered bytes nonempty
  | nothing received once =>
      cases rest with
      | call op next => exact .recovering status received once
      | finish result =>
          cases once with
          | finish failed =>
              rw [afterRecovery, if_pos failed]
              exact .failed result received

theorem afterRead_outcome {thread : ReadThread} {world : UsbWorld} {rest : UsbProgram Int}
    (delivery : Delivery thread.world world rest) :
    UsbOutcome thread (afterRead conf maxRetry { thread with world } rest) := by
  cases delivery with
  | delivered bytes nonempty =>
      have positive : 0 < bytes.length := List.length_pos_iff.mpr nonempty
      rw [afterRead, if_neg (by omega)]
      exact .delivered bytes nonempty
  | nothing received once =>
      cases rest with
      | call op next => exact .reading received once
      | finish result =>
          cases once with
          | finish failed =>
              rw [afterRead, if_pos failed]
              exact afterRecovery_outcome
                (.nothing received (handleUsbReadErr_deliversOnce conf _ maxRetry failed)) result

inductive Steps (conf : MtpConfig) (maxRetry : Nat) (thread : ReadThread) :
    ReadEvent → ReadThread → Prop where
  | start (at_start : thread.pc = .start) :
      Steps conf maxRetry thread .start
        { thread with rxSize := thread.world.pktSize.rx, pc := .testcancel }
  | testcancel (at_test : thread.pc = .testcancel) :
      Steps conf maxRetry thread .testcancel { thread with pc := .malloc }
  | cancel (at_point : thread.atCancellationPoint = true) :
      Steps conf maxRetry thread .cancel { thread with buffer := none }.cleanUpMsgQueue
  | malloc (block : Nat) (bytes : List UInt8) (at_malloc : thread.pc = .malloc)
      (fresh : block ∉ thread.allocated ++ thread.earlier.flatMap MsgqPtr.blocks) :
      Steps conf maxRetry thread (.malloc block bytes)
        { thread with
          buffer := some block, allocated := thread.allocated ++ [block]
          world := { thread.world with rxBuffer := bytes }
          pc := .reading (readBulkOut thread.rxSize) }
  | mallocFailed (at_malloc : thread.pc = .malloc) :
      Steps conf maxRetry thread .mallocFailed thread.cleanUpMsgQueue
  | reading (event : UsbEvent) (program rest : UsbProgram Int) (world : UsbWorld)
      (at_read : thread.pc = .reading program)
      (stepped : Program.step UsbWorld.handle (thread.world, program) event = some (world, rest)) :
      Steps conf maxRetry thread (.usb event) (afterRead conf maxRetry { thread with world } rest)
  | recovering (event : UsbEvent) (program rest : UsbProgram Int) (world : UsbWorld)
      (at_recovery : thread.pc = .recovering program)
      (stepped : Program.step UsbWorld.handle (thread.world, program) event = some (world, rest)) :
      Steps conf maxRetry thread (.usb event) ({ thread with world }.afterRecovery rest)
  | sent (at_send : thread.pc = .send) :
      Steps conf maxRetry thread .sent thread.putPacket.nextIteration
  | sendFailed (at_send : thread.pc = .send) :
      Steps conf maxRetry thread .sendFailed thread.freeBuffer.nextIteration
  | drain (head : MsgqPtr) (rest : List MsgqPtr) (at_cleanUp : thread.pc = .cleanUp)
      (queue : thread.queue = head :: rest) :
      Steps conf maxRetry thread .drain (thread.drainMessage head rest)
  | drained (at_cleanUp : thread.pc = .cleanUp) :
      Steps conf maxRetry thread .drained { thread with pc := .finished }
  | consume (head : MsgqPtr) (rest : List MsgqPtr) (queue : thread.queue = head :: rest) :
      Steps conf maxRetry thread .consume
        { thread with queue := rest, consumed := thread.consumed ++ [head] }

theorem step_eq_some {thread after : ReadThread} {event : ReadEvent}
    (stepped : thread.step conf maxRetry event = some after) :
    Steps conf maxRetry thread event after := by
  cases event with
  | cancel =>
      obtain ⟨at_point, same⟩ := Option.ite_none_right_eq_some.mp stepped
      obtain rfl := Option.some.inj same
      exact .cancel at_point
  | consume =>
      cases queue : thread.queue <;> simp only [step, queue, Option.some.injEq,
        reduceCtorEq] at stepped
      exact stepped ▸ .consume _ _ queue
  | drain =>
      cases at_cleanUp : thread.pc <;> cases queue : thread.queue <;>
        simp only [step, at_cleanUp, queue, Option.some.injEq, reduceCtorEq] at stepped
      exact stepped ▸ .drain _ _ at_cleanUp queue
  | malloc block bytes =>
      cases at_malloc : thread.pc <;> simp only [step, at_malloc, Option.ite_none_left_eq_some,
        Option.some.injEq, reduceCtorEq] at stepped
      exact stepped.2 ▸ .malloc block bytes at_malloc stepped.1
  | usb event =>
      cases at_pc : thread.pc <;> simp only [step, at_pc, Option.map_eq_some_iff,
        reduceCtorEq] at stepped
      case reading program =>
        obtain ⟨⟨world, rest⟩, performed, rfl⟩ := stepped
        exact .reading event program rest world at_pc performed
      case recovering program =>
        obtain ⟨⟨world, rest⟩, performed, rfl⟩ := stepped
        exact .recovering event program rest world at_pc performed
  | start | testcancel | mallocFailed | sent | sendFailed | drained =>
      cases at_pc : thread.pc <;> simp only [step, at_pc, Option.some.injEq,
        reduceCtorEq] at stepped
      exact stepped ▸ by constructor; exact at_pc

/-!
## The stream on the receive queue
-/

/-- Every message carries the bytes of one read; the messages are the first reads, in order. -/
structure Gapless (thread : ReadThread) : Prop where
  exact_bytes : ∀ sent ∈ thread.sent,
    thread.world.received[sent.read]? = some sent.message.payload
  in_order : thread.sent.map Sent.read = List.range thread.sent.length
  stream : (thread.sent.map (·.message.payload)).flatten <+: thread.world.received.flatten

/-- No message is queued after one that could not be queued. -/
def NothingSentAfterLoss (events : List ReadEvent) : Prop :=
  NoneAfter (fun lost => lost = .sendFailed) (fun _ later => later = .sent) events

/-- A packet to send is in its buffer, and comes from the last read. -/
structure Filled (thread : ReadThread) : Prop where
  buffer : thread.buffer.isSome = true
  status : 0 < thread.status
  bytes : ∃ bytes, thread.world.received.getLast? = some bytes ∧
    thread.world.rxBuffer.take thread.length = bytes

/-- What the thread has in hand at each of its places. -/
def Position (thread : ReadThread) : Prop :=
  match thread.pc with
  | .reading program | .recovering program => thread.buffer.isSome = true ∧ DeliversOnce program
  | .send => thread.Filled
  | _ => True

private theorem position_usbOutcome {thread after : ReadThread} (outcome : UsbOutcome thread after)
    (buffer : thread.buffer.isSome = true) : after.Position := by
  cases outcome with
  | delivered bytes nonempty =>
      have positive : 0 < bytes.length := List.length_pos_iff.mpr nonempty
      refine ⟨buffer, Int.natCast_pos.mpr positive, bytes, ?_, ?_⟩
      · simp [UsbWorld.deliver, nonempty]
      · simp [UsbWorld.deliver]
  | reading received once => exact ⟨buffer, once⟩
  | recovering status received once => exact ⟨buffer, once⟩
  | failed status received => trivial

private theorem position_nextIteration {thread : ReadThread} : thread.nextIteration.Position := by
  unfold nextIteration
  split <;> trivial

theorem position_step {thread after : ReadThread} {event : ReadEvent}
    (position : thread.Position) (steps : Steps conf maxRetry thread event after) :
    after.Position := by
  cases steps with
  | reading event program rest world at_read stepped =>
      simp only [Position, at_read] at position
      exact position_usbOutcome (afterRead_outcome (position.2.step stepped)) position.1
  | recovering event program rest world at_recovery stepped =>
      simp only [Position, at_recovery] at position
      exact position_usbOutcome (afterRecovery_outcome (position.2.step stepped) _) position.1
  | malloc block bytes at_malloc fresh => exact ⟨rfl, readBulkOut_deliversOnce _⟩
  | sent at_send => exact position_nextIteration
  | sendFailed at_send => exact position_nextIteration
  | consume head rest queue =>
      revert position
      obtain ⟨pc⟩ := thread
      cases pc <;> first | exact id | exact fun filled => { filled with }
  | drain head rest at_cleanUp queue => simp only [Position, drainMessage, at_cleanUp]
  | _ => trivial

/-- The reads that have delivered bytes which are not on their way to the queue yet. -/
def pending (thread : ReadThread) : Nat :=
  match thread.pc with
  | .send => 1
  | _ => 0

def InOrder (sent : List Sent) : Prop := sent.map Sent.read = List.range sent.length

private theorem inOrder_snoc {sent : List Sent} {last : Sent} :
    InOrder (sent ++ [last]) ↔ InOrder sent ∧ last.read = sent.length := by
  simp only [InOrder, List.map_append, List.map_cons, List.map_nil, List.length_append,
    List.length_cons, List.length_nil, Nat.zero_add, List.range_succ]
  constructor
  · intro same
    obtain ⟨earlier, final⟩ := List.append_inj' same rfl
    exact ⟨earlier, List.singleton_inj.mp final⟩
  · rintro ⟨earlier, final⟩
    rw [earlier, final]

/-- The packets that were queued, against the reads and the failed attempts so far. -/
inductive Loss (past : List ReadEvent) (thread : ReadThread) : Prop where
  | intact (kept : .sendFailed ∉ past) (in_order : InOrder thread.sent)
      (count : thread.world.received.length = thread.sent.length + thread.pending)
  | lost (failed : .sendFailed ∈ past) (nothing : NothingSentAfterLoss past)
      (in_order : InOrder thread.sent)
      (count : thread.sent.length + thread.pending < thread.world.received.length)
  | gap (passed : ¬ NothingSentAfterLoss past) (out_of_order : ¬ InOrder thread.sent)

private theorem loss_initial (world : UsbWorld) (queue : List MsgqPtr) : Loss [] (initial world queue) :=
  .intact List.not_mem_nil rfl rfl

theorem Loss.verdict {past : List ReadEvent} {thread : ReadThread} (loss : Loss past thread) :
    InOrder thread.sent ↔ NothingSentAfterLoss past := by
  cases loss with
  | intact kept in_order count =>
      exact iff_of_true in_order (noneAfter_of_unmarked fun event member failed =>
        kept (failed ▸ member))
  | lost failed nothing in_order count => exact iff_of_true in_order nothing
  | gap passed out_of_order => exact iff_of_false out_of_order passed

/-- A step that attempts to send nothing. -/
theorem Loss.quiet {past : List ReadEvent} {thread after : ReadThread} {event : ReadEvent}
    (loss : Loss past thread) (not_sent : event ≠ .sent) (not_failed : event ≠ .sendFailed)
    (sent : after.sent = thread.sent)
    (count : ∃ delivered, after.world.received.length = thread.world.received.length + delivered ∧
      after.pending = thread.pending + delivered) :
    Loss (past ++ [event]) after := by
  obtain ⟨delivered, received, pending⟩ := count
  have events : NothingSentAfterLoss (past ++ [event]) ↔ NothingSentAfterLoss past :=
    noneAfter_snoc_harmless fun _ => not_sent
  cases loss with
  | intact kept in_order count =>
      refine .intact ?_ (sent ▸ in_order) (by rw [sent]; omega)
      simp only [List.mem_append, List.mem_singleton, not_or]
      exact ⟨kept, not_failed.symm⟩
  | lost failed nothing in_order count =>
      exact .lost (List.mem_append_left _ failed) (events.mpr nothing) (sent ▸ in_order)
        (by rw [sent]; omega)
  | gap passed out_of_order =>
      exact .gap (fun nothing => passed (events.mp nothing)) (sent ▸ out_of_order)

private theorem loss_sendFailed {past : List ReadEvent} {thread after : ReadThread}
    (loss : Loss past thread) (at_send : thread.pc = .send) (sent : after.sent = thread.sent)
    (received : after.world.received = thread.world.received) (pending : after.pending = 0) :
    Loss (past ++ [.sendFailed]) after := by
  have here : thread.pending = 1 := by rw [ReadThread.pending, at_send]
  have occurred : ReadEvent.sendFailed ∈ past ++ [.sendFailed] := by simp
  have events : NothingSentAfterLoss (past ++ [.sendFailed]) ↔ NothingSentAfterLoss past :=
    noneAfter_snoc_harmless fun _ => (by simp)
  cases loss with
  | intact kept in_order count =>
      refine .lost occurred (events.mpr (noneAfter_of_unmarked fun event member failed =>
        kept (failed ▸ member))) (sent ▸ in_order) ?_
      rw [sent, received, pending, count, here]
      omega
  | lost failed nothing in_order count =>
      refine .lost occurred (events.mpr nothing) (sent ▸ in_order) ?_
      rw [sent, received, pending]
      omega
  | gap passed out_of_order =>
      exact .gap (fun nothing => passed (events.mp nothing)) (sent ▸ out_of_order)

private theorem loss_sent {past : List ReadEvent} {thread after : ReadThread} {last : Sent}
    (loss : Loss past thread) (at_send : thread.pc = .send)
    (sent : after.sent = thread.sent ++ [last])
    (source : last.read = thread.world.received.length - 1)
    (received : after.world.received = thread.world.received) (pending : after.pending = 0) :
    Loss (past ++ [.sent]) after := by
  have here : thread.pending = 1 := by rw [ReadThread.pending, at_send]
  cases loss with
  | intact kept in_order count =>
      refine .intact (by simp [kept]) ?_ ?_
      · rw [sent]
        exact inOrder_snoc.mpr ⟨in_order, by omega⟩
      · rw [sent, received, pending, count, here, List.length_append, List.length_singleton]
  | lost failed nothing in_order count =>
      refine .gap (not_noneAfter_snoc failed rfl rfl) ?_
      rw [sent, inOrder_snoc]
      rintro ⟨_, same⟩
      omega
  | gap passed out_of_order =>
      refine .gap (fun nothing => passed (noneAfter_snoc.mp nothing).1) ?_
      rw [sent, inOrder_snoc]
      exact fun same => out_of_order same.1

private theorem usbOutcome_received {thread after : ReadThread} (outcome : UsbOutcome thread after) :
    ∃ delivered, after.world.received = thread.world.received ++ delivered ∧
      after.pending = delivered.length ∧ after.sent = thread.sent := by
  cases outcome with
  | delivered bytes nonempty =>
      exact ⟨[bytes], by simp [UsbWorld.deliver, nonempty], rfl, rfl⟩
  | reading received once => exact ⟨[], by simp [received], rfl, rfl⟩
  | recovering status received once => exact ⟨[], by simp [received], rfl, rfl⟩
  | failed status received => exact ⟨[], received.trans (List.append_nil _).symm, rfl, rfl⟩

@[simp] theorem sent_nextIteration (thread : ReadThread) :
    thread.nextIteration.sent = thread.sent := by
  unfold nextIteration
  split <;> rfl

@[simp] theorem world_nextIteration (thread : ReadThread) :
    thread.nextIteration.world = thread.world := by
  unfold nextIteration
  split <;> rfl

private theorem pending_nextIteration (thread : ReadThread) : thread.nextIteration.pending = 0 := by
  unfold nextIteration
  split <;> rfl

/-- Every message carries the bytes of the read that it names. -/
def Exact (thread : ReadThread) : Prop :=
  ∀ sent ∈ thread.sent, thread.world.received[sent.read]? = some sent.message.payload

theorem Exact.later {thread after : ReadThread} (exact_bytes : thread.Exact)
    (sent : after.sent = thread.sent) {delivered : List (List UInt8)}
    (received : after.world.received = thread.world.received ++ delivered) : after.Exact := by
  intro entry member
  rw [sent] at member
  have source := exact_bytes entry member
  have bound := (List.getElem?_eq_some_iff.mp source).1
  rw [received, List.getElem?_append_left bound]
  exact source

private theorem exact_sent {thread : ReadThread} (exact_bytes : thread.Exact) (filled : thread.Filled) :
    thread.putPacket.nextIteration.Exact := by
  intro entry member
  rw [world_nextIteration]
  rw [sent_nextIteration] at member
  rcases List.mem_append.mp member with member | member
  · exact exact_bytes entry member
  · obtain rfl := List.mem_singleton.mp member
    obtain ⟨block, buffer⟩ := Option.isSome_iff_exists.mp filled.buffer
    obtain ⟨bytes, last, contents⟩ := filled.bytes
    rw [List.getLast?_eq_getElem?] at last
    have payload : thread.packet.payload = bytes := by
      simp [packet, MsgqPtr.payload, bytesAt, buffer, contents]
    exact payload ▸ last

private theorem pending_eq_zero {thread : ReadThread} (elsewhere : thread.pc ≠ .send) :
    thread.pending = 0 := by
  unfold pending
  split
  · exact absurd ‹_› elsewhere
  · rfl

private theorem loss_step {past : List ReadEvent} {thread after : ReadThread} {event : ReadEvent}
    (loss : Loss past thread) (position : thread.Position)
    (steps : Steps conf maxRetry thread event after) : Loss (past ++ [event]) after := by
  have usb {event : UsbEvent} (outcome : UsbOutcome thread after) (elsewhere : thread.pc ≠ .send) :
      Loss (past ++ [.usb event]) after := by
    obtain ⟨delivered, received, pending, sent⟩ := usbOutcome_received outcome
    refine loss.quiet (by simp) (by simp) sent ⟨delivered.length, ?_, ?_⟩
    · rw [received, List.length_append]
    · rw [pending, pending_eq_zero elsewhere, Nat.zero_add]
  cases steps with
  | reading event program rest world at_read stepped =>
      simp only [Position, at_read] at position
      exact usb (afterRead_outcome (position.2.step stepped)) (by simp [at_read])
  | recovering event program rest world at_recovery stepped =>
      simp only [Position, at_recovery] at position
      exact usb (afterRecovery_outcome (position.2.step stepped) _) (by simp [at_recovery])
  | sent at_send =>
      exact loss_sent loss at_send (sent_nextIteration _) rfl (by rw [world_nextIteration]; rfl)
        (pending_nextIteration _)
  | sendFailed at_send =>
      exact loss_sendFailed loss at_send (sent_nextIteration _) (by rw [world_nextIteration]; rfl)
        (pending_nextIteration _)
  | start at_start =>
      exact loss.quiet (by simp) (by simp) rfl ⟨0, rfl, (pending_eq_zero (by simp [at_start])).symm⟩
  | testcancel at_test =>
      exact loss.quiet (by simp) (by simp) rfl ⟨0, rfl, (pending_eq_zero (by simp [at_test])).symm⟩
  | cancel at_point =>
      refine loss.quiet (by simp) (by simp) rfl ⟨0, rfl, (pending_eq_zero fun at_send => ?_).symm⟩
      simp [atCancellationPoint, at_send] at at_point
  | malloc block bytes at_malloc fresh =>
      exact loss.quiet nofun nofun rfl ⟨0, rfl, (pending_eq_zero (by simp [at_malloc])).symm⟩
  | mallocFailed at_malloc =>
      exact loss.quiet nofun nofun rfl ⟨0, rfl, (pending_eq_zero (by simp [at_malloc])).symm⟩
  | drain head rest at_cleanUp queue => exact loss.quiet (by simp) (by simp) rfl ⟨0, rfl, rfl⟩
  | drained at_cleanUp =>
      exact loss.quiet nofun nofun rfl ⟨0, rfl, (pending_eq_zero (by simp [at_cleanUp])).symm⟩
  | consume head rest queue => exact loss.quiet (by simp) (by simp) rfl ⟨0, rfl, rfl⟩

theorem exact_step {thread after : ReadThread} {event : ReadEvent} (exact_bytes : thread.Exact)
    (position : thread.Position) (steps : Steps conf maxRetry thread event after) :
    after.Exact := by
  have usb (outcome : UsbOutcome thread after) : after.Exact := by
    obtain ⟨delivered, received, -, sent⟩ := usbOutcome_received outcome
    exact exact_bytes.later sent received
  cases steps with
  | reading event program rest world at_read stepped =>
      simp only [Position, at_read] at position
      exact usb (afterRead_outcome (position.2.step stepped))
  | recovering event program rest world at_recovery stepped =>
      simp only [Position, at_recovery] at position
      exact usb (afterRecovery_outcome (position.2.step stepped) _)
  | sent at_send =>
      simp only [Position, at_send] at position
      exact exact_sent exact_bytes position
  | sendFailed at_send =>
      refine exact_bytes.later (sent_nextIteration _) (?_ : _ = _ ++ [])
      rw [world_nextIteration, List.append_nil]
      rfl
  | _ => exact exact_bytes

private theorem stream_of_inOrder {thread : ReadThread} (exact_bytes : thread.Exact)
    (in_order : InOrder thread.sent) :
    (thread.sent.map (·.message.payload)).flatten <+: thread.world.received.flatten := by
  have prefix_reads : thread.sent.map (·.message.payload) <+: thread.world.received := by
    rw [List.prefix_iff_getElem?]
    intro index bound
    rw [List.length_map] at bound
    have source := exact_bytes thread.sent[index] (List.getElem_mem bound)
    have position : thread.sent[index].read = index := by
      have named := congrArg (·[index]?) in_order
      simpa [bound] using named
    rw [List.getElem_map, ← source, position]
  exact prefix_reads.flatten

/-- The receive queue has a gap in exactly those runs in which a message was queued
after one that could not be. -/
theorem gapless_iff (conf : MtpConfig) (maxRetry : Nat) (world : UsbWorld) (queue : List MsgqPtr)
    {events : List ReadEvent} {final : ReadThread}
    (reached : run (step conf maxRetry) (initial world queue) events = some final) :
    final.Gapless ↔ NothingSentAfterLoss events := by
  have held : final.Position ∧ final.Exact ∧ Loss events final := by
    refine run_history (fun past thread => thread.Position ∧ thread.Exact ∧ Loss past thread)
      ⟨trivial, by simp [Exact, initial], loss_initial world queue⟩ ?_ reached
    rintro past before event after - ⟨position, exact_bytes, loss⟩ stepped
    have steps := step_eq_some stepped
    exact ⟨position_step position steps, exact_step exact_bytes position steps,
      loss_step loss position steps⟩
  obtain ⟨-, exact_bytes, loss⟩ := held
  rw [← loss.verdict]
  constructor
  · exact Gapless.in_order
  · exact fun in_order => ⟨exact_bytes, in_order, stream_of_inOrder exact_bytes in_order⟩

/-- One pass of the loop in which a read delivers bytes. -/
def received (block : Nat) (bytes : List UInt8) : List ReadEvent :=
  [.testcancel, .malloc block [], .usb .memory, .usb (.readBytes bytes)]

/-- The device is configured, with bulk-out on descriptor 4. -/
def openWorld : UsbWorld :=
  { UsbWorld.boot [0] with usbEpOut := 4, pktSize := ⟨512, 512⟩ }

/-- The second of three chunks does not fit on the queue. -/
def lostChunk : List ReadEvent :=
  .start :: received 1 [10, 20] ++ [.sent] ++ received 2 [30] ++ [.sendFailed] ++
    received 3 [40] ++ [.sent]

def oneReadConfig : MtpConfig := ⟨512, 512, 4096, 512, 512, 16⟩

theorem gapless_before_lost_chunk :
    ∃ final, run (step oneReadConfig 5) (initial openWorld []) (lostChunk.take 11) = some final ∧
      final.world.received = [[10, 20], [30]] ∧ final.Gapless := by
  have nothing : NothingSentAfterLoss (lostChunk.take 11) := by
    unfold NothingSentAfterLoss
    decide
  have reached :
      run (step oneReadConfig 5) (initial openWorld []) (lostChunk.take 11) = some _ := rfl
  exact ⟨_, reached, rfl, (gapless_iff oneReadConfig 5 openWorld [] reached).mpr nothing⟩

/-- The chunk after the lost one is queued: the queue holds 10, 20, 40. -/
theorem gap_after_lost_chunk :
    ∃ final, run (step oneReadConfig 5) (initial openWorld []) lostChunk = some final ∧
      (final.sent.map (·.message.payload)).flatten = [10, 20, 40] ∧
      final.world.received.flatten = [10, 20, 30, 40] ∧ ¬ final.Gapless := by
  refine ⟨_, rfl, rfl, rfl, fun gapless => absurd gapless.in_order ?_⟩
  decide

end ReadThread

end VelaExternal.MtpResponder
