import VelaExternal.MtpResponder.UsbDevice

/-!
# The read thread

`ffs_transport_thread_usb_read` as a machine: it allocates a buffer, reads into
it from the bulk-out endpoint and puts it on the receive queue. The read and
the recovery `__handle_usb_read_err` are programs of which one step performs
one operation, so that other threads can run in between.
-/

set_option autoImplicit false

namespace VelaExternal.MtpResponder

open Systems

/-- `read(g_usb_ep_out, buf, size)`. -/
def readBulkOut (size : Nat) : UsbProgram Int := do
  readDescriptor (← loadDescriptor .bulkOut) size

/-- What an iteration of the recovery ends with. -/
def readAgain (bufLen : Int) (again : Int → UsbProgram Int) : UsbProgram Int := do
  let err ← readBulkOut (toSizeT bufLen)
  if err > 0 then
    return err
  again err

/-- `__handle_usb_read_err` with the iterations that it has left. -/
def handleUsbReadErr (conf : MtpConfig) (bufLen : Int) : Nat → Int → UsbProgram Int
  | 0, err => return err
  | remaining + 1, err => do
      if err = 0 then
        readAgain bufLen (handleUsbReadErr conf bufLen remaining)
      else if err > 0 then
        return err
      else
        match ← loadErrno with
        | .eintr => readAgain bufLen (handleUsbReadErr conf bufLen remaining)
        | .eio =>
            if !(← usbConnected) then
              return err
            ffsTransportDeinitUsbDevice
            if !(← ffsTransportInitUsbDevice conf) then
              -- the next iteration looks at the same error again
              handleUsbReadErr conf bufLen remaining err
            else
              readAgain bufLen (handleUsbReadErr conf bufLen remaining)
        | .eshutdown => readAgain bufLen (handleUsbReadErr conf bufLen remaining)
        | _ => return err

/-- A message put on the receive queue, and the read its bytes come from. -/
structure Sent where
  read : Nat
  message : MsgqPtr
  deriving DecidableEq

inductive ReadPc where
  | start
  | testcancel
  | malloc
  | reading (program : UsbProgram Int)
  | recovering (program : UsbProgram Int)
  | send
  | cleanUp
  | finished

/-- `buffer` is the block in `pkt.buffer` as long as it is the thread's own, and
`allocated` lists all blocks that the thread got; the queue held `earlier` at the start. -/
structure ReadThread where
  pc : ReadPc
  status : Int
  rxSize : Nat
  buffer : Option Nat
  length : Nat
  world : UsbWorld
  queue : List MsgqPtr
  sent : List Sent
  consumed : List MsgqPtr
  earlier : List MsgqPtr
  allocated : List Nat
  freed : List Nat
  cancelTransactions : Nat

inductive ReadEvent where
  | start
  | testcancel
  | cancel
  | malloc (block : Nat) (bytes : List UInt8)
  | mallocFailed
  | usb (event : UsbEvent)
  | sent
  | sendFailed
  | drain
  | drained
  | consume
  deriving DecidableEq

namespace ReadThread

def initial (world : UsbWorld) (queue : List MsgqPtr) : ReadThread where
  pc := .start
  status := 0
  rxSize := 0
  buffer := none
  length := 0
  world := { world with received := [] }
  queue := queue
  sent := []
  consumed := []
  earlier := queue
  allocated := []
  freed := []
  cancelTransactions := 0

def hand (thread : ReadThread) : List Nat := thread.buffer.toList

def freeBuffer (thread : ReadThread) : ReadThread :=
  { thread with buffer := none, freed := thread.freed ++ thread.hand }

/-- The entry of `__clean_up_msg_queue`, which signals `CANCELTRANSACTION`. -/
def cleanUpMsgQueue (thread : ReadThread) : ReadThread :=
  { thread with pc := .cleanUp, cancelTransactions := thread.cancelTransactions + 1 }

/-- The test of `while (status > 0)`. -/
def nextIteration (thread : ReadThread) : ReadThread :=
  if thread.status > 0 then { thread with pc := .testcancel } else thread.cleanUpMsgQueue

/-- A recovery that has come to its end either has bytes to send or ends the loop. -/
def afterRecovery (thread : ReadThread) : UsbProgram Int → ReadThread
  | .finish status =>
      if status ≤ 0 then { thread with status }.freeBuffer.cleanUpMsgQueue
      else { thread with status, length := status.toNat, pc := .send }
  | program => { thread with pc := .recovering program }

def afterRead (conf : MtpConfig) (maxRetry : Nat) (thread : ReadThread) :
    UsbProgram Int → ReadThread
  | .finish status =>
      if status ≤ 0 then
        { thread with status }.afterRecovery
          (handleUsbReadErr conf (toInt32 thread.rxSize) maxRetry status)
      else { thread with status, length := status.toNat, pc := .send }
  | program => { thread with pc := .reading program }

/-- `pkt`, as it is copied into the queue. -/
def packet (thread : ReadThread) : MsgqPtr where
  mtype := .data
  length := thread.length
  buffer := thread.buffer.map fun block => ⟨block, thread.world.rxBuffer⟩

/-- The message on the queue now owns the buffer. -/
def putPacket (thread : ReadThread) : ReadThread :=
  { thread with
    buffer := none
    queue := thread.queue ++ [thread.packet]
    sent := thread.sent ++ [⟨thread.world.received.length - 1, thread.packet⟩] }

/-- One message that the handler receives and frees. -/
def drainMessage (thread : ReadThread) (head : MsgqPtr) (rest : List MsgqPtr) : ReadThread :=
  { thread with queue := rest, freed := thread.freed ++ head.blocks }

/-- A read is a cancellation point, and so is `pthread_testcancel`. -/
def atCancellationPoint (thread : ReadThread) : Bool :=
  match thread.pc with
  | .testcancel | .reading (.call (.read _ _) _) | .recovering (.call (.read _ _) _) => true
  | _ => false

def step (conf : MtpConfig) (maxRetry : Nat) (thread : ReadThread) :
    ReadEvent → Option ReadThread
  | .start =>
      match thread.pc with
      | .start => some { thread with rxSize := thread.world.pktSize.rx, pc := .testcancel }
      | _ => none
  | .testcancel =>
      match thread.pc with
      | .testcancel => some { thread with pc := .malloc }
      | _ => none
  | .cancel =>
      if thread.atCancellationPoint then
        some { thread with buffer := none }.cleanUpMsgQueue
      else none
  | .malloc block bytes =>
      match thread.pc with
      | .malloc =>
          if block ∈ thread.allocated ++ thread.earlier.flatMap MsgqPtr.blocks then none
          else some (afterRead conf maxRetry
            { thread with
              buffer := some block
              allocated := thread.allocated ++ [block]
              world := { thread.world with rxBuffer := bytes } }
            (readBulkOut thread.rxSize))
      | _ => none
  | .mallocFailed =>
      match thread.pc with
      | .malloc => some thread.cleanUpMsgQueue
      | _ => none
  | .usb event =>
      match thread.pc with
      | .reading program =>
          (Program.step UsbWorld.handle (thread.world, program) event).map fun (world, rest) =>
            afterRead conf maxRetry { thread with world } rest
      | .recovering program =>
          (Program.step UsbWorld.handle (thread.world, program) event).map fun (world, rest) =>
            { thread with world }.afterRecovery rest
      | _ => none
  | .sent =>
      match thread.pc with
      | .send => some thread.putPacket.nextIteration
      | _ => none
  | .sendFailed =>
      match thread.pc with
      | .send => some thread.freeBuffer.nextIteration
      | _ => none
  | .drain =>
      match thread.pc, thread.queue with
      | .cleanUp, head :: rest => some (thread.drainMessage head rest)
      | _, _ => none
  | .drained =>
      match thread.pc with
      | .cleanUp => some { thread with pc := .finished }
      | _ => none
  | .consume =>
      match thread.queue with
      | [] => none
      | head :: rest => some { thread with queue := rest, consumed := thread.consumed ++ [head] }

end ReadThread

end VelaExternal.MtpResponder
