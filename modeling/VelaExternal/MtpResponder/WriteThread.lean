import VelaExternal.MtpResponder.Platform
import VelaExternal.MtpResponder.UsbDevice

/-!
# The write thread

`ffs_transport_thread_usb_write` as a machine whose steps are the calls it makes:
it takes messages off the transmit queue and writes them to the bulk-in and
status endpoints. Other threads put messages on the queue at any time. The
cleanup handler `__clean_up_msg_queue` runs inside the packet loop, at the
normal exit of the thread and after its cancellation.
-/

set_option autoImplicit false

namespace VelaExternal.MtpResponder

inductive PollResult where
  | failed (errno : Errno)
  | returned (ready : Nat) (pollOut : Bool)
  deriving DecidableEq

inductive WriteResult where
  | failed (errno : Errno)
  | accepted (count : Nat)
  deriving DecidableEq

/-- An endpoint accepts at most the bytes it is asked to take. -/
def WriteResult.within (requested : Nat) : WriteResult → Bool
  | .failed _ => true
  | .accepted count => count ≤ requested

/-- What the call returns, as the `mtp_int32` that the thread stores. -/
def WriteResult.status : WriteResult → Int
  | .failed _ => -1
  | .accepted count => toInt32 count

/-- A message on the queue; messages are numbered in the order they are put there. -/
structure Queued where
  serial : Nat
  message : MsgqPtr
  deriving DecidableEq

/-- A `write` call: how many messages had been enqueued, the number of the message
in hand, the buffer, length and position of the thread, and the outcome. -/
structure EndpointWrite where
  endpoint : Endpoint
  enqueued : Nat
  packet : Nat
  buffer : Option Buffer
  len : Nat
  offset : Nat
  requested : Nat
  result : WriteResult
  deriving DecidableEq

def EndpointWrite.bytes (write : EndpointWrite) : List UInt8 :=
  match write.result with
  | .failed _ => []
  | .accepted count => bytesAt write.buffer write.offset count

/-- Where the thread goes on when the queue has been emptied. -/
inductive Resume where
  | packetLoop
  | exit
  | cancelled
  deriving DecidableEq

inductive WritePc where
  | start
  | testcancel
  | receive
  | poll
  | write
  | writeEvent
  | writeZlp
  | cleanUp (resume : Resume)
  | finished
  deriving DecidableEq

/-- The transmit queue, the messages that left it for the thread and the writes that
the thread made; `packet` is the number of the message in hand, and `taken` lists
the buffers of all messages taken off the queue. -/
structure WriteTraffic where
  queue : List Queued
  enqueued : Nat
  packet : Nat
  dequeued : List MsgqPtr
  writes : List EndpointWrite
  taken : List Nat
  deriving DecidableEq

/-- The locals of the thread, `errno`, and the buffers it has freed. -/
structure WriteThread where
  pc : WritePc
  status : Int
  len : Nat
  written : Nat
  fd : Int
  mtpBuf : Option Buffer
  mtype : MsgType
  errno : Errno
  cancelTransactions : Nat
  freed : List Nat
  traffic : WriteTraffic
  deriving DecidableEq

inductive WriteEvent where
  | enqueue (message : MsgqPtr)
  | start (fd : Int)
  | testcancel
  | cancel
  | receive
  | receiveFailed
  | poll (result : PollResult)
  | write (result : WriteResult)
  | drain
  | drained
  deriving DecidableEq

namespace WriteThread

def initial : WriteThread where
  pc := .start
  status := 0
  len := 0
  written := 0
  fd := 0
  mtpBuf := none
  mtype := .undefined
  errno := .other 0
  cancelTransactions := 0
  freed := []
  traffic :=
    { queue := [], enqueued := 0, packet := 0, dequeued := [], writes := [], taken := [] }

def hand (thread : WriteThread) : List Nat := blocksOf thread.mtpBuf

/-- `g_free(mtp_buf); mtp_buf = NULL;` -/
def freeBuffer (thread : WriteThread) : WriteThread :=
  { thread with mtpBuf := none, freed := thread.freed ++ thread.hand }

/-- The entry of `__clean_up_msg_queue`, which signals `CANCELTRANSACTION`. -/
def cleanUpMsgQueue (thread : WriteThread) (resume : Resume) : WriteThread :=
  { thread with pc := .cleanUp resume, cancelTransactions := thread.cancelTransactions + 1 }

/-- The status check at the end of an iteration; leaving the loop runs the handler. -/
def checkStatus (thread : WriteThread) : WriteThread :=
  if thread.status < 0 then thread.cleanUpMsgQueue .exit else { thread with pc := .testcancel }

/-- The test of `while (written != len)` and what follows the loop. -/
def packetLoop (thread : WriteThread) : WriteThread :=
  if thread.written ≠ thread.len then { thread with pc := .poll }
  else ({ thread with written := 0 }.freeBuffer).checkStatus

def dispatch (thread : WriteThread) : WriteThread :=
  match thread.mtype with
  | .bulk | .data => thread.packetLoop
  | .event => { thread with pc := .writeEvent }
  | .zlp => { thread with pc := .writeZlp }
  | .undefined | .other _ => { thread with status := -1 }.checkStatus

def putMessage (thread : WriteThread) (message : MsgqPtr) : WriteThread :=
  { thread with
    traffic.queue := thread.traffic.queue ++ [⟨thread.traffic.enqueued, message⟩]
    traffic.enqueued := thread.traffic.enqueued + 1 }

/-- A successful `_util_rcv_msg_from_mq` sets `mtp_buf`, `len` and `mtype`. -/
def takeMessage (thread : WriteThread) (head : Queued) (rest : List Queued) : WriteThread :=
  { thread with
    mtpBuf := head.message.buffer
    len := head.message.length
    mtype := head.message.mtype
    traffic.queue := rest
    traffic.packet := head.serial
    traffic.dequeued := thread.traffic.dequeued ++ [head.message]
    traffic.taken := thread.traffic.taken ++ head.message.blocks }

def drainMessage (thread : WriteThread) (head : Queued) (rest : List Queued) : WriteThread :=
  { thread with
    freed := thread.freed ++ head.message.blocks
    traffic.queue := rest
    traffic.taken := thread.traffic.taken ++ head.message.blocks }

def afterPoll (thread : WriteThread) : PollResult → WriteThread
  | .failed errno => { thread with status := -1, errno }.packetLoop
  | .returned ready pollOut =>
      if pollOut then { thread with status := ready, pc := .write }
      else { thread with status := ready }.packetLoop

/-- A `write` call, which sets `status` and, when it fails, `errno`. -/
def logWrite (thread : WriteThread) (endpoint : Endpoint) (buffer : Option Buffer)
    (offset requested : Nat) (result : WriteResult) : WriteThread :=
  { thread with
    status := result.status
    errno := match result with
      | .failed errno => errno
      | .accepted _ => thread.errno
    traffic.writes := thread.traffic.writes ++
      [{ endpoint, enqueued := thread.traffic.enqueued, packet := thread.traffic.packet, buffer,
         len := thread.len, offset, requested, result }] }

/-- `len - written` in `mtp_uint32`. -/
def remaining (thread : WriteThread) : Nat := toUint32 (thread.len - thread.written)

def afterWrite (thread : WriteThread) : WriteThread :=
  if thread.status < 0 then
    if thread.errno = .enomem ∨ thread.errno = .ecanceled then
      { thread with status := 0 }.cleanUpMsgQueue .packetLoop
    else thread.packetLoop
  else { thread with written := toUint32 (thread.written + thread.status) }.packetLoop

/-- What follows the loop of the handler that returns; a cancelled thread is over,
and its locals with it. -/
def afterCleanUp (thread : WriteThread) : Resume → WriteThread
  | .packetLoop => thread.packetLoop
  | .exit => { thread.freeBuffer with pc := .finished }
  | .cancelled => { thread with pc := .finished }

/-- The calls at which a pending cancellation takes effect. -/
def atCancellationPoint (thread : WriteThread) : Bool :=
  match thread.pc with
  | .testcancel | .poll | .write | .writeEvent | .writeZlp => true
  | _ => false

def step (thread : WriteThread) : WriteEvent → Option WriteThread
  | .enqueue message => some (thread.putMessage message)
  | .start fd => if thread.pc = .start then some { thread with fd, pc := .testcancel } else none
  | .testcancel => if thread.pc = .testcancel then some { thread with pc := .receive } else none
  | .cancel =>
      if thread.atCancellationPoint then
        some ({ thread with mtpBuf := none }.cleanUpMsgQueue .cancelled)
      else none
  | .receive =>
      if thread.pc = .receive then
        match thread.traffic.queue with
        | [] => none
        | head :: rest => some (thread.takeMessage head rest).dispatch
      else none
  | .receiveFailed => if thread.pc = .receive then some thread.dispatch else none
  | .poll result => if thread.pc = .poll then some (thread.afterPoll result) else none
  | .write result =>
      match thread.pc with
      | .write =>
          if result.within thread.remaining then
            some (thread.logWrite .bulkIn thread.mtpBuf thread.written thread.remaining
              result).afterWrite
          else none
      | .writeEvent =>
          if result.within thread.len then
            some (thread.logWrite .status thread.mtpBuf 0 thread.len result).freeBuffer.checkStatus
          else none
      | .writeZlp =>
          -- the buffer argument is the constant 0xFEE1DEAD, and no byte of it is asked for
          if result.within 0 then
            some (thread.logWrite .bulkIn none 0 0 result).checkStatus
          else none
      | _ => none
  | .drain =>
      match thread.pc, thread.traffic.queue with
      | .cleanUp _, head :: rest => some (thread.drainMessage head rest)
      | _, _ => none
  | .drained =>
      match thread.pc with
      | .cleanUp resume => some (thread.afterCleanUp resume)
      | _ => none

def accepted (thread : WriteThread) : List UInt8 :=
  (thread.traffic.writes.filter (·.endpoint = .bulkIn)).flatMap EndpointWrite.bytes

def packets (thread : WriteThread) : List (List UInt8) :=
  (thread.traffic.dequeued.filter fun message => message.mtype = .bulk ∨ message.mtype = .data).map
    MsgqPtr.payload

end WriteThread

end VelaExternal.MtpResponder
