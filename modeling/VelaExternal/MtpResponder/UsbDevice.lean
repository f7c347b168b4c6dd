import VelaExternal.MtpResponder.Platform
import VelaExternal.Systems.Program

/-!
# Endpoint descriptors of the USB driver

The three endpoint globals of `mtp_usb_driver_nuttx.c`, the descriptor table of
the process as far as the driver fills it, and the functions that open, close
and reopen the endpoints. Each access to a global is an operation of its own,
since the write thread reads them next to the recovery of the read thread.
-/

set_option autoImplicit false

namespace VelaExternal.MtpResponder

open Systems

inductive Endpoint where
  | bulkIn
  | bulkOut
  | status
  deriving DecidableEq

structure OpenFile where
  fd : Int
  endpoint : Endpoint
  deriving DecidableEq

structure CloseCall where
  fd : Int
  wasOpen : Bool
  deriving DecidableEq

structure PktSize where
  rx : Nat
  tx : Nat
  deriving DecidableEq

/-- The fields of `g_conf` that the driver reads, and `msg_size`. -/
structure MtpConfig where
  readUsbSize : Nat
  writeUsbSize : Nat
  maxIoBufSize : Nat
  maxRxIpcSize : Nat
  maxTxIpcSize : Nat
  msgSize : Nat

/-- The globals of the driver, the descriptors it has open (`inUse` are those
that the process has open for other reasons), every `close` it made, and what
its reads from the bulk-out endpoint delivered. -/
structure UsbWorld where
  usbEpIn : Int
  usbEpOut : Int
  usbEpStatus : Int
  pktSize : PktSize
  rxMqSz : Nat
  txMqSz : Nat
  errno : Errno
  openFiles : List OpenFile
  inUse : List Int
  closes : List CloseCall
  received : List (List UInt8)
  rxBuffer : List UInt8
  deriving DecidableEq

def UsbWorld.descriptor (world : UsbWorld) : Endpoint → Int
  | .bulkIn => world.usbEpIn
  | .bulkOut => world.usbEpOut
  | .status => world.usbEpStatus

def UsbWorld.assign (world : UsbWorld) : Endpoint → Int → UsbWorld
  | .bulkIn, fd => { world with usbEpIn := fd }
  | .bulkOut, fd => { world with usbEpOut := fd }
  | .status, fd => { world with usbEpStatus := fd }

def UsbWorld.openFds (world : UsbWorld) : List Int := world.openFiles.map (·.fd)

def UsbWorld.setErrno (world : UsbWorld) (errno : Errno) : UsbWorld := { world with errno }

def UsbWorld.setSizes (world : UsbWorld) (pktSize : PktSize) (rxMqSz txMqSz : Nat) : UsbWorld :=
  { world with pktSize, rxMqSz, txMqSz }

def UsbWorld.Unused (world : UsbWorld) (fd : Int) : Prop :=
  0 ≤ fd ∧ fd ∉ world.openFds ∧ fd ∉ world.inUse

instance (world : UsbWorld) (fd : Int) : Decidable (world.Unused fd) :=
  inferInstanceAs (Decidable (_ ∧ _))

def UsbWorld.openFile (world : UsbWorld) (fd : Int) (endpoint : Endpoint) : UsbWorld :=
  { world with openFiles := world.openFiles ++ [⟨fd, endpoint⟩] }

/-- `close` releases the number when it is open and otherwise changes no descriptor. -/
def UsbWorld.close (world : UsbWorld) (fd : Int) : UsbWorld :=
  { world with
    openFiles := world.openFiles.filter (·.fd ≠ fd)
    closes := world.closes ++ [⟨fd, decide (fd ∈ world.openFds)⟩] }

/-- A read leaves its bytes at the start of the buffer it was given. -/
def UsbWorld.deliver (world : UsbWorld) (bytes : List UInt8) : UsbWorld :=
  { world with
    received := if bytes = [] then world.received else world.received ++ [bytes]
    rxBuffer := bytes ++ world.rxBuffer.drop bytes.length }

inductive UsbOp where
  | open (endpoint : Endpoint)
  | close (fd : Int)
  | load (endpoint : Endpoint)
  | store (endpoint : Endpoint) (fd : Int)
  | storeSizes (pktSize : PktSize) (rxMqSz txMqSz : Nat)
  | errno
  | usbStatus
  | read (fd : Int) (size : Nat)
  deriving DecidableEq

abbrev UsbOp.Reply : UsbOp → Type
  | .open _ => Int
  | .close _ => Unit
  | .load _ => Int
  | .store _ _ => Unit
  | .storeSizes _ _ _ => Unit
  | .errno => Errno
  | .usbStatus => Bool
  | .read _ _ => Int

/-- What the environment decides about one operation; `memory` is an access to
memory, which it has no say in. -/
inductive UsbEvent where
  | memory
  | opened (fd : Int)
  | openFailed (errno : Errno)
  | closed
  | closeFailed (errno : Errno)
  | usbConnected (connected : Bool)
  | readBytes (bytes : List UInt8)
  | readFailed (errno : Errno)
  deriving DecidableEq

/-- The meaning of the operations. A read returns at most the bytes asked for, and
a count that `mtp_int32` holds. -/
def UsbWorld.handle (world : UsbWorld) :
    (op : UsbOp) → UsbEvent → Option (UsbOp.Reply op × UsbWorld)
  | .open endpoint, .opened fd =>
      if world.Unused fd then some (fd, world.openFile fd endpoint) else none
  | .open _, .openFailed errno => some (-1, world.setErrno errno)
  | .close fd, .closed => some ((), world.close fd)
  | .close fd, .closeFailed errno => some ((), (world.close fd).setErrno errno)
  | .load endpoint, .memory => some (world.descriptor endpoint, world)
  | .store endpoint fd, .memory => some ((), world.assign endpoint fd)
  | .storeSizes pktSize rxMqSz txMqSz, .memory =>
      some ((), world.setSizes pktSize rxMqSz txMqSz)
  | .errno, .memory => some (world.errno, world)
  | .usbStatus, .usbConnected connected => some (connected, world)
  | .read _ size, .readBytes bytes =>
      if bytes.length ≤ size ∧ bytes.length < 2 ^ 31 then
        some (bytes.length, world.deliver bytes)
      else none
  | .read _ _, .readFailed errno => some (-1, world.setErrno errno)
  | _, _ => none

abbrev UsbProgram := Program UsbOp UsbOp.Reply

def openEndpoint (endpoint : Endpoint) : UsbProgram Int := .perform (UsbOp.open endpoint)

def closeDescriptor (fd : Int) : UsbProgram Unit := .perform (UsbOp.close fd)

def loadDescriptor (endpoint : Endpoint) : UsbProgram Int := .perform (UsbOp.load endpoint)

def storeDescriptor (endpoint : Endpoint) (fd : Int) : UsbProgram Unit :=
  .perform (UsbOp.store endpoint fd)

def storeSizes (pktSize : PktSize) (rxMqSz txMqSz : Nat) : UsbProgram Unit :=
  .perform (UsbOp.storeSizes pktSize rxMqSz txMqSz)

def loadErrno : UsbProgram Errno := .perform UsbOp.errno

def usbConnected : UsbProgram Bool := .perform UsbOp.usbStatus

def readDescriptor (fd : Int) (size : Nat) : UsbProgram Int := .perform (UsbOp.read fd size)

/-- `sd_listen_fds` of `mtp_port.c`: no descriptors are passed by a service manager. -/
def sdListenFds (_unsetEnvironment : Int) : Int := 0

def sdListenFdsStart : Int := 3

def ioInit : UsbProgram Bool := do
  if sdListenFds 0 ≥ 4 then
    storeDescriptor .bulkIn (sdListenFdsStart + 1)
    storeDescriptor .bulkOut (sdListenFdsStart + 2)
    storeDescriptor .status (sdListenFdsStart + 3)
    return true
  storeDescriptor .bulkIn (← openEndpoint .bulkIn)
  if (← loadDescriptor .bulkIn) < 0 then
    return false
  storeDescriptor .bulkOut (← openEndpoint .bulkOut)
  if (← loadDescriptor .bulkOut) < 0 then
    -- cleanup_in
    closeDescriptor (← loadDescriptor .bulkIn)
    return false
  storeDescriptor .status (← openEndpoint .status)
  if (← loadDescriptor .status) < 0 then
    -- cleanup_out, falling through to cleanup_in
    closeDescriptor (← loadDescriptor .bulkOut)
    closeDescriptor (← loadDescriptor .bulkIn)
    return false
  return true

def ffsTransportInitUsbDevice (conf : MtpConfig) : UsbProgram Bool := do
  if (← loadDescriptor .bulkIn) > 0 then
    return true
  if !(← ioInit) then
    return false
  storeSizes ⟨conf.readUsbSize, conf.writeUsbSize⟩
    (toUint32 (conf.maxIoBufSize / conf.maxRxIpcSize * conf.msgSize : Nat))
    (toUint32 (conf.maxIoBufSize / conf.maxTxIpcSize * conf.msgSize : Nat))
  return true

/-- The step that `ffs_transport_deinit_usb_device` makes for each of its endpoints. -/
def releaseEndpoint (endpoint : Endpoint) : UsbProgram Unit := do
  if (← loadDescriptor endpoint) ≥ 0 then
    closeDescriptor (← loadDescriptor endpoint)
  storeDescriptor endpoint (-1)

def ffsTransportDeinitUsbDevice : UsbProgram Unit := do
  releaseEndpoint .bulkIn
  releaseEndpoint .bulkOut
  releaseEndpoint .status

inductive DriverFunction where
  | initUsbDevice
  | deinitUsbDevice
  deriving DecidableEq

structure DriverCall where
  function : DriverFunction
  answers : List UsbEvent

/-- The world between two calls, and the result of the last one if it has any. -/
structure DriverState where
  world : UsbWorld
  returned : Option Bool

def DriverState.step (conf : MtpConfig) (state : DriverState) (call : DriverCall) :
    Option DriverState :=
  match call.function with
  | .initUsbDevice =>
      ((ffsTransportInitUsbDevice conf).exec UsbWorld.handle state.world call.answers).map
        fun result => ⟨result.2, some result.1⟩
  | .deinitUsbDevice =>
      (ffsTransportDeinitUsbDevice.exec UsbWorld.handle state.world call.answers).map
        fun result => ⟨result.2, none⟩

/-- The globals as the program starts with them. -/
def UsbWorld.boot (inUse : List Int) : UsbWorld where
  usbEpIn := -1
  usbEpOut := -1
  usbEpStatus := -1
  pktSize := ⟨0, 0⟩
  rxMqSz := 0
  txMqSz := 0
  errno := .other 0
  openFiles := []
  inUse := inUse
  closes := []
  received := []
  rxBuffer := []

def DriverState.boot (inUse : List Int) : DriverState := ⟨.boot inUse, none⟩

end VelaExternal.MtpResponder
