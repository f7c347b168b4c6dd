import VelaExternal.Systems.Program

/-!
# The Ethernet device of the EtherCAT master

`ether_device_open` and `ether_device_stop` of `nuttx/ethercat.c`: the packet socket that is
embedded in the device, from its creation to the report that the link is up. The socket layer
and `ecdev_set_link` are outside the repository; their results are up to the environment.
-/

set_option autoImplicit false

namespace VelaExternal.Ethercat

open Systems

/-- `ETH_P_ECAT` -/
def ethPEcat : Nat := 0x88A4

/-- What `ether_device_open` takes from the configuration and from the system's headers. -/
structure EtherConfig where
  masterIfname : List UInt8
  devNameSize : Nat
  ifrNameSize : Nat
  iffBroadcast : Nat

/-- `struct ifreq`. Its two numbers share their memory; `ifindex` is not read any more when
`flags` is written. -/
structure Ifreq where
  name : List UInt8
  ifindex : Int
  flags : Nat
  deriving DecidableEq

inductive SockOpt where
  | rcvtimeo (sec usec : Nat)
  | sndtimeo (sec usec : Nat)
  | dontroute (value : Int)
  deriving DecidableEq

inductive IfRequest where
  | siocgifindex
  | siocgifflags
  deriving DecidableEq

/-- `struct sockaddr_ll`, of the family `AF_PACKET`. -/
structure SockaddrLl where
  protocol : Nat
  ifindex : Int
  deriving DecidableEq

structure Bound where
  socket : Nat
  address : SockaddrLl
  deriving DecidableEq

/-- The device and the sockets that its calls opened. `sock` is the socket that the embedded
structure stands for, `overwritten` the open ones that it stood for when it was overwritten,
`links` what was reported through `ecdev_set_link`. -/
structure EtherWorld where
  name : List UInt8
  sock : Option Nat
  openSockets : List Nat
  overwritten : List Nat
  binds : List Bound
  links : List Int
  deriving DecidableEq

namespace EtherWorld

/-- What is lost when the embedded structure is written anew. -/
def forgotten (world : EtherWorld) : List Nat :=
  world.sock.toList.filter (· ∈ world.openSockets)

def openSocket (world : EtherWorld) (socket : Nat) : EtherWorld :=
  { world with
    sock := some socket
    openSockets := world.openSockets ++ [socket]
    overwritten := world.overwritten ++ world.forgotten }

def clearSocket (world : EtherWorld) : EtherWorld :=
  { world with sock := none, overwritten := world.overwritten ++ world.forgotten }

def bindSocket (world : EtherWorld) (address : SockaddrLl) : EtherWorld :=
  { world with
    binds := world.binds ++ world.sock.toList.map fun socket => ⟨socket, address⟩ }

def rename (world : EtherWorld) (name : List UInt8) : EtherWorld := { world with name }

def report (world : EtherWorld) (state : Int) : EtherWorld :=
  { world with links := world.links ++ [state] }

def closeSocket (world : EtherWorld) : EtherWorld :=
  { world with
    sock := none
    openSockets := world.openSockets.filter fun socket => world.sock ≠ some socket }

end EtherWorld

inductive EtherOp where
  | uninitialized
  | socket (protocol : Nat)
  | setsockopt (option : SockOpt)
  | setName (name : List UInt8)
  | ioctl (request : IfRequest) (ifr : Ifreq)
  | bind (address : SockaddrLl)
  | close
  | setLink (state : Int)

abbrev EtherOp.Reply : EtherOp → Type
  | .uninitialized => Ifreq
  | .socket _ => Int
  | .setsockopt _ => Int
  | .setName _ => Unit
  | .ioctl _ _ => Int × Ifreq
  | .bind _ => Int
  | .close => Int
  | .setLink _ => Unit

/-- What the environment decides; `memory` is an access to memory, and `garbage` what a
local variable holds before it is written. A failing `psock_socket` may clear the structure
that it was given. -/
inductive EtherEvent where
  | memory
  | garbage (ifr : Ifreq)
  | socketOpened (socket : Nat)
  | socketFailed (errno : Nat) (cleared : Bool)
  | optionSet (result : Int)
  | indexFound (index : Int)
  | indexFailed (errno : Nat)
  | flagsRead (flags : Nat)
  | flagsFailed (errno : Nat)
  | bound
  | bindFailed (errno : Nat)
  | closed (result : Int)
  | linkSet
  deriving DecidableEq

/-- A failure is a negative error number. -/
def EtherWorld.handle (world : EtherWorld) :
    (op : EtherOp) → EtherEvent → Option (EtherOp.Reply op × EtherWorld)
  | .uninitialized, .garbage ifr => some (ifr, world)
  | .socket _, .socketOpened socket =>
      if socket ∉ world.openSockets then some (0, world.openSocket socket) else none
  | .socket _, .socketFailed errno cleared =>
      if 0 < errno then some (-errno, if cleared then world.clearSocket else world) else none
  | .setsockopt _, .optionSet result => some (result, world)
  | .setName name, .memory => some ((), world.rename name)
  | .ioctl .siocgifindex ifr, .indexFound index => some ((0, { ifr with ifindex := index }), world)
  | .ioctl .siocgifindex ifr, .indexFailed errno =>
      if 0 < errno then some ((-errno, ifr), world) else none
  | .ioctl .siocgifflags ifr, .flagsRead flags => some ((0, { ifr with flags }), world)
  | .ioctl .siocgifflags ifr, .flagsFailed errno =>
      if 0 < errno then some ((-errno, ifr), world) else none
  | .bind address, .bound => some (0, world.bindSocket address)
  | .bind _, .bindFailed errno => if 0 < errno then some (-errno, world) else none
  | .close, .closed result => some (result, world.closeSocket)
  | .setLink state, .linkSet => some ((), world.report state)
  | _, _ => none

abbrev EtherProgram := Program EtherOp EtherOp.Reply

def uninitialized : EtherProgram Ifreq := .perform EtherOp.uninitialized

def psockSocket (protocol : Nat) : EtherProgram Int := .perform (EtherOp.socket protocol)

def psockSetsockopt (option : SockOpt) : EtherProgram Int := .perform (EtherOp.setsockopt option)

def setName (name : List UInt8) : EtherProgram Unit := .perform (EtherOp.setName name)

def psockIoctl (request : IfRequest) (ifr : Ifreq) : EtherProgram (Int × Ifreq) :=
  .perform (EtherOp.ioctl request ifr)

def psockBind (address : SockaddrLl) : EtherProgram Int := .perform (EtherOp.bind address)

def psockClose : EtherProgram Int := .perform EtherOp.close

def ecdevSetLink (state : Int) : EtherProgram Unit := .perform (EtherOp.setLink state)

/-- The end of `ether_device_open`, from `psock_bind` on. -/
def bindAndReport (address : SockaddrLl) : EtherProgram Int := do
  let ret ← psockBind address
  if ret < -1 then
    let _ ← psockClose
    return ret
  ecdevSetLink 1
  return 0

def etherDeviceOpen (conf : EtherConfig) : EtherProgram Int := do
  let ifr ← uninitialized
  let ret ← psockSocket ethPEcat
  if ret < 0 then
    return ret
  let _ ← psockSetsockopt (.rcvtimeo 0 1)
  let _ ← psockSetsockopt (.sndtimeo 0 1)
  let _ ← psockSetsockopt (.dontroute 1)
  setName (conf.masterIfname.take (conf.devNameSize - 1))
  let named : Ifreq := { ifr with name := conf.masterIfname.take (conf.ifrNameSize - 1) }
  -- the results of the three requests are not looked at
  let lookup ← psockIoctl .siocgifindex named
  let ifindex := lookup.2.ifindex
  let reset ← psockIoctl .siocgifflags { lookup.2 with flags := 0 }
  let _ ← psockIoctl .siocgifflags { reset.2 with flags := reset.2.flags ||| conf.iffBroadcast }
  bindAndReport ⟨ethPEcat, ifindex⟩

def etherDeviceStop : EtherProgram Int := return 0

/-- The members `ndo_open` and `ndo_stop` of `g_ether_device_ops`. -/
inductive NdoCall where
  | ndoOpen (answers : List EtherEvent)
  | ndoStop

inductive NdoReturn where
  | opened (ret : Int)
  | stopped (ret : Int)
  deriving DecidableEq

/-- The device between two calls, and what the latest one returned. -/
structure EtherState where
  world : EtherWorld
  latest : Option NdoReturn
  deriving DecidableEq

def EtherState.step (conf : EtherConfig) (state : EtherState) : NdoCall → Option EtherState
  | .ndoOpen answers =>
      ((etherDeviceOpen conf).exec EtherWorld.handle state.world answers).map
        fun result => ⟨result.2, some (.opened result.1)⟩
  | .ndoStop =>
      (etherDeviceStop.exec EtherWorld.handle state.world []).map
        fun result => ⟨result.2, some (.stopped result.1)⟩

/-- `g_ether_device`, with the name that it is defined with. -/
def EtherState.boot (name : List UInt8) : EtherState :=
  ⟨{ name := name, sock := none, openSockets := [], overwritten := [], binds := [], links := [] },
    none⟩

end VelaExternal.Ethercat
