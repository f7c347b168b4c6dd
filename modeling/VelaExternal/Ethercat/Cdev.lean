import Mathlib.Data.Finset.Insert
import VelaExternal.Systems.Program

/-!
# The character device of an EtherCAT master

`ec_cdev_init` and `ec_cdev_clear` of `nuttx/ec_cdev.c`, with the `ether_device_init` of
`nuttx/ethercat.c` that the first one calls. All masters share the path of the driver node
and the Ethernet device. `ecdev_offer` and `ecdev_open` are outside the repository; the first
records an offered device and the second an opened one.
-/

set_option autoImplicit false

namespace VelaExternal.Ethercat

open Systems

/-- A registered driver, with the `ec_cdev_t` that its operations are for. -/
structure DriverNode where
  path : String
  mode : Nat
  cdev : Nat
  deriving DecidableEq

/-- `ec` is `g_ether_device.ec`; `master` is the field of each `ec_cdev_t`. -/
structure CdevWorld where
  master : Nat → Option Nat
  nodes : List DriverNode
  offered : Finset Nat
  opened : Finset Nat
  ec : Option Nat

namespace CdevWorld

def setMaster (world : CdevWorld) (cdev master : Nat) : CdevWorld :=
  { world with master := Function.update world.master cdev (some master) }

def Registered (world : CdevWorld) (path : String) : Prop := ∃ node ∈ world.nodes, node.path = path

instance (world : CdevWorld) (path : String) : Decidable (world.Registered path) :=
  inferInstanceAs (Decidable (∃ node ∈ world.nodes, node.path = path))

def register (world : CdevWorld) (node : DriverNode) : CdevWorld :=
  { world with nodes := world.nodes ++ [node] }

def unregister (world : CdevWorld) (path : String) : CdevWorld :=
  { world with nodes := world.nodes.filter fun node => node.path ≠ path }

def offer (world : CdevWorld) (device : Nat) : CdevWorld :=
  { world with offered := insert device world.offered }

def setEc (world : CdevWorld) (device : Nat) : CdevWorld := { world with ec := some device }

def openDevice (world : CdevWorld) (device : Nat) : CdevWorld :=
  { world with opened := insert device world.opened }

end CdevWorld

inductive CdevOp where
  | setMaster (cdev master : Nat)
  | registerDriver (path : String) (mode cdev : Nat)
  | unregisterDriver (path : String)
  | ecdevOffer
  | setEc (device : Nat)
  | ecdevOpen (device : Nat)

abbrev CdevOp.Reply : CdevOp → Type
  | .setMaster _ _ => Unit
  | .registerDriver _ _ _ => Int
  | .unregisterDriver _ => Int
  | .ecdevOffer => Nat
  | .setEc _ => Unit
  | .ecdevOpen _ => Int

/-- What the environment decides; `memory` is an access to memory. -/
inductive CdevEvent where
  | memory
  | registered
  | registerFailed (errno : Nat)
  | unregistered (result : Int)
  | offered (device : Nat)
  | opened
  deriving DecidableEq

/-- A path is registered once at most; registering it may fail for any other reason too. -/
def CdevWorld.handle (world : CdevWorld) :
    (op : CdevOp) → CdevEvent → Option (CdevOp.Reply op × CdevWorld)
  | .setMaster cdev master, .memory => some ((), world.setMaster cdev master)
  | .registerDriver path mode cdev, .registered =>
      if world.Registered path then none else some (0, world.register ⟨path, mode, cdev⟩)
  | .registerDriver _ _ _, .registerFailed errno =>
      if 0 < errno then some (-errno, world) else none
  | .unregisterDriver path, .unregistered result => some (result, world.unregister path)
  | .ecdevOffer, .offered device => some (device, world.offer device)
  | .setEc device, .memory => some ((), world.setEc device)
  | .ecdevOpen device, .opened => some (0, world.openDevice device)
  | _, _ => none

abbrev CdevProgram := Program CdevOp CdevOp.Reply

def setMaster (cdev master : Nat) : CdevProgram Unit := .perform (CdevOp.setMaster cdev master)

def registerDriver (path : String) (mode cdev : Nat) : CdevProgram Int :=
  .perform (CdevOp.registerDriver path mode cdev)

def unregisterDriver (path : String) : CdevProgram Int := .perform (CdevOp.unregisterDriver path)

def ecdevOffer : CdevProgram Nat := .perform CdevOp.ecdevOffer

def setEc (device : Nat) : CdevProgram Unit := .perform (CdevOp.setEc device)

def ecdevOpen (device : Nat) : CdevProgram Int := .perform (CdevOp.ecdevOpen device)

def devEtherCAT : String := "/dev/EtherCAT"

def etherDeviceInit : CdevProgram Unit := do
  let ec ← ecdevOffer
  setEc ec
  let _ ← ecdevOpen ec
  return ()

def ecCdevInit (cdev master : Nat) : CdevProgram Int := do
  setMaster cdev master
  let ret ← registerDriver devEtherCAT 0o644 cdev
  -- a failure is logged and returned at the end
  etherDeviceInit
  return ret

def ecCdevClear : CdevProgram Unit := do
  let _ ← unregisterDriver devEtherCAT
  return ()

/-!
## Calls of several masters
-/

inductive CdevCall where
  | init (cdev master : Nat) (answers : List CdevEvent)
  | clear (cdev : Nat) (answers : List CdevEvent)

/-- What is there between two calls. `offeredFor` is the device that the latest
`ec_cdev_init` of an `ec_cdev_t` offered, as long as that has not been cleared, and `ret`
what the latest `ec_cdev_init` returned. -/
structure CdevState where
  world : CdevWorld
  offeredFor : Nat → Option Nat
  ret : Int

def CdevState.step (state : CdevState) : CdevCall → Option CdevState
  | .init cdev master answers =>
      ((ecCdevInit cdev master).exec CdevWorld.handle state.world answers).map fun result =>
        ⟨result.2, Function.update state.offeredFor cdev result.2.ec, result.1⟩
  | .clear cdev answers =>
      (ecCdevClear.exec CdevWorld.handle state.world answers).map fun result =>
        ⟨result.2, Function.update state.offeredFor cdev none, state.ret⟩

def CdevState.boot : CdevState :=
  ⟨{ master := fun _ => none, nodes := [], offered := ∅, opened := ∅, ec := none },
    fun _ => none, 0⟩

end VelaExternal.Ethercat
