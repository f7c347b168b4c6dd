import VelaExternal.Ethercat.EtherDevice
import VelaExternal.Systems.Run

/-! When the Ethernet device is open: what its `ndo_open` reports of the socket that it
created, and what is left of that socket over sequences of calls. -/

set_option autoImplicit false

namespace VelaExternal.Ethercat

open Systems

/-!
## Rules of the operations
-/

section Rules

variable {world : EtherWorld}

@[simp] theorem ensures_uninitialized {post : List EtherEvent → Ifreq → EtherWorld → Prop} :
    uninitialized.Ensures EtherWorld.handle post world ↔ ∀ ifr, post [.garbage ifr] ifr world := by
  apply Program.ensures_perform_kind fun _ => rfl
  intro other different
  cases other with
  | garbage ifr => exact absurd rfl (different ifr)
  | _ => rfl

@[simp] theorem ensures_psockSocket {protocol : Nat}
    {post : List EtherEvent → Int → EtherWorld → Prop} :
    (psockSocket protocol).Ensures EtherWorld.handle post world ↔
      (∀ socket, socket ∉ world.openSockets →
        post [.socketOpened socket] 0 (world.openSocket socket)) ∧
      ∀ errno cleared, 0 < errno → post [.socketFailed errno cleared] (-errno)
        (if cleared then world.clearSocket else world) := by
  constructor
  · intro ensured
    constructor
    · intro socket fresh
      exact ensured (.socketOpened socket) _ _ (if_pos fresh)
    · intro errno cleared positive
      exact ensured (.socketFailed errno cleared) _ _ (if_pos positive)
  · intro both event reply after handled
    obtain ⟨opened, failed⟩ := both
    cases event <;> simp only [EtherWorld.handle, Option.some.injEq, Prod.mk.injEq,
      Option.ite_none_right_eq_some, reduceCtorEq] at handled
    case socketOpened socket =>
      obtain ⟨fresh, rfl, rfl⟩ := handled
      exact opened socket fresh
    case socketFailed errno cleared =>
      obtain ⟨positive, rfl, rfl⟩ := handled
      exact failed errno cleared positive

@[simp] theorem ensures_psockSetsockopt {option : SockOpt}
    {post : List EtherEvent → Int → EtherWorld → Prop} :
    (psockSetsockopt option).Ensures EtherWorld.handle post world ↔
      ∀ result, post [.optionSet result] result world := by
  apply Program.ensures_perform_kind fun _ => rfl
  intro other different
  cases other with
  | optionSet result => exact absurd rfl (different result)
  | _ => rfl

@[simp] theorem ensures_setName {name : List UInt8}
    {post : List EtherEvent → Unit → EtherWorld → Prop} :
    (setName name).Ensures EtherWorld.handle post world ↔
      post [.memory] () (world.rename name) := by
  apply Program.ensures_perform_sole rfl
  intro other different
  cases other with
  | memory => exact absurd rfl different
  | _ => rfl

/-- The lookup answers with the index that it leaves in its argument, or fails. -/
theorem ensures_siocgifindex {ifr : Ifreq}
    {post : List EtherEvent → Int × Ifreq → EtherWorld → Prop}
    (each : ∀ event result,
      (event = .indexFound result.2.ifindex ∨ ∃ errno, event = .indexFailed errno) →
      post [event] result world) :
    (psockIoctl .siocgifindex ifr).Ensures EtherWorld.handle post world := by
  intro event reply after handled
  cases event <;> simp only [EtherWorld.handle, Option.some.injEq, Prod.mk.injEq,
    Option.ite_none_right_eq_some, reduceCtorEq] at handled
  case indexFound index =>
    obtain ⟨rfl, rfl⟩ := handled
    exact each _ _ (.inl rfl)
  case indexFailed errno =>
    obtain ⟨_, rfl, rfl⟩ := handled
    exact each _ _ (.inr ⟨errno, rfl⟩)

/-- The answers to the two requests for the flags, of which nothing is used. -/
def EtherEvent.AboutFlags : EtherEvent → Prop
  | .flagsRead _ | .flagsFailed _ => True
  | _ => False

private theorem ensures_siocgifflags {ifr : Ifreq}
    {post : List EtherEvent → Int × Ifreq → EtherWorld → Prop}
    (each : ∀ event result, event.AboutFlags → post [event] result world) :
    (psockIoctl .siocgifflags ifr).Ensures EtherWorld.handle post world := by
  intro event reply after handled
  cases event <;> simp only [EtherWorld.handle, Option.some.injEq, Prod.mk.injEq,
    Option.ite_none_right_eq_some, reduceCtorEq] at handled
  case flagsRead flags =>
    obtain ⟨rfl, rfl⟩ := handled
    exact each _ _ trivial
  case flagsFailed errno =>
    obtain ⟨_, rfl, rfl⟩ := handled
    exact each _ _ trivial

theorem EtherEvent.AboutFlags.calm {event : EtherEvent} (flags : event.AboutFlags) :
    .bound ≠ event ∧ (∀ errno, .bindFailed errno ≠ event) ∧ ∀ index, .indexFound index ≠ event := by
  cases event with
  | flagsRead _ => simp
  | flagsFailed _ => simp
  | _ => exact absurd flags id

@[simp] theorem ensures_psockBind {address : SockaddrLl}
    {post : List EtherEvent → Int → EtherWorld → Prop} :
    (psockBind address).Ensures EtherWorld.handle post world ↔
      post [.bound] 0 (world.bindSocket address) ∧
        ∀ errno, 0 < errno → post [.bindFailed errno] (-errno) world := by
  constructor
  · intro ensured
    constructor
    · exact ensured .bound _ _ rfl
    · intro errno positive
      exact ensured (.bindFailed errno) _ _ (if_pos positive)
  · intro both event reply after handled
    obtain ⟨bound, failed⟩ := both
    cases event <;> simp only [EtherWorld.handle, Option.some.injEq, Prod.mk.injEq,
      Option.ite_none_right_eq_some, reduceCtorEq] at handled
    case bound =>
      obtain ⟨rfl, rfl⟩ := handled
      exact bound
    case bindFailed errno =>
      obtain ⟨positive, rfl, rfl⟩ := handled
      exact failed errno positive

@[simp] theorem ensures_psockClose {post : List EtherEvent → Int → EtherWorld → Prop} :
    psockClose.Ensures EtherWorld.handle post world ↔
      ∀ result, post [.closed result] result world.closeSocket := by
  apply Program.ensures_perform_kind fun _ => rfl
  intro other different
  cases other with
  | closed result => exact absurd rfl (different result)
  | _ => rfl

@[simp] theorem ensures_ecdevSetLink {state : Int}
    {post : List EtherEvent → Unit → EtherWorld → Prop} :
    (ecdevSetLink state).Ensures EtherWorld.handle post world ↔
      post [.linkSet] () (world.report state) := by
  apply Program.ensures_perform_sole rfl
  intro other different
  cases other with
  | linkSet => exact absurd rfl different
  | _ => rfl

end Rules

/-!
## What `ether_device_open` does
-/

/-- Closing the socket that was just opened leaves those that were open before. -/
theorem closeSocket_openSocket {world : EtherWorld} {socket : Nat} {name : List UInt8}
    (fresh : socket ∉ world.openSockets) :
    ((world.openSocket socket).rename name).closeSocket.openSockets = world.openSockets := by
  have others : ∀ other ∈ world.openSockets, socket ≠ other := by
    rintro other member rfl
    exact fresh member
  simpa [EtherWorld.closeSocket, EtherWorld.rename, EtherWorld.openSocket,
    List.filter_append] using others

/-- How a call ends: without a socket, with its socket closed again, or with the report that
the link is up, for a socket that is bound or is not. -/
inductive OpenOutcome (before : EtherWorld) : List EtherEvent → Int → EtherWorld → Prop where
  | noSocket {answers : List EtherEvent} {errno : Nat} {cleared : Bool} (positive : 0 < errno)
      (unopened : ∀ socket, .socketOpened socket ∉ answers) :
      OpenOutcome before answers (-errno) (if cleared then before.clearSocket else before)
  | refused {answers : List EtherEvent} {socket errno : Nat} {name : List UInt8}
      (fresh : socket ∉ before.openSockets) (opened : .socketOpened socket ∈ answers)
      (failed : .bindFailed errno ∈ answers) (below : 1 < errno) (unbound : .bound ∉ answers) :
      OpenOutcome before answers (-errno) ((before.openSocket socket).rename name).closeSocket
  | up {answers : List EtherEvent} {socket : Nat} {ifindex : Int} {name : List UInt8}
      (fresh : socket ∉ before.openSockets) (opened : .socketOpened socket ∈ answers)
      (bound : .bound ∈ answers) (accepted : ∀ errno, .bindFailed errno ∉ answers)
      (found : ∀ index, .indexFound index ∈ answers → ifindex = index) :
      OpenOutcome before answers 0
        ((((before.openSocket socket).rename name).bindSocket ⟨ethPEcat, ifindex⟩).report 1)
  | upUnbound {answers : List EtherEvent} {socket : Nat} {name : List UInt8}
      (fresh : socket ∉ before.openSockets) (opened : .socketOpened socket ∈ answers)
      (unbound : .bound ∉ answers) (eperm : ∀ errno, .bindFailed errno ∈ answers → errno = 1) :
      OpenOutcome before answers 0 (((before.openSocket socket).rename name).report 1)

private theorem bindAndReport_ensures {address : SockaddrLl} {world : EtherWorld}
    {post : List EtherEvent → Int → EtherWorld → Prop}
    (bound : post [.bound, .linkSet] 0 ((world.bindSocket address).report 1))
    (eperm : post [.bindFailed 1, .linkSet] 0 (world.report 1))
    (refused : ∀ errno result, 1 < errno →
      post [.bindFailed errno, .closed result] (-errno) world.closeSocket) :
    (bindAndReport address).Ensures EtherWorld.handle post world := by
  simp only [bindAndReport, Program.ensures_bind, ensures_psockBind]
  constructor
  · rw [if_neg (by decide)]
    simpa using bound
  · intro errno positive
    by_cases below : 1 < errno
    · rw [if_pos (by omega)]
      simpa using fun result => refused errno result below
    · obtain rfl : errno = 1 := by omega
      rw [if_neg (by decide)]
      simpa using eperm

private theorem etherDeviceOpen_ensures (conf : EtherConfig) (world : EtherWorld) :
    (etherDeviceOpen conf).Ensures EtherWorld.handle (OpenOutcome world) world := by
  simp only [etherDeviceOpen, Program.ensures_bind, ensures_uninitialized, ensures_psockSocket]
  intro ifr
  constructor
  · intro socket fresh
    rw [if_neg (by decide)]
    simp only [Program.ensures_bind, ensures_psockSetsockopt, ensures_setName]
    intro first second third
    apply ensures_siocgifindex
    intro lookup found looked_up
    apply ensures_siocgifflags
    intro reset flags reset_flags
    apply ensures_siocgifflags
    intro set more set_flags
    have lookup_calm : .bound ≠ lookup ∧ ∀ errno, .bindFailed errno ≠ lookup := by
      rcases looked_up with rfl | ⟨_, rfl⟩ <;> simp
    have reset_calm := reset_flags.calm
    have set_calm := set_flags.calm
    apply bindAndReport_ensures
    · refine .up fresh (by simp) (by simp) ?_ ?_
      · simp [lookup_calm, reset_calm, set_calm]
      · intro index member
        obtain rfl : .indexFound index = lookup := by simpa [reset_calm, set_calm] using member
        have same : index = found.2.ifindex := by simpa using looked_up
        exact same.symm
    · refine .upUnbound fresh (by simp) ?_ ?_
      · simp [lookup_calm, reset_calm, set_calm]
      · simp [lookup_calm, reset_calm, set_calm]
    · intro errno result below
      refine .refused fresh (by simp) (by simp) below ?_
      simp [lookup_calm, reset_calm, set_calm]
  · intro errno cleared positive
    rw [if_pos (by omega)]
    exact .noSocket positive (by simp)

/-!
## The result of one call
-/

/-- A call returns zero when it has created a socket, found the index of the interface and
bound the socket to it; then it reports the link up, and else it leaves no trace. -/
structure OpensBound (before : EtherWorld) (answers : List EtherEvent) (ret : Int)
    (after : EtherWorld) : Prop where
  succeeds : ret = 0 ↔ (∃ socket, .socketOpened socket ∈ answers) ∧
    (∃ index, .indexFound index ∈ answers) ∧ .bound ∈ answers
  links : after.links = before.links ++ if ret = 0 then [1] else []
  binds : ret = 0 → ∃ socket index, .indexFound index ∈ answers ∧ after.sock = some socket ∧
    ⟨socket, ⟨ethPEcat, index⟩⟩ ∈ after.binds
  closes : ret ≠ 0 → ∀ socket ∈ after.openSockets, socket ∈ before.openSockets

/-- The socket is not created, or the bind is refused with an error below -1, or the interface
is found and the socket bound. -/
def FailsInView (answers : List EtherEvent) : Prop :=
  (∀ socket, .socketOpened socket ∉ answers) ∨
    (∃ errno, 1 < errno ∧ .bindFailed errno ∈ answers) ∨
    ((∃ index, .indexFound index ∈ answers) ∧ .bound ∈ answers)

theorem OpenOutcome.opensBound_iff {before after : EtherWorld} {answers : List EtherEvent}
    {ret : Int} (outcome : OpenOutcome before answers ret after) :
    OpensBound before answers ret after ↔ FailsInView answers := by
  cases outcome with
  | @noSocket errno cleared positive unopened =>
      have nonzero : (-(errno : Int)) ≠ 0 := by omega
      refine iff_of_true ?_ (.inl unopened)
      constructor
      · simp [unopened, nonzero]
      · cases cleared <;> simp [EtherWorld.clearSocket, nonzero]
      · exact fun zero => absurd zero nonzero
      · cases cleared <;> simp [EtherWorld.clearSocket]
  | @refused socket errno name fresh opened failed below unbound =>
      have nonzero : (-(errno : Int)) ≠ 0 := by omega
      refine iff_of_true ?_ (.inr (.inl ⟨errno, below, failed⟩))
      constructor
      · simp [unbound, nonzero]
      · simp [EtherWorld.closeSocket, EtherWorld.rename, EtherWorld.openSocket, nonzero]
      · exact fun zero => absurd zero nonzero
      · intro _ other member
        rwa [closeSocket_openSocket fresh] at member
  | @up socket ifindex name fresh opened bound accepted found =>
      constructor
      · intro opens
        exact .inr (.inr ⟨(opens.succeeds.mp rfl).2.1, bound⟩)
      · intro in_view
        rcases in_view with unopened | ⟨errno, _, failed⟩ | ⟨⟨index, looked_up⟩, _⟩
        · exact absurd opened (unopened socket)
        · exact absurd failed (accepted errno)
        · obtain rfl := found index looked_up
          constructor
          · exact iff_of_true rfl ⟨⟨socket, opened⟩, ⟨ifindex, looked_up⟩, bound⟩
          · rfl
          · intro _
            refine ⟨socket, ifindex, looked_up, rfl, ?_⟩
            simp [EtherWorld.report, EtherWorld.bindSocket, EtherWorld.rename,
              EtherWorld.openSocket]
          · exact fun nonzero => absurd rfl nonzero
  | @upUnbound socket name fresh opened unbound eperm =>
      refine iff_of_false ?_ ?_
      · intro opens
        exact unbound (opens.succeeds.mp rfl).2.2
      · intro in_view
        rcases in_view with unopened | ⟨errno, below, failed⟩ | ⟨_, bound⟩
        · exact unopened socket opened
        · have one := eperm errno failed
          omega
        · exact unbound bound

/-- For all results of the socket layer, `ether_device_open` succeeds only on a bound
interface exactly when what fails is what its two comparisons see. -/
theorem ether_device_open_bound_iff {conf : EtherConfig} {before after : EtherWorld}
    {answers : List EtherEvent} {ret : Int}
    (executed : (etherDeviceOpen conf).exec EtherWorld.handle before answers = some (ret, after)) :
    OpensBound before answers ret after ↔ FailsInView answers :=
  (Program.exec_ensures (etherDeviceOpen_ensures conf before) executed).opensBound_iff

def etherConfig : EtherConfig := ⟨[101, 116, 104, 48], 16, 16, 2⟩

/-- The answers of a call that gets as far as the bind. -/
def boundAnswers (socket : Nat) (lookup bind : EtherEvent) : List EtherEvent :=
  [.garbage ⟨[], 7, 0⟩, .socketOpened socket, .optionSet 0, .optionSet 0, .optionSet 0, .memory,
    lookup, .flagsRead 1, .flagsRead 3, bind, .linkSet]

def linkUp (socket : Nat) (binds : List Bound) : EtherWorld where
  name := [101, 116, 104, 48]
  sock := some socket
  openSockets := [socket]
  overwritten := []
  binds := binds
  links := [1]

theorem ether_device_open_bound_found :
    OpensBound (EtherState.boot []).world (boundAnswers 1 (.indexFound 2) .bound) 0
      (linkUp 1 [⟨1, ⟨ethPEcat, 2⟩⟩]) := by
  have executed : (etherDeviceOpen etherConfig).exec EtherWorld.handle (EtherState.boot []).world
      (boundAnswers 1 (.indexFound 2) .bound) = some (0, linkUp 1 [⟨1, ⟨ethPEcat, 2⟩⟩]) := by decide
  exact (ether_device_open_bound_iff executed).mpr
    (.inr (.inr ⟨⟨2, by decide⟩, by decide⟩))

/-- Without the interface the socket is bound to what the stack held (first part); a bind
that is refused with `-EPERM` passes for one that is done (second part). -/
theorem ether_device_open_unbound :
    ((etherDeviceOpen etherConfig).exec EtherWorld.handle (EtherState.boot []).world
        (boundAnswers 1 (.indexFailed 19) .bound) = some (0, linkUp 1 [⟨1, ⟨ethPEcat, 7⟩⟩]) ∧
      ¬ OpensBound (EtherState.boot []).world (boundAnswers 1 (.indexFailed 19) .bound) 0
        (linkUp 1 [⟨1, ⟨ethPEcat, 7⟩⟩])) ∧
    (etherDeviceOpen etherConfig).exec EtherWorld.handle (EtherState.boot []).world
        (boundAnswers 1 (.indexFound 2) (.bindFailed 1)) = some (0, linkUp 1 []) ∧
      ¬ OpensBound (EtherState.boot []).world (boundAnswers 1 (.indexFound 2) (.bindFailed 1)) 0
        (linkUp 1 []) := by
  refine ⟨⟨by decide, fun opens => ?_⟩, by decide, fun opens => ?_⟩
  · have found := (opens.succeeds.mp rfl).2.1
    simp [boundAnswers] at found
  · exact absurd (opens.succeeds.mp rfl).2.2 (by decide)

/-!
## The socket over sequences of calls
-/

/-- The device holds one packet socket at most, and one just when the latest call was an
`ndo_open` that returned zero; no open socket has been overwritten. -/
structure FollowsOpen (state : EtherState) : Prop where
  single : state.world.openSockets.length ≤ 1
  held : state.world.openSockets ≠ [] ↔ state.latest = some (.opened 0)
  kept : state.world.overwritten = []

private theorem followsOpen_boot (name : List UInt8) : FollowsOpen (.boot name) :=
  ⟨Nat.zero_le 1, by simp [EtherState.boot], rfl⟩

private theorem forgotten_of_closed {world : EtherWorld} (closed : world.openSockets = []) :
    world.forgotten = [] := by
  simp [EtherWorld.forgotten, closed]

/-- Without a new socket, the device is as it should be when none was open. -/
theorem followsOpen_failed_iff {before after : EtherWorld} {ret : Int} (nonzero : ret ≠ 0)
    (same : after.openSockets = before.openSockets)
    (overwritten : before.openSockets = [] → after.overwritten = []) :
    FollowsOpen ⟨after, some (.opened ret)⟩ ↔ before.openSockets = [] := by
  constructor
  · intro after_open
    by_contra held
    have latest := after_open.held.mp (by simpa [same] using held)
    simp only [Option.some.injEq, NdoReturn.opened.injEq] at latest
    exact nonzero latest
  · intro closed
    exact ⟨by simp [same, closed], by simp [same, closed, nonzero], overwritten closed⟩

/-- With a new socket, the device is as it should be when this one is the only one. -/
theorem followsOpen_opened_iff {before after : EtherWorld} {socket : Nat}
    (added : after.openSockets = before.openSockets ++ [socket])
    (overwritten : before.openSockets = [] → after.overwritten = []) :
    FollowsOpen ⟨after, some (.opened 0)⟩ ↔ before.openSockets = [] := by
  constructor
  · intro after_open
    have single := after_open.single
    simp only [added, List.length_append, List.length_singleton] at single
    exact List.length_eq_zero_iff.mp (by omega)
  · intro closed
    exact ⟨by simp [added, closed], by simp [added], overwritten closed⟩

theorem OpenOutcome.followsOpen_iff {before : EtherState} {after : EtherWorld}
    {answers : List EtherEvent} {ret : Int} (follows : FollowsOpen before)
    (outcome : OpenOutcome before.world answers ret after) :
    FollowsOpen ⟨after, some (.opened ret)⟩ ↔ before.world.openSockets = [] := by
  have kept : before.world.openSockets = [] →
      before.world.overwritten ++ before.world.forgotten = [] := by
    intro closed
    simp [follows.kept, forgotten_of_closed closed]
  cases outcome with
  | @noSocket errno cleared positive unopened =>
      cases cleared with
      | true => exact followsOpen_failed_iff (by omega) rfl kept
      | false => exact followsOpen_failed_iff (by omega) rfl fun _ => follows.kept
  | @refused socket errno name fresh opened failed below unbound =>
      exact followsOpen_failed_iff (by omega) (closeSocket_openSocket fresh) kept
  | @up socket ifindex name fresh opened bound accepted found =>
      exact followsOpen_opened_iff rfl kept
  | @upUnbound socket name fresh opened unbound eperm =>
      exact followsOpen_opened_iff rfl kept

private theorem ether_step_follows_iff {conf : EtherConfig} {before after : EtherState} {call : NdoCall}
    (follows : FollowsOpen before) (stepped : before.step conf call = some after) :
    FollowsOpen after ↔ before.world.openSockets = [] := by
  cases call with
  | ndoOpen answers =>
      simp only [EtherState.step, Option.map_eq_some_iff] at stepped
      obtain ⟨⟨ret, world⟩, executed, rfl⟩ := stepped
      exact (Program.exec_ensures (etherDeviceOpen_ensures conf _) executed).followsOpen_iff follows
  | ndoStop =>
      obtain rfl := Option.some.inj stepped
      constructor
      · intro after_stop
        by_contra held
        cases after_stop.held.mp held
      · intro none_open
        exact ⟨by simp [none_open], by simp [none_open], follows.kept⟩

/-- Over any calls, the packet socket follows the open state of the device exactly when
no call is made while a packet socket is open. -/
theorem packet_socket_follows_iff (conf : EtherConfig) (name : List UInt8)
    (calls : List NdoCall) :
    Along (EtherState.step conf) (fun _ _ after => FollowsOpen after) (.boot name) calls ↔
      Along (EtherState.step conf) (fun before _ _ => before.world.openSockets = [])
        (.boot name) calls := by
  refine along_iff_along ?_ ?_ (followsOpen_boot name)
  · intro before call after follows stepped
    exact ether_step_follows_iff follows stepped
  · intro before call after follows stepped none_open
    exact (ether_step_follows_iff follows stepped).mpr none_open

/-- After an open that succeeded, `ndo_stop` leaves the socket open, and the next open
overwrites it. -/
theorem packet_socket_leaked :
    ¬ Along (EtherState.step etherConfig) (fun _ _ after => FollowsOpen after) (.boot [])
        [.ndoOpen (boundAnswers 1 (.indexFound 2) .bound), .ndoStop] ∧
      (run (EtherState.step etherConfig) (.boot [])
        [.ndoOpen (boundAnswers 1 (.indexFound 2) .bound), .ndoStop,
          .ndoOpen (boundAnswers 3 (.indexFound 2) .bound)]).map
        (fun state => (state.world.openSockets, state.world.overwritten)) = some ([1, 3], [1]) := by
  refine ⟨fun along => ?_, by decide⟩
  exact absurd (along.2.1.held.mp (by decide)) (by decide)

end VelaExternal.Ethercat
