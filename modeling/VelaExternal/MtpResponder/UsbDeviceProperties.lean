import VelaExternal.MtpResponder.UsbDevice

/-! Proof rules for the operations of the driver, and the consistency of the
endpoint descriptors over every sequence of opening and closing calls. -/

set_option autoImplicit false

namespace VelaExternal.MtpResponder

open Systems

/-!
## Fields after an update
-/

@[simp] theorem descriptor_assign (world : UsbWorld) (endpoint other : Endpoint) (fd : Int) :
    (world.assign endpoint fd).descriptor other =
      if other = endpoint then fd else world.descriptor other := by
  cases endpoint <;> cases other <;> rfl

@[simp] theorem descriptor_openFile (world : UsbWorld) (fd : Int) (endpoint : Endpoint) :
    (world.openFile fd endpoint).descriptor = world.descriptor := by
  funext other
  cases other <;> rfl

@[simp] theorem descriptor_close (world : UsbWorld) (fd : Int) :
    (world.close fd).descriptor = world.descriptor := by
  funext other
  cases other <;> rfl

@[simp] theorem descriptor_setErrno (world : UsbWorld) (errno : Errno) :
    (world.setErrno errno).descriptor = world.descriptor := by
  funext other
  cases other <;> rfl

@[simp] theorem openFds_assign (world : UsbWorld) (endpoint : Endpoint) (fd : Int) :
    (world.assign endpoint fd).openFds = world.openFds := by
  cases endpoint <;> rfl

@[simp] theorem openFds_openFile (world : UsbWorld) (fd : Int) (endpoint : Endpoint) :
    (world.openFile fd endpoint).openFds = world.openFds ++ [fd] := by
  simp only [UsbWorld.openFds, UsbWorld.openFile, List.map_append, List.map_cons, List.map_nil]

@[simp] theorem mem_openFds_close (world : UsbWorld) (fd other : Int) :
    other ∈ (world.close fd).openFds ↔ other ∈ world.openFds ∧ other ≠ fd := by
  simp only [UsbWorld.openFds, UsbWorld.close, List.mem_map, List.mem_filter,
    decide_eq_true_eq]
  constructor
  · rintro ⟨file, ⟨member, different⟩, rfl⟩
    exact ⟨⟨file, member, rfl⟩, different⟩
  · rintro ⟨⟨file, member, rfl⟩, different⟩
    exact ⟨file, ⟨member, different⟩, rfl⟩

@[simp] theorem openFds_setErrno (world : UsbWorld) (errno : Errno) :
    (world.setErrno errno).openFds = world.openFds := rfl

@[simp] theorem inUse_assign (world : UsbWorld) (endpoint : Endpoint) (fd : Int) :
    (world.assign endpoint fd).inUse = world.inUse := by
  cases endpoint <;> rfl

private theorem unused_openFile {world : UsbWorld} {endpoint assigned : Endpoint} {fd value other : Int} :
    ((world.openFile fd endpoint).assign assigned value).Unused other ↔
      world.Unused other ∧ other ≠ fd := by
  simp only [UsbWorld.Unused, openFds_assign, openFds_openFile, inUse_assign, List.mem_append,
    List.mem_singleton, not_or]
  change _ ∧ (_ ∧ _) ∧ other ∉ world.inUse ↔ _
  tauto

/-!
## Rules of the operations
-/

@[simp] theorem ensures_loadDescriptor {endpoint : Endpoint} {world : UsbWorld}
    {post : List UsbEvent → Int → UsbWorld → Prop} :
    (loadDescriptor endpoint).Ensures UsbWorld.handle post world ↔
      post [.memory] (world.descriptor endpoint) world := by
  apply Program.ensures_perform_sole rfl
  intro other different
  cases other with
  | memory => exact absurd rfl different
  | _ => rfl

@[simp] theorem ensures_storeDescriptor {endpoint : Endpoint} {fd : Int} {world : UsbWorld}
    {post : List UsbEvent → Unit → UsbWorld → Prop} :
    (storeDescriptor endpoint fd).Ensures UsbWorld.handle post world ↔
      post [.memory] () (world.assign endpoint fd) := by
  apply Program.ensures_perform_sole rfl
  intro other different
  cases other with
  | memory => exact absurd rfl different
  | _ => rfl

@[simp] theorem ensures_storeSizes {pktSize : PktSize} {rxMqSz txMqSz : Nat} {world : UsbWorld}
    {post : List UsbEvent → Unit → UsbWorld → Prop} :
    (storeSizes pktSize rxMqSz txMqSz).Ensures UsbWorld.handle post world ↔
      post [.memory] () (world.setSizes pktSize rxMqSz txMqSz) := by
  apply Program.ensures_perform_sole rfl
  intro other different
  cases other with
  | memory => exact absurd rfl different
  | _ => rfl

@[simp] theorem ensures_openEndpoint {endpoint : Endpoint} {world : UsbWorld}
    {post : List UsbEvent → Int → UsbWorld → Prop} :
    (openEndpoint endpoint).Ensures UsbWorld.handle post world ↔
      (∀ fd, world.Unused fd → post [.opened fd] fd (world.openFile fd endpoint)) ∧
        ∀ errno, post [.openFailed errno] (-1) (world.setErrno errno) := by
  constructor
  · intro ensured
    constructor
    · intro fd unused
      exact ensured (.opened fd) _ _ (if_pos unused)
    · intro errno
      exact ensured (.openFailed errno) _ _ rfl
  · intro both event reply after handled
    obtain ⟨opened, failed⟩ := both
    cases event <;> simp only [UsbWorld.handle, Option.some.injEq, Prod.mk.injEq,
      reduceCtorEq, Option.ite_none_right_eq_some] at handled
    case opened fd =>
      obtain ⟨unused, rfl, rfl⟩ := handled
      exact opened fd unused
    case openFailed errno =>
      obtain ⟨rfl, rfl⟩ := handled
      exact failed errno

@[simp] theorem ensures_closeDescriptor {fd : Int} {world : UsbWorld}
    {post : List UsbEvent → Unit → UsbWorld → Prop} :
    (closeDescriptor fd).Ensures UsbWorld.handle post world ↔
      post [.closed] () (world.close fd) ∧
        ∀ errno, post [.closeFailed errno] () ((world.close fd).setErrno errno) := by
  constructor
  · intro ensured
    exact ⟨ensured .closed _ _ rfl, fun errno => ensured (.closeFailed errno) _ _ rfl⟩
  · intro both event reply after handled
    obtain ⟨closed, failed⟩ := both
    cases event <;> simp only [UsbWorld.handle, Option.some.injEq, Prod.mk.injEq,
      reduceCtorEq] at handled
    case closed =>
      obtain ⟨_, rfl⟩ := handled
      exact closed
    case closeFailed errno =>
      obtain ⟨_, rfl⟩ := handled
      exact failed errno

@[simp] theorem ensures_loadErrno {world : UsbWorld}
    {post : List UsbEvent → Errno → UsbWorld → Prop} :
    loadErrno.Ensures UsbWorld.handle post world ↔ post [.memory] world.errno world := by
  apply Program.ensures_perform_sole rfl
  intro other different
  cases other with
  | memory => exact absurd rfl different
  | _ => rfl

@[simp] theorem ensures_usbConnected {world : UsbWorld}
    {post : List UsbEvent → Bool → UsbWorld → Prop} :
    usbConnected.Ensures UsbWorld.handle post world ↔
      ∀ connected, post [.usbConnected connected] connected world := by
  apply Program.ensures_perform_kind fun _ => rfl
  intro other different
  cases other with
  | usbConnected connected => exact absurd rfl (different connected)
  | _ => rfl

@[simp] theorem ensures_readDescriptor {fd : Int} {size : Nat} {world : UsbWorld}
    {post : List UsbEvent → Int → UsbWorld → Prop} :
    (readDescriptor fd size).Ensures UsbWorld.handle post world ↔
      (∀ bytes : List UInt8, bytes.length ≤ size ∧ bytes.length < 2 ^ 31 →
        post [.readBytes bytes] bytes.length (world.deliver bytes)) ∧
        ∀ errno, post [.readFailed errno] (-1) (world.setErrno errno) := by
  constructor
  · intro ensured
    constructor
    · intro bytes fits
      exact ensured (.readBytes bytes) _ _ (if_pos fits)
    · intro errno
      exact ensured (.readFailed errno) _ _ rfl
  · intro both event reply after handled
    obtain ⟨delivered, failed⟩ := both
    cases event <;> simp only [UsbWorld.handle, Option.some.injEq, Prod.mk.injEq,
      reduceCtorEq, Option.ite_none_right_eq_some] at handled
    case readBytes bytes =>
      obtain ⟨fits, rfl, rfl⟩ := handled
      exact delivered bytes fits
    case readFailed errno =>
      obtain ⟨rfl, rfl⟩ := handled
      exact failed errno

/-!
## What one call does
-/

def openResults : List UsbEvent → List (Except Errno Int) :=
  List.filterMap fun event =>
    match event with
    | .opened fd => some (.ok fd)
    | .openFailed errno => some (.error errno)
    | _ => none

theorem openResults_append (first second : List UsbEvent) :
    openResults (first ++ second) = openResults first ++ openResults second :=
  List.filterMap_append

theorem ok_mem_openResults {events : List UsbEvent} {fd : Int} :
    .ok fd ∈ openResults events ↔ .opened fd ∈ events := by
  simp only [openResults, List.mem_filterMap]
  constructor
  · rintro ⟨event, member, result⟩
    cases event <;> simp_all
  · intro member
    exact ⟨_, member, rfl⟩

theorem error_mem_openResults {events : List UsbEvent} {errno : Errno} :
    .error errno ∈ openResults events ↔ .openFailed errno ∈ events := by
  simp only [openResults, List.mem_filterMap]
  constructor
  · rintro ⟨event, member, result⟩
    cases event <;> simp_all
  · intro member
    exact ⟨_, member, rfl⟩

def UsbWorld.openAll (world : UsbWorld) (bulkIn bulkOut status : Int) : UsbWorld :=
  { world with
    usbEpIn := bulkIn
    usbEpOut := bulkOut
    usbEpStatus := status
    openFiles := world.openFiles ++
      [⟨bulkIn, .bulkIn⟩, ⟨bulkOut, .bulkOut⟩, ⟨status, .status⟩] }

/-- How `__io_init` ends: without a descriptor, with the bulk-in global naming a
descriptor that was opened and closed again, or with all endpoints open. -/
inductive IoInitOutcome (before : UsbWorld) : List (Except Errno Int) → Bool → UsbWorld → Prop where
  | unopened (errno : Errno) :
      IoInitOutcome before [.error errno] false ((before.setErrno errno).assign .bulkIn (-1))
  | abandoned {opens : List (Except Errno Int)} {after : UsbWorld} {bulkIn : Int} {errno : Errno}
      (unused : before.Unused bulkIn) (opened : .ok bulkIn ∈ opens) (failed : .error errno ∈ opens)
      (stale : after.descriptor .bulkIn = bulkIn) (closed : bulkIn ∉ after.openFds)
      (inUse : after.inUse = before.inUse) :
      IoInitOutcome before opens false after
  | complete {bulkIn bulkOut status : Int} (in_unused : before.Unused bulkIn)
      (out_unused : before.Unused bulkOut) (status_unused : before.Unused status)
      (distinct : [bulkIn, bulkOut, status].Nodup) :
      IoInitOutcome before [.ok bulkIn, .ok bulkOut, .ok status] true
        (before.openAll bulkIn bulkOut status)

private theorem ioInit_ensures (world : UsbWorld) :
    ioInit.Ensures UsbWorld.handle
      (fun events => IoInitOutcome world (openResults events)) world := by
  have not_activated : ¬ sdListenFds 0 ≥ 4 := by decide
  simp only [ioInit, if_neg not_activated, Program.ensures_bind, ensures_openEndpoint,
    ensures_storeDescriptor, ensures_loadDescriptor, descriptor_assign, if_true]
  constructor
  case right => exact fun errno => .unopened errno
  intro bulkIn in_unused
  rw [if_neg (by have := in_unused.1; omega)]
  simp only [Program.ensures_bind, ensures_openEndpoint, ensures_storeDescriptor,
    ensures_loadDescriptor, descriptor_assign, unused_openFile, if_true]
  constructor
  · intro bulkOut out_free
    obtain ⟨out_unused, out_different⟩ := out_free
    rw [if_neg (by have := out_unused.1; omega)]
    simp only [Program.ensures_bind, ensures_openEndpoint, ensures_storeDescriptor,
      ensures_loadDescriptor, descriptor_assign, unused_openFile, if_true]
    constructor
    · intro status status_free
      obtain ⟨⟨status_unused, status_in⟩, status_out⟩ := status_free
      rw [if_neg (by have := status_unused.1; omega)]
      have complete : IoInitOutcome world [.ok bulkIn, .ok bulkOut, .ok status] true _ :=
        .complete in_unused out_unused status_unused
          (by simp [out_different.symm, status_in.symm, status_out.symm])
      simpa [openResults, UsbWorld.openAll, UsbWorld.openFile, UsbWorld.assign] using complete
    · intro errno
      rw [if_pos (by decide)]
      simp only [Program.ensures_bind, ensures_loadDescriptor, ensures_closeDescriptor]
      have failed : Except.error errno ∈ [.ok bulkIn, .ok bulkOut, .error errno] := by simp
      refine ⟨⟨?_, fun second => ?_⟩, fun first => ⟨?_, fun second => ?_⟩⟩ <;>
        exact .abandoned in_unused (by simp [openResults]) failed (by simp) (by simp) rfl
  · intro errno
    rw [if_pos (by decide)]
    simp only [Program.ensures_bind, ensures_loadDescriptor, ensures_closeDescriptor]
    have failed : Except.error errno ∈ [.ok bulkIn, .error errno] := by simp
    refine ⟨?_, fun close_errno => ?_⟩ <;>
      exact .abandoned in_unused (by simp [openResults]) failed (by simp) (by simp) rfl

/-- `ffs_transport_init_usb_device` reports an open device without looking further
when the bulk-in global is positive, and otherwise opens the endpoints. -/
theorem ffsTransportInitUsbDevice_ensures (conf : MtpConfig) (world : UsbWorld) :
    (ffsTransportInitUsbDevice conf).Ensures UsbWorld.handle
      (fun events opened after =>
        (0 < world.usbEpIn ∧ openResults events = [] ∧ opened = true ∧ after = world) ∨
          (¬ 0 < world.usbEpIn ∧ ∃ middle pktSize rxMqSz txMqSz,
            IoInitOutcome world (openResults events) opened middle ∧
              after = middle.setSizes pktSize rxMqSz txMqSz)) world := by
  simp only [ffsTransportInitUsbDevice, Program.ensures_bind, ensures_loadDescriptor]
  by_cases already : world.descriptor .bulkIn > 0
  · rw [if_pos already]
    exact .inl ⟨already, rfl, rfl, rfl⟩
  · rw [if_neg already, Program.ensures_bind]
    apply (ioInit_ensures world).mono
    intro events opened after outcome
    cases opened with
    | false =>
        exact .inr ⟨already, after, after.pktSize, after.rxMqSz, after.txMqSz,
          by simpa [openResults] using outcome, rfl⟩
    | true =>
        simp only [Bool.not_true, Bool.false_eq_true, if_false, Program.ensures_bind,
          ensures_storeSizes]
        exact .inr ⟨already, after, _, _, _, by simpa [openResults] using outcome, rfl⟩

def UsbWorld.release (world : UsbWorld) (endpoint : Endpoint) : UsbWorld :=
  (if 0 ≤ world.descriptor endpoint then world.close (world.descriptor endpoint)
    else world).assign endpoint (-1)

theorem descriptor_release (world : UsbWorld) (endpoint other : Endpoint) :
    (world.release endpoint).descriptor other =
      if other = endpoint then -1 else world.descriptor other := by
  rw [UsbWorld.release, descriptor_assign]
  by_cases named : 0 ≤ world.descriptor endpoint
  · rw [if_pos named, descriptor_close]
  · rw [if_neg named]

private theorem release_setErrno (world : UsbWorld) (errno : Errno) (endpoint : Endpoint) :
    (world.setErrno errno).release endpoint = (world.release endpoint).setErrno errno := by
  unfold UsbWorld.release
  rw [descriptor_setErrno]
  by_cases named : 0 ≤ world.descriptor endpoint
  · rw [if_pos named, if_pos named]
    cases endpoint <;> rfl
  · rw [if_neg named, if_neg named]
    cases endpoint <;> rfl

private theorem release_of_nonneg {world : UsbWorld} {endpoint : Endpoint} {fd : Int}
    (named : world.descriptor endpoint = fd) (nonneg : 0 ≤ fd) :
    world.release endpoint = (world.close fd).assign endpoint (-1) := by
  rw [UsbWorld.release, named, if_pos nonneg]

private theorem releaseEndpoint_ensures (endpoint : Endpoint) (world : UsbWorld) :
    (releaseEndpoint endpoint).Ensures UsbWorld.handle
      (fun _ _ after => ∃ errno, after = (world.release endpoint).setErrno errno) world := by
  simp only [releaseEndpoint, Program.ensures_bind, ensures_loadDescriptor]
  by_cases named : 0 ≤ world.descriptor endpoint
  · rw [if_pos named]
    simp only [Program.ensures_bind, ensures_loadDescriptor, ensures_closeDescriptor,
      ensures_storeDescriptor, UsbWorld.release, if_pos named]
    refine ⟨⟨world.errno, ?_⟩, fun errno => ⟨errno, ?_⟩⟩ <;> cases endpoint <;> rfl
  · rw [if_neg named]
    simp only [ensures_storeDescriptor, UsbWorld.release, if_neg named]
    exact ⟨world.errno, by cases endpoint <;> rfl⟩

theorem ffsTransportDeinitUsbDevice_ensures (world : UsbWorld) :
    ffsTransportDeinitUsbDevice.Ensures UsbWorld.handle
      (fun _ _ after => ∃ errno, after =
        (((world.release .bulkIn).release .bulkOut).release .status).setErrno errno) world := by
  simp only [ffsTransportDeinitUsbDevice, Program.ensures_bind]
  apply (releaseEndpoint_ensures .bulkIn world).mono
  intro _ _ first released
  obtain ⟨_, rfl⟩ := released
  apply (releaseEndpoint_ensures .bulkOut _).mono
  intro _ _ second released
  obtain ⟨_, rfl⟩ := released
  apply (releaseEndpoint_ensures .status _).mono
  intro _ _ third released
  obtain ⟨errno, rfl⟩ := released
  simp only [release_setErrno]
  exact ⟨errno, rfl⟩

/-!
## Consistency over sequences of calls
-/

structure UsbWorld.AllClosed (world : UsbWorld) : Prop where
  bulkIn : world.usbEpIn = -1
  bulkOut : world.usbEpOut = -1
  status : world.usbEpStatus = -1
  files : world.openFiles = []

/-- The globals name the three endpoints, and nothing else is open. -/
structure UsbWorld.AllOpen (world : UsbWorld) : Prop where
  files : world.openFiles =
    [⟨world.usbEpIn, .bulkIn⟩, ⟨world.usbEpOut, .bulkOut⟩, ⟨world.usbEpStatus, .status⟩]
  distinct : [world.usbEpIn, world.usbEpOut, world.usbEpStatus].Nodup
  valid : ∀ fd ∈ [world.usbEpIn, world.usbEpOut, world.usbEpStatus], 0 ≤ fd ∧ fd ∉ world.inUse

instance (world : UsbWorld) : Decidable world.AllOpen :=
  decidable_of_iff (_ ∧ _ ∧ _)
    ⟨fun ⟨files, distinct, valid⟩ => ⟨files, distinct, valid⟩,
      fun opened => ⟨opened.files, opened.distinct, opened.valid⟩⟩

/-- What is promised between two calls. -/
structure EndpointsConsistent (state : DriverState) : Prop where
  descriptors : state.world.AllClosed ∨ state.world.AllOpen
  returned : ∀ opened, state.returned = some opened → (opened = true ↔ state.world.AllOpen)
  closes : ∀ call ∈ state.world.closes, call.wasOpen = true

/-- In an initializing call, no `open` fails once another has succeeded. -/
def OpensAllOrNone (call : DriverCall) : Prop :=
  call.function = .initUsbDevice →
    ∀ fd errno, .opened fd ∈ call.answers → .openFailed errno ∉ call.answers

theorem UsbWorld.AllOpen.not_allClosed {world : UsbWorld} (opened : world.AllOpen) :
    ¬ world.AllClosed := by
  intro closed
  have files := opened.files
  simp [closed.files] at files

theorem UsbWorld.AllOpen.usbEpIn_pos {world : UsbWorld} (opened : world.AllOpen)
    (stdin : 0 ∈ world.inUse) : 0 < world.usbEpIn := by
  obtain ⟨nonneg, apart⟩ := opened.valid world.usbEpIn (by simp)
  have nonzero : world.usbEpIn ≠ 0 := fun zero => apart (zero ▸ stdin)
  omega

theorem UsbWorld.AllClosed.deinit {world : UsbWorld} (closed : world.AllClosed) :
    ((world.release .bulkIn).release .bulkOut).release .status = world := by
  obtain ⟨bulkIn, bulkOut, status, _⟩ := closed
  cases world
  simp_all [UsbWorld.release, UsbWorld.descriptor, UsbWorld.assign]

theorem UsbWorld.AllOpen.deinit {world : UsbWorld} (opened : world.AllOpen) :
    ((world.release .bulkIn).release .bulkOut).release .status =
      { world with
        usbEpIn := -1, usbEpOut := -1, usbEpStatus := -1, openFiles := []
        closes := world.closes ++
          [⟨world.usbEpIn, true⟩, ⟨world.usbEpOut, true⟩, ⟨world.usbEpStatus, true⟩] } := by
  obtain ⟨files, distinct, valid⟩ := opened
  simp only [List.nodup_cons, List.mem_cons, List.not_mem_nil, or_false, not_or] at distinct
  obtain ⟨⟨in_out, in_status⟩, out_status, _⟩ := distinct
  have in_valid := valid world.usbEpIn (by simp)
  have out_valid := valid world.usbEpOut (by simp)
  have status_valid := valid world.usbEpStatus (by simp)
  have bulkIn : world.release .bulkIn = (world.close world.usbEpIn).assign .bulkIn (-1) :=
    release_of_nonneg rfl in_valid.1
  have bulkOut (first : UsbWorld) (same : first.usbEpOut = world.usbEpOut) :
      first.release .bulkOut = (first.close world.usbEpOut).assign .bulkOut (-1) :=
    release_of_nonneg same out_valid.1
  have status (second : UsbWorld) (same : second.usbEpStatus = world.usbEpStatus) :
      second.release .status = (second.close world.usbEpStatus).assign .status (-1) :=
    release_of_nonneg same status_valid.1
  rw [bulkIn, bulkOut _ (by rfl), status _ (by rfl)]
  simp [UsbWorld.close, UsbWorld.assign, UsbWorld.openFds, files, Ne.symm in_out,
    Ne.symm in_status, Ne.symm out_status]

private theorem opensAllOrNone_iff {answers : List UsbEvent} :
    OpensAllOrNone ⟨.initUsbDevice, answers⟩ ↔
      ∀ fd errno, Except.ok fd ∈ openResults answers →
        Except.error errno ∉ openResults answers := by
  simp only [OpensAllOrNone, ok_mem_openResults, error_mem_openResults, true_implies]

/-- One call of `ffs_transport_init_usb_device` keeps the descriptors consistent
exactly when it opens all of them or none. -/
theorem initUsbDevice_consistent_iff {conf : MtpConfig} {state : DriverState}
    {answers : List UsbEvent} {opened : Bool} {world : UsbWorld}
    (stdin : 0 ∈ state.world.inUse) (consistent : EndpointsConsistent state)
    (executed : (ffsTransportInitUsbDevice conf).exec UsbWorld.handle state.world answers =
      some (opened, world)) :
    world.inUse = state.world.inUse ∧
      (EndpointsConsistent ⟨world, some opened⟩ ↔ OpensAllOrNone ⟨.initUsbDevice, answers⟩) := by
  rw [opensAllOrNone_iff]
  rcases Program.exec_ensures (ffsTransportInitUsbDevice_ensures conf state.world) executed with
    ⟨already, none_opened, rfl, rfl⟩ | ⟨unopened, middle, pktSize, rxMqSz, txMqSz, outcome, rfl⟩
  · have isOpen : state.world.AllOpen := consistent.descriptors.resolve_left fun closed => by
      have bulkIn := closed.bulkIn
      omega
    refine ⟨rfl, iff_of_true ⟨.inr isOpen, ?_, consistent.closes⟩ (by simp [none_opened])⟩
    intro value same
    cases same
    exact iff_of_true rfl isOpen
  · have isClosed : state.world.AllClosed := consistent.descriptors.resolve_right fun isOpen =>
      unopened (isOpen.usbEpIn_pos stdin)
    generalize shape : openResults answers = opens at outcome
    cases outcome with
    | unopened errno =>
        refine ⟨rfl, iff_of_true ?_ (by simp)⟩
        have closed : (((state.world.setErrno errno).assign .bulkIn (-1)).setSizes
            pktSize rxMqSz txMqSz).AllClosed :=
          ⟨rfl, isClosed.bulkOut, isClosed.status, isClosed.files⟩
        constructor
        · exact .inl closed
        · intro value same
          cases same
          exact iff_of_false (by decide) fun isOpen => isOpen.not_allClosed closed
        · exact consistent.closes
    | @abandoned _ _ bulkIn errno unused succeeded failed stale closed inUse =>
        have mixed : ¬ ∀ fd errno, Except.ok fd ∈ opens → Except.error errno ∉ opens := by
          intro all
          exact all bulkIn errno succeeded failed
        refine ⟨inUse, iff_of_false ?_ mixed⟩
        intro after
        change middle.usbEpIn = bulkIn at stale
        rcases after.descriptors with isClosed | isOpen
        · have nowhere : middle.usbEpIn = -1 := isClosed.bulkIn
          have nonneg := unused.1
          omega
        · have files : middle.openFiles =
              [⟨middle.usbEpIn, .bulkIn⟩, ⟨middle.usbEpOut, .bulkOut⟩,
                ⟨middle.usbEpStatus, .status⟩] := isOpen.files
          exact closed (by simp [UsbWorld.openFds, files, stale])
    | @complete bulkIn bulkOut status in_unused out_unused status_unused distinct =>
        refine ⟨rfl, iff_of_true ?_ (by simp)⟩
        have isOpen : ((state.world.openAll bulkIn bulkOut status).setSizes
            pktSize rxMqSz txMqSz).AllOpen := by
          constructor
          · simp only [UsbWorld.setSizes, UsbWorld.openAll, isClosed.files, List.nil_append]
          · exact distinct
          · intro fd member
            change fd ∈ [bulkIn, bulkOut, status] at member
            simp only [List.mem_cons, List.not_mem_nil, or_false] at member
            rcases member with rfl | rfl | rfl
            · exact ⟨in_unused.1, in_unused.2.2⟩
            · exact ⟨out_unused.1, out_unused.2.2⟩
            · exact ⟨status_unused.1, status_unused.2.2⟩
        constructor
        · exact .inr isOpen
        · intro value same
          cases same
          exact iff_of_true rfl isOpen
        · exact consistent.closes

private theorem deinitUsbDevice_consistent {state : DriverState} {answers : List UsbEvent}
    {world : UsbWorld} (consistent : EndpointsConsistent state)
    (executed : ffsTransportDeinitUsbDevice.exec UsbWorld.handle state.world answers =
      some ((), world)) :
    world.inUse = state.world.inUse ∧ EndpointsConsistent ⟨world, none⟩ := by
  obtain ⟨errno, rfl⟩ :=
    Program.exec_ensures (ffsTransportDeinitUsbDevice_ensures state.world) executed
  rcases consistent.descriptors with closed | opened
  · rw [closed.deinit]
    refine ⟨rfl, .inl ⟨closed.bulkIn, closed.bulkOut, closed.status, closed.files⟩,
      by simp, consistent.closes⟩
  · rw [opened.deinit]
    refine ⟨rfl, .inl ⟨rfl, rfl, rfl, rfl⟩, by simp, ?_⟩
    intro call member
    rcases List.mem_append.mp member with earlier | added
    · exact consistent.closes call earlier
    · simp only [List.mem_cons, List.not_mem_nil, or_false] at added
      rcases added with rfl | rfl | rfl <;> rfl

private theorem driver_step_consistent_iff {conf : MtpConfig} {before after : DriverState}
    {call : DriverCall} (stdin : 0 ∈ before.world.inUse) (consistent : EndpointsConsistent before)
    (stepped : before.step conf call = some after) :
    after.world.inUse = before.world.inUse ∧
      (EndpointsConsistent after ↔ OpensAllOrNone call) := by
  obtain ⟨function, answers⟩ := call
  cases function with
  | initUsbDevice =>
      simp only [DriverState.step, Option.map_eq_some_iff] at stepped
      obtain ⟨⟨opened, world⟩, executed, rfl⟩ := stepped
      exact initUsbDevice_consistent_iff stdin consistent executed
  | deinitUsbDevice =>
      simp only [DriverState.step, Option.map_eq_some_iff] at stepped
      obtain ⟨⟨⟨⟩, world⟩, executed, rfl⟩ := stepped
      obtain ⟨inUse, kept⟩ := deinitUsbDevice_consistent consistent executed
      exact ⟨inUse, iff_of_true kept fun initializing => by cases initializing⟩

private theorem boot_consistent (inUse : List Int) : EndpointsConsistent (.boot inUse) :=
  ⟨.inl ⟨rfl, rfl, rfl, rfl⟩, by simp [DriverState.boot], by simp [DriverState.boot, UsbWorld.boot]⟩

/-- Over any sequence of calls, the descriptors are consistent after every call
exactly when no `open` of an initialization fails after another has succeeded. -/
theorem endpoints_consistent_iff (conf : MtpConfig) (inUse : List Int) (stdin : 0 ∈ inUse)
    (calls : List DriverCall) :
    Along (DriverState.step conf) (fun _ _ after => EndpointsConsistent after) (.boot inUse) calls ↔
      Along (DriverState.step conf) (fun _ call _ => OpensAllOrNone call) (.boot inUse) calls := by
  let holds (state : DriverState) : Prop := 0 ∈ state.world.inUse ∧ EndpointsConsistent state
  have start : holds (.boot inUse) := ⟨stdin, boot_consistent inUse⟩
  refine along_iff_along ?_ ?_ start
  · rintro before call after ⟨stdin, consistent⟩ stepped
    exact (driver_step_consistent_iff stdin consistent stepped).2
  · rintro before call after ⟨stdin, consistent⟩ stepped condition
    obtain ⟨inUse, same⟩ := driver_step_consistent_iff stdin consistent stepped
    exact ⟨inUse ▸ stdin, same.mpr condition⟩

def smallConfig : MtpConfig := ⟨512, 512, 4096, 512, 512, 16⟩

def openedAnswers (bulkIn bulkOut status : Int) : List UsbEvent :=
  [.memory, .opened bulkIn, .memory, .memory, .opened bulkOut, .memory, .memory,
    .opened status, .memory, .memory, .memory]

def closedAnswers : List UsbEvent :=
  [.memory, .memory, .closed, .memory, .memory, .memory, .closed, .memory,
    .memory, .memory, .closed, .memory]

theorem endpoints_consistent_reopened :
    Along (DriverState.step smallConfig) (fun _ _ after => EndpointsConsistent after) (.boot [0])
      [⟨.initUsbDevice, openedAnswers 3 4 5⟩, ⟨.deinitUsbDevice, closedAnswers⟩,
        ⟨.initUsbDevice, openedAnswers 5 3 4⟩] := by
  refine (endpoints_consistent_iff smallConfig [0] (by decide) _).mpr (along_of_forall_mem ?_)
  simp [OpensAllOrNone, openedAnswers]

/-- Bulk-out fails to open, and the driver is initialized and deinitialized again. -/
def failedOpenCalls : List DriverCall :=
  [⟨.initUsbDevice, [.memory, .opened 3, .memory, .memory, .openFailed .eio, .memory, .memory,
      .memory, .closed]⟩,
    ⟨.initUsbDevice, [.memory]⟩,
    ⟨.deinitUsbDevice, [.memory, .memory, .closed, .memory, .memory, .memory, .memory, .memory]⟩]

/-- The bulk-in global keeps the number of a closed descriptor: the second
initialization succeeds with nothing open, and the number is closed twice. -/
theorem endpoints_inconsistent_after_failed_open :
    ¬ Along (DriverState.step smallConfig) (fun _ _ after => EndpointsConsistent after) (.boot [0])
      failedOpenCalls ∧
    (run (DriverState.step smallConfig) (.boot [0]) (failedOpenCalls.take 2)).map
      (fun state => (state.returned, state.world.openFiles)) = some (some true, []) ∧
    (run (DriverState.step smallConfig) (.boot [0]) failedOpenCalls).map
      (fun state => state.world.closes) = some [⟨3, true⟩, ⟨3, false⟩] := by
  refine ⟨fun along => ?_, by decide, by decide⟩
  rcases along.1.descriptors with closed | opened
  · exact absurd closed.bulkIn (by decide)
  · exact absurd opened.files (by decide)

end VelaExternal.MtpResponder
