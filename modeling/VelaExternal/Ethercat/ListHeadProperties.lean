import VelaExternal.Ethercat.ListHead
import VelaExternal.Systems.Run

/-! The links in memory represent lists of entries, and the loops visit these. -/

set_option autoImplicit false

namespace VelaExternal.Ethercat

open Systems

/-- Every head has a ring of its entries. -/
def Represents (memory : ListMemory) (lists : Lists) : Prop :=
  ∀ head ∈ lists.heads, memory.Ring head (lists.entries head)

/-!
## The functions
-/

section Functions

variable {memory : ListMemory} {lists : Lists} {entry head list : Address}

theorem Represents.detach_free (represents : Represents memory lists) (free : lists.Free entry) :
    Represents memory (lists.detach entry) := by
  intro head member
  have kept := List.mem_of_mem_filter member
  have absent := free.2 head kept
  change memory.Ring head ((lists.entries head).erase entry)
  rw [List.erase_of_not_mem absent]
  exact represents head kept

/-- Whichever nodes of the ring of `head` are joined, the other rings are as they were. -/
theorem Represents.join_elsewhere (represents : Represents memory lists) {first second : Address}
    {other : Address} (member : head ∈ lists.heads) (other_member : other ∈ lists.heads)
    (different : other ≠ head) (left : first ∈ head :: lists.entries head)
    (reached : second ∈ head :: lists.entries head) :
    (memory.join first second).Ring other (lists.entries other) := by
  apply (represents other other_member).join_of_apart
  · intro present
    exact different (lists.apart other other_member head member first present left)
  · intro present
    exact different (lists.apart other other_member head member second present reached)

private theorem listDel_represents (represents : Represents memory lists) (linked : lists.Linked entry) :
    Represents (listDel memory entry) (lists.detach entry) := by
  intro other other_kept
  obtain ⟨other_member, other_ne⟩ := List.mem_filter.mp other_kept
  change (memory.join (memory.prev entry) (memory.next entry)).Ring other
    ((lists.entries other).erase entry)
  obtain ⟨member, empty⟩ | ⟨head, member, present⟩ := linked
  · have ring := represents entry member
    have different : other ≠ entry := of_decide_eq_true other_ne
    have absent : entry ∉ lists.entries other := by
      intro present
      exact different (lists.apart other other_member entry member entry
        (List.mem_cons_of_mem other present) List.mem_cons_self)
    rw [List.erase_of_not_mem absent]
    exact represents.join_elsewhere member other_member different ring.prev_mem ring.next_mem
  · obtain ⟨before, after, split⟩ := List.append_of_mem present
    have ring := represents head member
    have nodup := (List.nodup_cons.mp (lists.nodup head member)).2
    rw [split] at ring nodup
    obtain ⟨prev_mem, next_mem, removed⟩ := ring.remove
    have not_before : entry ∉ before := by
      intro early
      exact (List.nodup_append.mp nodup).2.2 entry early entry List.mem_cons_self rfl
    by_cases same : other = head
    · subst same
      rw [split, List.erase_append_right _ not_before, List.erase_cons_head]
      exact removed
    · have absent : entry ∉ lists.entries other := by
        intro here
        exact same (lists.apart other other_member head member entry
          (List.mem_cons_of_mem other here) (List.mem_cons_of_mem head present))
      rw [List.erase_of_not_mem absent]
      apply represents.join_elsewhere member other_member same
      · rw [split]
        grind
      · rw [split]
        grind

private theorem initListHead_represents (represents : Represents memory lists)
    (fresh : lists.Fresh list) :
    Represents (initListHead memory list) (lists.addHead list fresh) := by
  intro other member
  change (memory.join list list).Ring other (Function.update lists.entries list [] other)
  rcases List.mem_cons.mp member with rfl | old
  · rw [Function.update_self]
    exact Links.ring_join_self memory other
  · rw [Function.update_of_ne (fresh.ne old)]
    exact (represents other old).join_of_apart (fresh other old) (fresh other old)

/-- An insertion next to the head of a list, as long as its ring is as it is to be. -/
theorem insert_represents (represents : Represents memory lists) (member : head ∈ lists.heads)
    (fresh : lists.Fresh entry) {first second : Address} {entries : List Address}
    (perm : entries.Perm (entry :: lists.entries head))
    (left : first ∈ head :: lists.entries head) (reached : second ∈ head :: lists.entries head)
    (ring : (memory.insert entry first second).Ring head entries) :
    Represents (memory.insert entry first second) (lists.put entry head entries perm fresh) := by
  intro other other_member
  change (memory.insert entry first second).Ring other
    (Function.update lists.entries head entries other)
  by_cases same : other = head
  · subst same
    rwa [Function.update_self]
  · rw [Function.update_of_ne same]
    apply (represents other other_member).insert_of_apart (fresh other other_member)
    · intro present
      exact same (lists.apart other other_member head member first present left)
    · intro present
      exact same (lists.apart other other_member head member second present reached)

private theorem listAdd_represents (represents : Represents memory lists) (member : head ∈ lists.heads)
    (fresh : lists.Fresh entry) :
    Represents (listAdd memory entry head)
      (lists.put entry head (entry :: lists.entries head) (List.Perm.refl _) fresh) := by
  have ring := represents head member
  exact insert_represents represents member fresh _ List.mem_cons_self ring.next_mem
    (ring.insert_first (fresh head member))

private theorem listAddTail_represents (represents : Represents memory lists) (member : head ∈ lists.heads)
    (fresh : lists.Fresh entry) :
    Represents (listAddTail memory entry head)
      (lists.put entry head (lists.entries head ++ [entry]) (List.perm_append_singleton ..)
        fresh) := by
  have ring := represents head member
  exact insert_represents represents member fresh _ ring.prev_mem List.mem_cons_self
    (ring.insert_last (fresh head member))

theorem mem_heads_detach (member : head ∈ lists.heads) (different : head ≠ entry) :
    head ∈ (lists.detach entry).heads :=
  List.mem_filter.mpr ⟨member, decide_eq_true different⟩

/-- Every call does to the links what it is to do to the lists. -/
theorem perform_represents {lists after : Lists} {call : ListCall}
    (represents : Represents memory lists) (stepped : lists.step call = some after) :
    Represents (call.perform memory) after := by
  cases call with
  | initListHead list =>
      simp only [Lists.step, Option.ite_none_right_eq_some, Option.some.injEq] at stepped
      obtain ⟨free, rfl⟩ := stepped
      exact initListHead_represents (represents.detach_free free) (lists.fresh_detach list)
  | listAdd entry head =>
      simp only [Lists.step, Option.ite_none_right_eq_some, Option.some.injEq] at stepped
      obtain ⟨⟨free, member, different⟩, rfl⟩ := stepped
      exact listAdd_represents (represents.detach_free free) (mem_heads_detach member different)
        (lists.fresh_detach entry)
  | listAddTail entry head =>
      simp only [Lists.step, Option.ite_none_right_eq_some, Option.some.injEq] at stepped
      obtain ⟨⟨free, member, different⟩, rfl⟩ := stepped
      exact listAddTail_represents (represents.detach_free free)
        (mem_heads_detach member different) (lists.fresh_detach entry)
  | listDel entry =>
      simp only [Lists.step, Option.ite_none_right_eq_some, Option.some.injEq] at stepped
      obtain ⟨linked, rfl⟩ := stepped
      exact listDel_represents represents linked
  | listDelInit entry =>
      simp only [Lists.step, Option.ite_none_right_eq_some, Option.some.injEq] at stepped
      obtain ⟨linked, rfl⟩ := stepped
      exact initListHead_represents (listDel_represents represents linked)
        (lists.fresh_detach entry)
  | listMoveTail list head =>
      simp only [Lists.step, Option.ite_none_right_eq_some, Option.some.injEq] at stepped
      obtain ⟨⟨linked, member, different⟩, rfl⟩ := stepped
      exact listAddTail_represents (listDel_represents represents linked)
        (mem_heads_detach member different) (lists.fresh_detach list)

end Functions

/-!
## Loops that leave the links alone
-/

section Loops

variable {State : Type} {memory : State → ListMemory} {body : Address → State → State}
  {head member : Address} {state : State} {tests : Nat}

theorem containerOf_add (ptr member : Address) : containerOf ptr member + member = ptr :=
  BitVec.sub_add_cancel ptr member

/-- What the body has done to the state when it has run for all nodes. -/
def afterEntries (body : Address → State → State) (member : Address) (nodes : List Address)
    (state : State) : State :=
  nodes.foldl (fun state node => body (containerOf node member) state) state

def containers (member : Address) (nodes : List Address) : List Address :=
  nodes.map fun node => containerOf node member

theorem path_next {next : Address → Address} {node : Address} {path : List Address}
    (joined : (node :: (path ++ [head])).IsChain fun first second => next first = second) :
    next node = path.headD head ∧
      (path ++ [head]).IsChain fun first second => next first = second := by
  cases path with
  | nil => exact ⟨(List.isChain_cons_cons.mp joined).1, joined.tail⟩
  | cons second path => exact ⟨(List.isChain_cons_cons.mp joined).1, joined.tail⟩

/-- The loop follows a path of links to the head. -/
theorem entryLoop_path {link : ListMemory → Address → Address} {path : List Address}
    (unchanged : ∀ pos state, memory (body pos state) = memory state)
    (joined : (path ++ [head]).IsChain fun first second => link (memory state) first = second)
    (absent : head ∉ path) (enough : path.length < tests) :
    entryLoop memory body head member link tests (containerOf (path.headD head) member) state =
      some (containers member path, afterEntries body member path state) := by
  induction path generalizing state tests with
  | nil =>
      cases tests with
      | zero => cases enough
      | succ tests => simp [entryLoop, containerOf_add, containers, afterEntries]
  | cons node path ih =>
      cases tests with
      | zero => cases enough
      | succ tests =>
          have different : node ≠ head := fun same => absent (same ▸ List.mem_cons_self)
          obtain ⟨follows, later⟩ := path_next joined
          have unmoved : (path ++ [head]).IsChain fun first second =>
              link (memory (body (containerOf node member) state)) first = second := by
            rwa [unchanged]
          have rest := ih unmoved (fun present => absent (List.mem_cons_of_mem node present))
            (Nat.lt_of_succ_lt_succ enough)
          simp only [entryLoop, List.headD_cons, containerOf_add, if_neg different, unchanged,
            follows, rest, Option.map_some]
          rfl

section Direction

variable (turn : ListMemory → ListMemory) {entries before after : List Address} {entry : Address}

/-- From the head of a ring, in either direction. -/
theorem entryLoop_ring (unchanged : ∀ pos state, memory (body pos state) = memory state)
    (ring : (turn (memory state)).Ring head entries) (enough : entries.length < tests) :
    entryLoop memory body head member (fun memory => (turn memory).next) tests
        (containerOf ((turn (memory state)).next head) member) state =
      some (containers member entries, afterEntries body member entries state) := by
  obtain ⟨first, joined⟩ := path_next (ring.walk.imp fun _ _ joined => joined.1)
  rw [first]
  exact entryLoop_path unchanged joined (List.nodup_cons.mp ring.nodup).1 enough

/-- From an entry of a ring on, in either direction. -/
theorem entryLoop_from (unchanged : ∀ pos state, memory (body pos state) = memory state)
    (ring : (turn (memory state)).Ring head (before ++ entry :: after))
    (enough : after.length + 1 < tests) :
    entryLoop memory body head member (fun memory => (turn memory).next) tests
        (containerOf entry member) state =
      some (containers member (entry :: after), afterEntries body member (entry :: after) state) := by
  have walk := ring.walk.imp fun _ _ joined => joined.1
  rw [List.append_assoc, ← List.cons_append] at walk
  have absent : head ∉ entry :: after := fun present =>
    (List.nodup_cons.mp ring.nodup).1 (List.mem_append_right before present)
  have joined : (entry :: after ++ [head]).IsChain fun first second =>
      (turn (memory state)).next first = second := walk.right_of_append
  exact entryLoop_path unchanged joined absent enough

/-- From behind an entry of a ring, in either direction. -/
theorem entryLoop_behind (unchanged : ∀ pos state, memory (body pos state) = memory state)
    (ring : (turn (memory state)).Ring head (before ++ entry :: after))
    (enough : after.length < tests) :
    entryLoop memory body head member (fun memory => (turn memory).next) tests
        (containerOf ((turn (memory state)).next entry) member) state =
      some (containers member after, afterEntries body member after state) := by
  have walk := ring.walk.imp fun _ _ joined => joined.1
  rw [List.append_assoc, ← List.cons_append] at walk
  obtain ⟨first, joined⟩ := path_next walk.right_of_append
  have absent : head ∉ after := fun present =>
    (List.nodup_cons.mp ring.nodup).1
      (List.mem_append_right before (List.mem_cons_of_mem entry present))
  rw [first]
  exact entryLoop_path unchanged joined absent enough

end Direction

end Loops

/-- A loop body, over any state, that leaves the links alone. -/
structure Reading (State : Type) where
  memory : State → ListMemory
  body : Address → State → State
  unchanged : ∀ pos state, memory (body pos state) = memory state

def Reading.outcome {State : Type} (reading : Reading State) (member : Address)
    (nodes : List Address) (state : State) : Option (List Address × State) :=
  some (containers member nodes, afterEntries reading.body member nodes state)

/-- What the functions and the loops over a list find in memory: from its head all entries,
in order or the other way around, and from an entry those that are behind or before it. -/
structure Visits (memory : ListMemory) (head : Address) (entries : List Address) : Prop where
  empty : listEmpty memory head = true ↔ entries = []
  first : ∀ member, listFirstEntry memory head member = containerOf (entries.headD head) member
  last : ∀ member, listLastEntry memory head member = containerOf (entries.getLastD head) member
  forward : ∀ {State : Type} (reading : Reading State) state member tests,
    reading.memory state = memory → entries.length < tests →
    listForEachEntry reading.memory reading.body head member tests state =
      reading.outcome member entries state
  backward : ∀ {State : Type} (reading : Reading State) state member tests,
    reading.memory state = memory → entries.length < tests →
    listForEachEntryReverse reading.memory reading.body head member tests state =
      reading.outcome member entries.reverse state
  onward : ∀ {State : Type} (reading : Reading State) state member tests before entry after,
    reading.memory state = memory → entries.length < tests → entries = before ++ entry :: after →
    listForEachEntryFrom reading.memory reading.body head member tests
        (containerOf entry member) state =
      reading.outcome member (entry :: after) state ∧
    listForEachEntryContinue reading.memory reading.body head member tests
        (containerOf entry member) state =
      reading.outcome member after state ∧
    listForEachEntryContinueReverse reading.memory reading.body head member tests
        (containerOf entry member) state =
      reading.outcome member before.reverse state

theorem visits_of_ring {memory : ListMemory} {head : Address} {entries : List Address}
    (ring : memory.Ring head entries) : Visits memory head entries := by
  have nodup := List.nodup_cons.mp ring.nodup
  have next := (path_next (ring.walk.imp fun _ _ joined => joined.1)).1
  have prev := (path_next (ring.reverse.walk.imp fun _ _ joined => joined.1)).1
  constructor
  · rw [listEmpty, decide_eq_true_iff, next]
    cases entries with
    | nil => simp
    | cons node entries =>
        have different : node ≠ head := fun same => nodup.1 (same ▸ List.mem_cons_self)
        simp [different]
  · intro member
    rw [listFirstEntry, next]
  · intro member
    have turned : memory.swap.next head = memory.prev head := rfl
    rw [listLastEntry, ← turned, prev]
    simp [List.headD_eq_head?_getD, List.getLastD_eq_getLast?]
  · intro State reading state member tests rfl enough
    exact entryLoop_ring id reading.unchanged ring enough
  · intro State reading state member tests rfl enough
    exact entryLoop_ring Links.swap reading.unchanged ring.reverse (by simpa using enough)
  · intro State reading state member tests before entry after rfl enough rfl
    rw [List.length_append, List.length_cons] at enough
    have turned := ring.reverse
    rw [List.reverse_append, List.reverse_cons, List.append_assoc] at turned
    rw [listForEachEntryFrom, listForEachEntryContinue, listForEachEntryContinueReverse,
      containerOf_add]
    refine ⟨?_, ?_, ?_⟩
    · exact entryLoop_from id reading.unchanged ring (by omega)
    · exact entryLoop_behind id reading.unchanged ring (by omega)
    · exact entryLoop_behind Links.swap reading.unchanged turned (by simp; omega)

/-!
## Runs of calls
-/

/-- The memory that the calls change, and the lists that they stand for. -/
structure ListState where
  memory : ListMemory
  lists : Lists

def ListState.step (state : ListState) (call : ListCall) : Option ListState :=
  (state.lists.step call).map fun lists => ⟨call.perform state.memory, lists⟩

private theorem step_represents (before : ListState) (call : ListCall) (after : ListState)
    (represents : Represents before.memory before.lists)
    (stepped : before.step call = some after) : Represents after.memory after.lists := by
  simp only [ListState.step, Option.map_eq_some_iff] at stepped
  obtain ⟨lists, performed, rfl⟩ := stepped
  exact perform_represents represents performed

theorem calls_represent {memory : ListMemory} {calls : List ListCall} {final : ListState}
    (reached : run ListState.step ⟨memory, .empty⟩ calls = some final) :
    Represents final.memory final.lists := by
  have start : Represents memory .empty := nofun
  have represents := run_invariant step_represents start reached
  exact represents

/-- After any calls, from any memory, every list can be walked through as its entries say. -/
theorem list_calls_represent {memory : ListMemory} {calls : List ListCall} {final : ListState}
    (reached : run ListState.step ⟨memory, .empty⟩ calls = some final) :
    ∀ head ∈ final.lists.heads, Visits final.memory head (final.lists.entries head) := by
  intro head member
  exact visits_of_ring (calls_represent reached head member)

def unwritten : ListMemory := ⟨fun _ => 0, fun _ => 0⟩

/-- An entry that was deleted is added again, and one is moved to the other list. -/
def twoLists : List ListCall :=
  [.initListHead 4096, .initListHead 8192, .listAdd 64 4096, .listAddTail 128 4096,
    .listAdd 192 4096, .listDel 64, .listAddTail 64 8192, .listMoveTail 192 8192]

theorem twoLists_reached : ∃ final,
    run ListState.step ⟨unwritten, .empty⟩ twoLists = some final ∧
      final.lists.heads = [8192, 4096] ∧ final.lists.entries 4096 = [128] ∧
      final.lists.entries 8192 = [64, 192] := by
  have computed : (run ListState.step ⟨unwritten, .empty⟩ twoLists).map (fun final =>
      (final.lists.heads, final.lists.entries 4096, final.lists.entries 8192)) =
        some ([8192, 4096], [128], [64, 192]) := by decide +kernel
  obtain ⟨final, reached, found⟩ := Option.map_eq_some_iff.mp computed
  exact ⟨final, reached, by simpa only [Prod.mk.injEq] using found⟩

theorem list_calls_represent_two : ∃ final,
    run ListState.step ⟨unwritten, .empty⟩ twoLists = some final ∧
      Visits final.memory 4096 [128] ∧ Visits final.memory 8192 [64, 192] := by
  obtain ⟨final, reached, heads, first, second⟩ := twoLists_reached
  have visits := list_calls_represent reached
  rw [heads] at visits
  refine ⟨final, reached, ?_, ?_⟩
  · exact first ▸ visits 4096 (by simp)
  · exact second ▸ visits 8192 (by simp)

end VelaExternal.Ethercat
