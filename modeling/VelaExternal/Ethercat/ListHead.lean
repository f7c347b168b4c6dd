import VelaExternal.Systems.Ring

/-!
# Linked lists

The lists of `nuttx/linux/list.h`. A `list_head` has the links of a node; it is a member of
the structure that is in the list, which its macros find by an offset. The loops of the
macros are run for a number of tests of their condition.
-/

set_option autoImplicit false

namespace VelaExternal.Ethercat

open Systems

abbrev Address := BitVec 64

/-- The links of every `list_head` in memory. -/
abbrev ListMemory := Links Address

/-!
## Functions
-/

def initListHead (memory : ListMemory) (list : Address) : ListMemory :=
  (memory.setPrev list list).setNext list list

/-- `__list_add` -/
def listAddBetween (memory : ListMemory) (entry prev next : Address) : ListMemory :=
  (((memory.setPrev next entry).setNext entry next).setPrev entry prev).setNext prev entry

def listAdd (memory : ListMemory) (entry head : Address) : ListMemory :=
  listAddBetween memory entry head (memory.next head)

def listAddTail (memory : ListMemory) (entry head : Address) : ListMemory :=
  listAddBetween memory entry (memory.prev head) head

/-- `__list_del` -/
def listDelBetween (memory : ListMemory) (prev next : Address) : ListMemory :=
  (memory.setPrev next prev).setNext prev next

def listDel (memory : ListMemory) (entry : Address) : ListMemory :=
  listDelBetween memory (memory.prev entry) (memory.next entry)

def listDelInit (memory : ListMemory) (entry : Address) : ListMemory :=
  initListHead (listDelBetween memory (memory.prev entry) (memory.next entry)) entry

def listMoveTail (memory : ListMemory) (list head : Address) : ListMemory :=
  listAddTail (listDelBetween memory (memory.prev list) (memory.next list)) list head

def listEmpty (memory : ListMemory) (head : Address) : Bool := memory.next head = head

/-!
## Loops
-/

/-- The structure in which a `list_head` is the member at an offset. -/
def containerOf (ptr member : Address) : Address := ptr - member

def listFirstEntry (memory : ListMemory) (ptr member : Address) : Address :=
  containerOf (memory.next ptr) member

def listLastEntry (memory : ListMemory) (ptr member : Address) : Address :=
  containerOf (memory.prev ptr) member

section Loops

variable {State : Type} (memory : State → ListMemory) (body : Address → State → State)
  (head member : Address)

/-- The loop from `pos` on, with the values that `pos` takes in its body. -/
def entryLoop (link : ListMemory → Address → Address) :
    Nat → Address → State → Option (List Address × State)
  | 0, _, _ => none
  | tests + 1, pos, state =>
      if pos + member = head then some ([], state)
      else
        let after := body pos state
        let next := containerOf (link (memory after) (pos + member)) member
        (entryLoop link tests next after).map fun rest => (pos :: rest.1, rest.2)

def listForEachEntry (tests : Nat) (state : State) : Option (List Address × State) :=
  entryLoop memory body head member Links.next tests
    (containerOf ((memory state).next head) member) state

def listForEachEntryReverse (tests : Nat) (state : State) : Option (List Address × State) :=
  entryLoop memory body head member Links.prev tests
    (containerOf ((memory state).prev head) member) state

def listForEachEntryContinue (tests : Nat) (pos : Address) (state : State) :
    Option (List Address × State) :=
  entryLoop memory body head member Links.next tests
    (containerOf ((memory state).next (pos + member)) member) state

def listForEachEntryContinueReverse (tests : Nat) (pos : Address) (state : State) :
    Option (List Address × State) :=
  entryLoop memory body head member Links.prev tests
    (containerOf ((memory state).prev (pos + member)) member) state

def listForEachEntryFrom (tests : Nat) (pos : Address) (state : State) :
    Option (List Address × State) :=
  entryLoop memory body head member Links.next tests pos state

/-- The loop that has the next structure at hand before its body runs. -/
def entryLoopSafe : Nat → Address → Address → State → Option (List Address × State)
  | 0, _, _, _ => none
  | tests + 1, pos, tmp, state =>
      if pos + member = head then some ([], state)
      else
        let after := body pos state
        let next := containerOf ((memory after).next (tmp + member)) member
        (entryLoopSafe tests tmp next after).map fun rest => (pos :: rest.1, rest.2)

def listForEachEntrySafe (tests : Nat) (state : State) : Option (List Address × State) :=
  let pos := containerOf ((memory state).next head) member
  let tmp := containerOf ((memory state).next (pos + member)) member
  entryLoopSafe memory body head member tests pos tmp state

end Loops

/-!
## Lists as sequences
-/

/-- Heads with the entries of their lists; no node is at two places. -/
structure Lists where
  heads : List Address
  entries : Address → List Address
  nodup : ∀ head ∈ heads, (head :: entries head).Nodup
  apart : ∀ first ∈ heads, ∀ second ∈ heads, ∀ node ∈ first :: entries first,
    node ∈ second :: entries second → first = second

namespace Lists

def empty : Lists := ⟨[], fun _ => [], nofun, nofun⟩

/-- No list has the node, as its head or as an entry. -/
def Fresh (lists : Lists) (node : Address) : Prop :=
  ∀ head ∈ lists.heads, node ∉ head :: lists.entries head

/-- Without the node, as a head or as an entry. -/
def detach (lists : Lists) (node : Address) : Lists where
  heads := lists.heads.filter fun head => head ≠ node
  entries head := (lists.entries head).erase node
  nodup head member :=
    have erased : List.Sublist (head :: (lists.entries head).erase node)
        (head :: lists.entries head) := List.erase_sublist.cons_cons head
    (lists.nodup head (List.mem_of_mem_filter member)).sublist erased
  apart first first_member second second_member node' in_first in_second :=
    lists.apart first (List.mem_of_mem_filter first_member) second
      (List.mem_of_mem_filter second_member) node'
      ((List.erase_sublist.cons_cons first).mem in_first)
      ((List.erase_sublist.cons_cons second).mem in_second)

theorem fresh_detach (lists : Lists) (node : Address) : (lists.detach node).Fresh node := by
  intro head member present
  obtain ⟨member, different⟩ := List.mem_filter.mp member
  rcases List.mem_cons.mp present with rfl | present
  · exact of_decide_eq_true different rfl
  · have nodup := (List.nodup_cons.mp (lists.nodup head member)).2
    exact nodup.not_mem_erase present

theorem Fresh.ne {lists : Lists} {node head : Address} (fresh : lists.Fresh node)
    (member : head ∈ lists.heads) : head ≠ node :=
  fun same => fresh head member (same ▸ List.mem_cons_self)

def addHead (lists : Lists) (new : Address) (fresh : lists.Fresh new) : Lists where
  heads := new :: lists.heads
  entries := Function.update lists.entries new []
  nodup head member := by
    rcases List.mem_cons.mp member with rfl | member
    · simp
    · rw [Function.update_of_ne (fresh.ne member)]
      exact lists.nodup head member
  apart first first_member second second_member node in_first in_second := by
    rcases List.mem_cons.mp first_member with rfl | old_first
    · rw [Function.update_self, List.mem_singleton] at in_first
      rcases List.mem_cons.mp second_member with rfl | old_second
      · rfl
      · rw [Function.update_of_ne (fresh.ne old_second), in_first] at in_second
        exact absurd in_second (fresh second old_second)
    · rw [Function.update_of_ne (fresh.ne old_first)] at in_first
      rcases List.mem_cons.mp second_member with rfl | old_second
      · rw [Function.update_self, List.mem_singleton] at in_second
        exact absurd (in_second ▸ in_first) (fresh first old_first)
      · rw [Function.update_of_ne (fresh.ne old_second)] at in_second
        exact lists.apart first old_first second old_second node in_first in_second

/-- Where a node may be after `entry` has joined the entries of `head`. -/
theorem mem_update {lists : Lists} {entry head other node : Address} {entries : List Address}
    (perm : entries.Perm (entry :: lists.entries head))
    (member : node ∈ other :: Function.update lists.entries head entries other) :
    (other = head ∧ node = entry) ∨ node ∈ other :: lists.entries other := by
  by_cases same : other = head
  · subst same
    rw [Function.update_self, List.mem_cons, perm.mem_iff] at member
    grind
  · rw [Function.update_of_ne same] at member
    exact .inr member

/-- With `entries` in the place of those of `head`, of which one is new. -/
def put (lists : Lists) (entry head : Address) (entries : List Address)
    (perm : entries.Perm (entry :: lists.entries head)) (fresh : lists.Fresh entry) : Lists where
  heads := lists.heads
  entries := Function.update lists.entries head entries
  nodup other member := by
    by_cases same : other = head
    · subst same
      rw [Function.update_self, ((perm.cons other).trans (List.Perm.swap ..)).nodup_iff]
      exact List.nodup_cons.mpr ⟨fresh other member, lists.nodup other member⟩
    · rw [Function.update_of_ne same]
      exact lists.nodup other member
  apart first first_member second second_member node in_first in_second := by
    rcases mem_update perm in_first with ⟨rfl, rfl⟩ | old_first
    · rcases mem_update perm in_second with ⟨rfl, -⟩ | old_second
      · rfl
      · exact absurd old_second (fresh second second_member)
    · rcases mem_update perm in_second with ⟨rfl, rfl⟩ | old_second
      · exact absurd old_first (fresh first first_member)
      · exact lists.apart first first_member second second_member node old_first old_second

/-- The node is in no list, and is no head of one that has entries. -/
def Free (lists : Lists) (node : Address) : Prop :=
  (node ∈ lists.heads → lists.entries node = []) ∧ ∀ head ∈ lists.heads, node ∉ lists.entries head

/-- The node is an entry of a list, or the head of an empty one. -/
def Linked (lists : Lists) (node : Address) : Prop :=
  (node ∈ lists.heads ∧ lists.entries node = []) ∨ ∃ head ∈ lists.heads, node ∈ lists.entries head

-- The heads are gone through, not all addresses.
instance (lists : Lists) (node : Address) : Decidable (lists.Free node) :=
  haveI : Decidable (∀ head ∈ lists.heads, node ∉ lists.entries head) := List.decidableBAll _ _
  inferInstanceAs (Decidable (_ ∧ _))

instance (lists : Lists) (node : Address) : Decidable (lists.Linked node) :=
  haveI : Decidable (∃ head ∈ lists.heads, node ∈ lists.entries head) := List.decidableBEx _ _
  inferInstanceAs (Decidable (_ ∨ _))

def addFirst (lists : Lists) (entry head : Address) : Lists :=
  (lists.detach entry).put entry head (entry :: (lists.detach entry).entries head)
    (List.Perm.refl _) (lists.fresh_detach entry)

def addLast (lists : Lists) (entry head : Address) : Lists :=
  (lists.detach entry).put entry head ((lists.detach entry).entries head ++ [entry])
    (List.perm_append_singleton ..) (lists.fresh_detach entry)

def reset (lists : Lists) (head : Address) : Lists :=
  (lists.detach head).addHead head (lists.fresh_detach head)

end Lists

inductive ListCall where
  | initListHead (list : Address)
  | listAdd (entry head : Address)
  | listAddTail (entry head : Address)
  | listDel (entry : Address)
  | listDelInit (entry : Address)
  | listMoveTail (list head : Address)
  deriving DecidableEq

def ListCall.perform (memory : ListMemory) : ListCall → ListMemory
  | .initListHead list => Ethercat.initListHead memory list
  | .listAdd entry head => Ethercat.listAdd memory entry head
  | .listAddTail entry head => Ethercat.listAddTail memory entry head
  | .listDel entry => Ethercat.listDel memory entry
  | .listDelInit entry => Ethercat.listDelInit memory entry
  | .listMoveTail list head => Ethercat.listMoveTail memory list head

/-- What a call is for, and `none` where it is not to be made: an entry is added that is in
no list, and one is deleted or moved that is in a list. -/
def Lists.step (lists : Lists) : ListCall → Option Lists
  | .initListHead list => if lists.Free list then some (lists.reset list) else none
  | .listAdd entry head =>
      if lists.Free entry ∧ head ∈ lists.heads ∧ head ≠ entry then
        some (lists.addFirst entry head)
      else none
  | .listAddTail entry head =>
      if lists.Free entry ∧ head ∈ lists.heads ∧ head ≠ entry then
        some (lists.addLast entry head)
      else none
  | .listDel entry => if lists.Linked entry then some (lists.detach entry) else none
  | .listDelInit entry => if lists.Linked entry then some (lists.reset entry) else none
  | .listMoveTail list head =>
      if lists.Linked list ∧ head ∈ lists.heads ∧ head ≠ list then
        some (lists.addLast list head)
      else none

end VelaExternal.Ethercat
