import Mathlib.Data.List.Chain
import Mathlib.Data.List.Nodup
import Mathlib.Logic.Function.Basic

/-!
# Doubly linked rings

Nodes that each name a next and a previous node. A walk follows the links from node to node
and back again; a ring is a walk that comes back to its head. A walk depends only on the
nodes that it leaves and on those that it reaches, so a change of two links next to each
other takes a node out of a walk or brings one in, and leaves the other walks alone.
-/

set_option autoImplicit false

namespace VelaExternal.Systems

universe u

structure Links (Node : Type u) where
  next : Node → Node
  prev : Node → Node

namespace Links

section Paths

variable {Node : Type u} {links : Links Node} {before after entries : List Node}
  {first second entry head : Node}

/-- One gets from `first` to `second` and back. -/
def Joined (links : Links Node) (first second : Node) : Prop :=
  links.next first = second ∧ links.prev second = first

abbrev Walk (links : Links Node) (path : List Node) : Prop := path.IsChain links.Joined

/-- Nothing is left twice, and nothing is reached twice. -/
structure Simple (path : List Node) : Prop where
  left : path.dropLast.Nodup
  reached : path.tail.Nodup

theorem tail_append_cons (before after : List Node) (first : Node) :
    (before ++ first :: after).tail = (before ++ [first]).tail ++ after := by
  cases before with
  | nil => rfl
  | cons node before => simp

theorem Simple.left_apart (simple : Simple (before ++ first :: second :: after)) :
    first ∉ before ∧ first ∉ (second :: after).dropLast := by
  have left := simple.left
  rw [List.dropLast_append_cons, List.dropLast_cons_cons] at left
  obtain ⟨-, later, apart⟩ := List.nodup_append.mp left
  exact ⟨fun member => apart _ member _ List.mem_cons_self rfl, (List.nodup_cons.mp later).1⟩

theorem Simple.reached_apart (simple : Simple (before ++ first :: second :: after)) :
    second ∉ (before ++ [first]).tail ∧ second ∉ after := by
  have reached := simple.reached
  rw [tail_append_cons] at reached
  obtain ⟨-, later, apart⟩ := List.nodup_append.mp reached
  exact ⟨fun member => apart _ member _ List.mem_cons_self rfl, (List.nodup_cons.mp later).1⟩

theorem Simple.remove (simple : Simple (before ++ first :: entry :: second :: after)) :
    Simple (before ++ first :: second :: after) := by
  constructor
  · refine simple.left.sublist ?_
    simp only [List.dropLast_append_cons, List.dropLast_cons_cons]
    exact ((List.sublist_cons_self ..).cons_cons first).append_left before
  · refine simple.reached.sublist ?_
    rw [tail_append_cons before (second :: after), tail_append_cons before (entry :: _)]
    exact (List.sublist_cons_self ..).append_left _

theorem Simple.suffix (simple : Simple (before ++ first :: after)) : Simple (first :: after) := by
  constructor
  · refine simple.left.sublist ?_
    rw [List.dropLast_append_cons]
    exact List.sublist_append_right ..
  · refine simple.reached.sublist ?_
    rw [tail_append_cons]
    exact List.sublist_append_right ..

/-- The entries in order, as one meets them on the way from the head back to it. -/
structure Ring (links : Links Node) (head : Node) (entries : List Node) : Prop where
  walk : links.Walk (head :: (entries ++ [head]))
  nodup : (head :: entries).Nodup

theorem simple_ring (nodup : (head :: entries).Nodup) : Simple (head :: (entries ++ [head])) := by
  constructor
  · rw [← List.cons_append, List.dropLast_concat]
    exact nodup
  · exact List.nodup_append_comm.mp nodup

/-- The links the other way around. -/
def swap (links : Links Node) : Links Node := ⟨links.prev, links.next⟩

theorem Ring.reverse (ring : links.Ring head entries) : links.swap.Ring head entries.reverse := by
  constructor
  · have backwards : head :: (entries.reverse ++ [head]) =
        (head :: (entries ++ [head])).reverse := by simp
    have same : links.swap.Joined = fun first second => links.Joined second first := by
      funext first second
      exact propext And.comm
    rw [Walk, backwards, List.isChain_reverse, same]
    exact ring.walk
  · have perm : (head :: entries.reverse).Perm (head :: entries) := entries.reverse_perm.cons head
    exact perm.nodup_iff.mpr ring.nodup

/-- Any node of a ring may serve as its head. -/
theorem Ring.rotate (ring : links.Ring head (before ++ entry :: after)) :
    links.Ring entry (after ++ head :: before) := by
  have walk := ring.walk
  rw [List.append_assoc, List.cons_append, ← List.cons_append] at walk
  obtain ⟨begins, ends⟩ := List.isChain_split.mp walk
  constructor
  · have rotated : entry :: (after ++ head :: before ++ [entry]) =
        (entry :: after) ++ head :: (before ++ [entry]) := by simp
    rw [Walk, rotated, List.isChain_split]
    exact ⟨ends, begins⟩
  · have perm : (entry :: after ++ head :: before).Perm (head :: before ++ entry :: after) :=
      List.perm_append_comm
    exact perm.nodup_iff.mpr ring.nodup

theorem Ring.next_mem (ring : links.Ring head entries) : links.next head ∈ head :: entries := by
  cases entries with
  | nil => simp [(List.isChain_cons_cons.mp ring.walk).1.1]
  | cons node rest => simp [(List.isChain_cons_cons.mp ring.walk).1.1]

theorem Ring.next_mem_of_mem {node : Node} (ring : links.Ring head entries)
    (member : node ∈ head :: entries) : links.next node ∈ head :: entries := by
  rcases List.mem_cons.mp member with rfl | member
  · exact ring.next_mem
  · obtain ⟨before, after, rfl⟩ := List.append_of_mem member
    have onward := ring.rotate.next_mem
    have perm : (node :: after ++ head :: before).Perm (head :: before ++ node :: after) :=
      List.perm_append_comm
    exact perm.mem_iff.mp onward

theorem Ring.prev_mem (ring : links.Ring head entries) : links.prev head ∈ head :: entries := by
  have backwards : links.prev head ∈ head :: entries.reverse := ring.reverse.next_mem
  simpa using backwards

/-- A place in a ring: the nodes on both sides of it, and the walk before and behind them. -/
structure Place (head : Node) (before after : List Node) where
  front : List Node
  first : Node
  second : Node
  back : List Node
  begins : head :: before = front ++ [first]
  ends : after ++ [head] = second :: back

theorem exists_place (head : Node) (before after : List Node) :
    Nonempty (Place head before after) := by
  obtain empty | ⟨front, first, begins⟩ := List.eq_nil_or_concat (head :: before)
  · cases empty
  · obtain ⟨second, back, ends⟩ := List.exists_cons_of_ne_nil (by simp : after ++ [head] ≠ [])
    exact ⟨⟨front, first, second, back, begins.trans List.concat_eq_append, ends⟩⟩

theorem Place.path (place : Place head before after) :
    head :: (before ++ after ++ [head]) =
      place.front ++ place.first :: place.second :: place.back := by
  calc head :: (before ++ after ++ [head])
      = (head :: before) ++ (after ++ [head]) := by simp
    _ = place.front ++ place.first :: place.second :: place.back := by
        rw [place.begins, place.ends]
        simp

theorem Place.path_with (place : Place head before after) (entry : Node) :
    head :: (before ++ entry :: after ++ [head]) =
      place.front ++ place.first :: entry :: place.second :: place.back := by
  calc head :: (before ++ entry :: after ++ [head])
      = (head :: before) ++ entry :: (after ++ [head]) := by simp
    _ = place.front ++ place.first :: entry :: place.second :: place.back := by
        rw [place.begins, place.ends]
        simp

theorem Place.first_mem (place : Place head before after) : place.first ∈ head :: before := by
  simp [place.begins]

theorem Place.second_mem (place : Place head before after) : place.second ∈ head :: after := by
  have perm : (after ++ [head]).Perm (head :: after) := List.perm_append_singleton ..
  exact perm.mem_iff.mp (by simp [place.ends])

end Paths

variable {Node : Type u} [DecidableEq Node]

def setNext (links : Links Node) (node value : Node) : Links Node :=
  { links with next := Function.update links.next node value }

def setPrev (links : Links Node) (node value : Node) : Links Node :=
  { links with prev := Function.update links.prev node value }

@[simp] theorem setNext_next_self (links : Links Node) (node value : Node) :
    (links.setNext node value).next node = value := Function.update_self ..

@[simp] theorem setPrev_prev_self (links : Links Node) (node value : Node) :
    (links.setPrev node value).prev node = value := Function.update_self ..

@[simp] theorem setNext_prev (links : Links Node) (node value : Node) :
    (links.setNext node value).prev = links.prev := rfl

@[simp] theorem setPrev_next (links : Links Node) (node value : Node) :
    (links.setPrev node value).next = links.next := rfl

theorem setNext_next_of_ne (links : Links Node) {node other : Node} (value : Node)
    (different : other ≠ node) : (links.setNext node value).next other = links.next other :=
  Function.update_of_ne different ..

theorem setPrev_prev_of_ne (links : Links Node) {node other : Node} (value : Node)
    (different : other ≠ node) : (links.setPrev node value).prev other = links.prev other :=
  Function.update_of_ne different ..

variable {links : Links Node} {path before after entries : List Node}
  {node value first second entry head : Node}

/-!
## What a walk depends on
-/

theorem walk_setNext (absent : node ∉ path.dropLast) :
    (links.setNext node value).Walk path ↔ links.Walk path := by
  induction path with
  | nil => simp
  | cons first rest ih =>
      cases rest with
      | nil => simp
      | cons second rest =>
          simp only [List.dropLast_cons_cons, List.mem_cons, not_or] at absent
          obtain ⟨different, later⟩ := absent
          simp only [Walk, List.isChain_cons_cons, Joined, setNext_prev,
            setNext_next_of_ne links value (Ne.symm different)]
          exact and_congr_right fun _ => ih later

theorem walk_setPrev (absent : node ∉ path.tail) :
    (links.setPrev node value).Walk path ↔ links.Walk path := by
  induction path with
  | nil => simp
  | cons first rest ih =>
      cases rest with
      | nil => simp
      | cons second rest =>
          simp only [List.tail_cons, List.mem_cons, not_or] at absent
          obtain ⟨different, later⟩ := absent
          simp only [Walk, List.isChain_cons_cons, Joined, setPrev_next,
            setPrev_prev_of_ne links value (Ne.symm different)]
          exact and_congr_right fun _ => ih later

/-!
## Joining two walks
-/

def join (links : Links Node) (first second : Node) : Links Node :=
  (links.setPrev second first).setNext first second

theorem join_joined (links : Links Node) (first second : Node) :
    (links.join first second).Joined first second := by
  simp [join, Joined]

theorem walk_join_of_apart (left : first ∉ path.dropLast) (reached : second ∉ path.tail) :
    (links.join first second).Walk path ↔ links.Walk path := by
  rw [join, walk_setNext left, walk_setPrev reached]

/-- Two walks become one through a new link. -/
theorem walk_join (simple : Simple (before ++ first :: second :: after))
    (begins : links.Walk (before ++ [first])) (ends : links.Walk (second :: after)) :
    (links.join first second).Walk (before ++ first :: second :: after) := by
  obtain ⟨not_before, not_after⟩ := simple.left_apart
  obtain ⟨not_reached_before, not_reached_after⟩ := simple.reached_apart
  refine List.isChain_append_cons_cons.mpr ⟨?_, join_joined links first second, ?_⟩
  · exact (walk_join_of_apart (by simpa using not_before) not_reached_before).mpr begins
  · exact (walk_join_of_apart not_after not_reached_after).mpr ends

/-- A node is taken out by joining its neighbours. -/
theorem walk_remove (simple : Simple (before ++ first :: entry :: second :: after))
    (walk : links.Walk (before ++ first :: entry :: second :: after)) :
    (links.join first second).Walk (before ++ first :: second :: after) := by
  obtain ⟨begins, -, rest⟩ := List.isChain_append_cons_cons.mp walk
  exact walk_join simple.remove begins rest.tail

def insert (links : Links Node) (entry first second : Node) : Links Node :=
  (links.join entry second).join first entry

/-- A node is brought in by joining it to its neighbours. -/
theorem walk_insert (simple : Simple (before ++ first :: entry :: second :: after))
    (fresh : entry ∉ before) (walk : links.Walk (before ++ first :: second :: after)) :
    (links.insert entry first second).Walk (before ++ first :: entry :: second :: after) := by
  obtain ⟨begins, -, rest⟩ := List.isChain_append_cons_cons.mp walk
  have tail_simple : Simple ([] ++ entry :: second :: after) := by
    have split : before ++ first :: entry :: second :: after =
        (before ++ [first]) ++ entry :: second :: after := by simp
    exact (split ▸ simple).suffix
  have not_reached := simple.remove.reached_apart.1
  apply walk_join simple
  · exact (walk_join_of_apart (by simpa using fresh) not_reached).mpr begins
  · exact walk_join tail_simple (List.isChain_singleton entry) rest

/-!
## Rings
-/

theorem Ring.join_of_apart (ring : links.Ring head entries) (left : first ∉ head :: entries)
    (reached : second ∉ head :: entries) : (links.join first second).Ring head entries := by
  refine ⟨(walk_join_of_apart ?_ ?_).mpr ring.walk, ring.nodup⟩
  · rwa [← List.cons_append, List.dropLast_concat]
  · intro member
    exact reached (List.perm_append_singleton .. |>.mem_iff.mp member)

theorem Ring.insert_of_apart (ring : links.Ring head entries) (entry_apart : entry ∉ head :: entries)
    (left : first ∉ head :: entries) (reached : second ∉ head :: entries) :
    (links.insert entry first second).Ring head entries :=
  (ring.join_of_apart entry_apart reached).join_of_apart left entry_apart

theorem ring_join_self (links : Links Node) (head : Node) : (links.join head head).Ring head [] :=
  ⟨List.isChain_pair.mpr (join_joined links head head), List.nodup_singleton head⟩

/-- The neighbours of an entry belong to its ring, and joining them takes it out. -/
theorem Ring.remove (ring : links.Ring head (before ++ entry :: after)) :
    links.prev entry ∈ head :: before ∧ links.next entry ∈ head :: after ∧
      (links.join (links.prev entry) (links.next entry)).Ring head (before ++ after) := by
  obtain ⟨place⟩ := exists_place head before after
  have simple := simple_ring ring.nodup
  have walk := ring.walk
  rw [place.path_with entry] at simple walk
  obtain ⟨-, into, rest⟩ := List.isChain_append_cons_cons.mp walk
  have prev_eq : links.prev entry = place.first := into.2
  have next_eq : links.next entry = place.second := (List.isChain_cons_cons.mp rest).1.1
  have shorter : List.Sublist (head :: (before ++ after)) (head :: (before ++ entry :: after)) :=
    ((List.sublist_cons_self ..).append_left before).cons_cons head
  rw [prev_eq, next_eq]
  refine ⟨place.first_mem, place.second_mem, ?_, ring.nodup.sublist shorter⟩
  rw [place.path]
  exact walk_remove simple walk

/-- A new entry is inserted at a place of a ring. -/
theorem Place.insert (place : Place head before after) (ring : links.Ring head (before ++ after))
    (fresh : entry ∉ head :: (before ++ after)) :
    links.Joined place.first place.second ∧
      (links.insert entry place.first place.second).Ring head (before ++ entry :: after) := by
  have perm : (head :: (before ++ entry :: after)).Perm (entry :: head :: (before ++ after)) :=
    (List.perm_middle.cons head).trans (List.Perm.swap ..)
  have nodup : (head :: (before ++ entry :: after)).Nodup :=
    perm.nodup_iff.mpr (List.nodup_cons.mpr ⟨fresh, ring.nodup⟩)
  have simple := simple_ring nodup
  have walk := ring.walk
  rw [place.path_with entry] at simple
  rw [place.path] at walk
  refine ⟨(List.isChain_append_cons_cons.mp walk).2.1, ?_, nodup⟩
  rw [place.path_with entry]
  refine walk_insert simple ?_ walk
  intro member
  have in_front : entry ∈ head :: before := place.begins ▸ List.mem_append_left _ member
  exact fresh (List.mem_append_left after in_front)

theorem Ring.insert_first (ring : links.Ring head entries) (fresh : entry ∉ head :: entries) :
    (links.insert entry head (links.next head)).Ring head (entry :: entries) := by
  obtain ⟨second, back, ends⟩ := List.exists_cons_of_ne_nil (by simp : entries ++ [head] ≠ [])
  let place : Place head [] entries := ⟨[], head, second, back, rfl, ends⟩
  obtain ⟨joined, inserted⟩ := place.insert ring fresh
  rw [joined.1]
  exact inserted

theorem Ring.insert_last (ring : links.Ring head entries) (fresh : entry ∉ head :: entries) :
    (links.insert entry (links.prev head) head).Ring head (entries ++ [entry]) := by
  obtain empty | ⟨front, first, begins⟩ := List.eq_nil_or_concat (head :: entries)
  · cases empty
  · let place : Place head entries [] :=
      ⟨front, first, head, [], begins.trans List.concat_eq_append, rfl⟩
    rw [← List.append_nil entries] at ring fresh
    obtain ⟨joined, inserted⟩ := place.insert ring fresh
    rw [joined.2]
    exact inserted

end Links

end VelaExternal.Systems
