import VelaExternal.Ethercat.ListHeadProperties

/-!
# Loops that delete entries

The safe loop visits every entry once as long as its body leaves alone what lies ahead; the
entry at hand may be deleted, moved to another list or freed. The plain loop ends unless an
entry is initialised after its deletion. A head that is deleted is not an empty list.
-/

set_option autoImplicit false

namespace VelaExternal.Ethercat

open Systems

/-!
## The safe loop
-/

section Safe

variable {State : Type} {memory : State → ListMemory} {body : Address → State → State}
  {head member : Address} {path entries : List Address} {state : State} {tests : Nat}

/-- A body that leaves alone what lies ahead: each time it has run for an entry, the entries
still to be visited have the next ones that they had. The entry at hand may be gone, and what
lies behind may be written anew. -/
def Sparing (memory : State → ListMemory) (body : Address → State → State) (member : Address) :
    List Address → State → Prop
  | [], _ => True
  | entry :: rest, state =>
      (∀ node ∈ rest, (memory (body (containerOf entry member) state)).next node =
          (memory state).next node) ∧
        Sparing memory body member rest (body (containerOf entry member) state)

private theorem chain_congr {next other : Address → Address} {last : Address}
    (same : ∀ node ∈ path, other node = next node)
    (joined : (path ++ [last]).IsChain fun first second => next first = second) :
    (path ++ [last]).IsChain fun first second => other first = second := by
  induction path with
  | nil => exact List.isChain_singleton last
  | cons node path ih =>
      obtain ⟨here, ahead⟩ := List.forall_mem_cons.mp same
      have later := ih ahead joined.tail
      cases path with
      | nil =>
          have follows := (List.isChain_cons_cons.mp joined).1
          exact List.isChain_cons_cons.mpr ⟨here.trans follows, later⟩
      | cons second path =>
          have follows := (List.isChain_cons_cons.mp joined).1
          exact List.isChain_cons_cons.mpr ⟨here.trans follows, later⟩

/-- On a path there is one next node for each. -/
private theorem next_unique {next other : Address → Address} {last : Address}
    (joined : (path ++ [last]).IsChain fun first second => next first = second)
    (other_joined : (path ++ [last]).IsChain fun first second => other first = second) :
    ∀ node ∈ path, other node = next node := by
  induction path with
  | nil => simp
  | cons node path ih =>
      obtain ⟨follows, later⟩ := path_next joined
      obtain ⟨other_follows, other_later⟩ := path_next other_joined
      intro found member
      rcases List.mem_cons.mp member with rfl | behind
      · exact other_follows.trans follows.symm
      · exact ih later other_later found behind

/-- The loop follows a path to the head that its body leaves alone ahead of it. -/
theorem entryLoopSafe_path {tmp : Address} (spares : Sparing memory body member path state)
    (joined : (path ++ [head]).IsChain fun first second => (memory state).next first = second)
    (absent : head ∉ path) (ahead : tmp = containerOf ((memory state).next (path.headD head)) member)
    (enough : path.length < tests) :
    entryLoopSafe memory body head member tests (containerOf (path.headD head) member) tmp state =
      some (containers member path, afterEntries body member path state) := by
  induction path generalizing state tmp tests with
  | nil =>
      cases tests with
      | zero => cases enough
      | succ tests => simp [entryLoopSafe, containerOf_add, containers, afterEntries]
  | cons entry path ih =>
      cases tests with
      | zero => cases enough
      | succ tests =>
          have different : entry ≠ head := fun same => absent (same ▸ List.mem_cons_self)
          obtain ⟨unmoved, spares_rest⟩ := spares
          obtain ⟨follows, later⟩ := path_next joined
          rw [List.headD_cons, follows] at ahead
          subst ahead
          have rest := ih spares_rest (chain_congr unmoved later)
            (fun present => absent (List.mem_cons_of_mem entry present)) rfl
            (Nat.lt_of_succ_lt_succ enough)
          simp only [entryLoopSafe, List.headD_cons, containerOf_add, if_neg different, rest,
            Option.map_some]
          rfl

/-- A safe loop visits every entry of the list as it was, once and in order, and ends, whatever
its body does but to the links that lie ahead. -/
theorem list_for_each_entry_safe_visits (ring : (memory state).Ring head entries)
    (spares : Sparing memory body member entries state) (enough : entries.length < tests) :
    listForEachEntrySafe memory body head member tests state =
      some (containers member entries, afterEntries body member entries state) := by
  obtain ⟨first, joined⟩ := path_next (ring.walk.imp fun _ _ joined => joined.1)
  rw [listForEachEntrySafe, containerOf_add, first]
  exact entryLoopSafe_path spares joined (List.nodup_cons.mp ring.nodup).1 rfl enough

/-- The body takes its entry out of the list and frees it: other values stand where its links
were. -/
def deleteAndFree (pos : Address) (memory : ListMemory) : ListMemory :=
  ((listDel memory (pos + 8)).setNext (pos + 8) 0).setPrev (pos + 8) 0

theorem list_for_each_entry_safe_visits_freed : ∃ memory : ListMemory,
    (listForEachEntrySafe id deleteAndFree 8192 8 3 memory).map Prod.fst = some [56, 184] := by
  obtain ⟨final, reached, heads, -, second⟩ := twoLists_reached
  have ring := calls_represent reached 8192 (heads ▸ List.mem_cons_self)
  rw [second] at ring
  have prev : final.memory.prev 64 = 8192 := (List.isChain_cons_cons.mp ring.walk).1.2
  have spares : Sparing id deleteAndFree 8 [64, 192] final.memory := by
    refine ⟨List.forall_mem_singleton.mpr ?_, by simp, trivial⟩
    have entry : containerOf (64 : Address) 8 + 8 = 64 := containerOf_add 64 8
    have untouched : (listDel final.memory 64).next 192 = final.memory.next 192 := by
      rw [listDel, prev]
      exact Links.setNext_next_of_ne _ _ (by decide)
    change (deleteAndFree (containerOf 64 8) final.memory).next 192 = final.memory.next 192
    rw [deleteAndFree, entry, Links.setPrev_next, Links.setNext_next_of_ne _ _ (by decide),
      untouched]
  have visited : listForEachEntrySafe id deleteAndFree 8192 8 3 final.memory = _ :=
    list_for_each_entry_safe_visits ring spares (by decide)
  have found : containers 8 [64, 192] = [56, 184] := by decide
  exact ⟨final.memory, (congrArg (Option.map Prod.fst) visited).trans (congrArg some found)⟩

end Safe

/-!
## Bodies that delete or move their entries
-/

/-- What the body of a loop does with its entry. -/
inductive EntryAction where
  | keep
  | listDel
  | listDelInit
  | listMoveTail (head : Address)
  deriving DecidableEq

namespace EntryAction

def call (entry : Address) : EntryAction → Option ListCall
  | .keep => none
  | .listDel => some (.listDel entry)
  | .listDelInit => some (.listDelInit entry)
  | .listMoveTail head => some (.listMoveTail entry head)

def perform (action : EntryAction) (memory : ListMemory) (entry : Address) : ListMemory :=
  match action.call entry with
  | none => memory
  | some call => call.perform memory

def apply (lists : Lists) (entry : Address) : EntryAction → Lists
  | .keep => lists
  | .listDel => lists.detach entry
  | .listDelInit => lists.reset entry
  | .listMoveTail head => lists.addLast entry head

/-- An entry is moved to the list of a head, and to another one than the loop is over. -/
def Allowed (lists : Lists) (head : Address) (action : EntryAction) : Prop :=
  ∀ other, action = .listMoveTail other → other ∈ lists.heads ∧ other ≠ head

end EntryAction

section Actions

variable {memory : ListMemory} {lists : Lists} {entry head : Address} {action : EntryAction}

theorem Lists.not_head (member : head ∈ lists.heads) (present : entry ∈ lists.entries head) :
    entry ∉ lists.heads := by
  intro is_head
  have same := lists.apart entry is_head head member entry List.mem_cons_self
    (List.mem_cons_of_mem head present)
  subst same
  exact (List.nodup_cons.mp (lists.nodup entry is_head)).1 present

private theorem apply_represents (represents : Represents memory lists) (member : head ∈ lists.heads)
    (present : entry ∈ lists.entries head) (allowed : action.Allowed lists head) :
    Represents (action.perform memory entry) (action.apply lists entry) := by
  have linked : lists.Linked entry := .inr ⟨head, member, present⟩
  cases action with
  | keep => exact represents
  | listDel =>
      have stepped : lists.step (.listDel entry) = some (lists.detach entry) := if_pos linked
      exact perform_represents represents stepped
  | listDelInit =>
      have stepped : lists.step (.listDelInit entry) = some (lists.reset entry) := if_pos linked
      exact perform_represents represents stepped
  | listMoveTail other =>
      obtain ⟨other_member, _⟩ := allowed other rfl
      have different : other ≠ entry := by
        rintro rfl
        exact lists.not_head member present other_member
      have stepped : lists.step (.listMoveTail entry other) = some (lists.addLast entry other) :=
        if_pos ⟨linked, other_member, different⟩
      exact perform_represents represents stepped

/-- The entry leaves its list unless it is kept, and comes last where it is moved to. -/
theorem apply_entries (member : head ∈ lists.heads) (present : entry ∈ lists.entries head)
    {other : Address} (other_member : other ∈ lists.heads) :
    other ∈ (action.apply lists entry).heads ∧
      (action.apply lists entry).entries other =
        (if action = .keep then lists.entries other else (lists.entries other).erase entry) ++
          if action = .listMoveTail other then [entry] else [] := by
  have different : other ≠ entry := by
    rintro rfl
    exact lists.not_head member present other_member
  have kept : other ∈ (lists.detach entry).heads := mem_heads_detach other_member different
  cases action with
  | keep => simp [EntryAction.apply, other_member]
  | listDel => exact ⟨kept, by simp [EntryAction.apply, Lists.detach]⟩
  | listDelInit =>
      refine ⟨List.mem_cons_of_mem entry kept, ?_⟩
      simp [EntryAction.apply, Lists.reset, Lists.addHead, Lists.detach,
        Function.update_of_ne different]
  | listMoveTail target =>
      refine ⟨kept, ?_⟩
      by_cases same : target = other
      · subst same
        simp [EntryAction.apply, Lists.addLast, Lists.put, Lists.detach]
      · simp [EntryAction.apply, Lists.addLast, Lists.put, Lists.detach,
          Function.update_of_ne (Ne.symm same), same]

end Actions

/-- A loop body, over any state, that does one thing with the entry at hand. -/
structure Acting (State : Type) (member : Address) where
  memory : State → ListMemory
  body : Address → State → State
  action : Address → State → EntryAction
  acts : ∀ entry state, memory (body (containerOf entry member) state) =
    (action entry state).perform (memory state) entry

namespace Acting

variable {State : Type} {member : Address} (acting : Acting State member)

/-- The entries with what the body does with each when it comes to it. -/
def decisions : List Address → State → List (Address × EntryAction)
  | [], _ => []
  | entry :: rest, state =>
      (entry, acting.action entry state) ::
        decisions rest (acting.body (containerOf entry member) state)

def kept (entries : List Address) (state : State) : List Address :=
  ((acting.decisions entries state).filter fun decision => decision.2 = .keep).map Prod.fst

def movedTo (other : Address) (entries : List Address) (state : State) : List Address :=
  ((acting.decisions entries state).filter fun decision =>
    decision.2 = .listMoveTail other).map Prod.fst

/-- The lists after a loop over the entries behind `before` in the list of `head`. -/
structure Outcome (lists : Lists) (head : Address) (before rest : List Address) (state : State)
    (after : Lists) : Prop where
  heads : ∀ other ∈ lists.heads, other ∈ after.heads
  own : after.entries head = before ++ acting.kept rest state
  others : ∀ other ∈ lists.heads, other ≠ head →
    after.entries other = lists.entries other ++ acting.movedTo other rest state

variable {acting} {lists : Lists} {head : Address} {state : State} {tests : Nat}

private theorem kept_cons (acting : Acting State member) (entry : Address) (rest : List Address)
    (state : State) :
    acting.kept (entry :: rest) state = (if acting.action entry state = .keep then [entry] else []) ++
      acting.kept rest (acting.body (containerOf entry member) state) := by
  by_cases keeps : acting.action entry state = .keep <;> simp [kept, decisions, keeps]

private theorem movedTo_cons (acting : Acting State member) (other entry : Address) (rest : List Address)
    (state : State) :
    acting.movedTo other (entry :: rest) state =
      (if acting.action entry state = .listMoveTail other then [entry] else []) ++
        acting.movedTo other rest (acting.body (containerOf entry member) state) := by
  by_cases moves : acting.action entry state = .listMoveTail other <;>
    simp [movedTo, decisions, moves]

/-- The lists after the body has run for the next entry. -/
theorem apply_next {before rest : List Address} {entry : Address} {action : EntryAction}
    (head_member : head ∈ lists.heads) (allowed : action.Allowed lists head)
    (entries : lists.entries head = before ++ entry :: rest) :
    (action.apply lists entry).entries head =
        (if action = .keep then before ++ [entry] else before) ++ rest ∧
      ∀ other ∈ lists.heads, other ≠ head → (action.apply lists entry).entries other =
        lists.entries other ++ if action = .listMoveTail other then [entry] else [] := by
  have present : entry ∈ lists.entries head := by simp [entries]
  have nodup := (List.nodup_cons.mp (lists.nodup head head_member)).2
  rw [entries] at nodup
  have not_before : entry ∉ before := fun early =>
    (List.nodup_append.mp nodup).2.2 entry early entry List.mem_cons_self rfl
  constructor
  · have stays : action ≠ .listMoveTail head := fun moves => (allowed head moves).2 rfl
    rw [(apply_entries head_member present head_member).2, if_neg stays, entries,
      List.erase_append_right _ not_before, List.erase_cons_head]
    split <;> simp
  · intro other other_member different
    have absent : entry ∉ lists.entries other := fun here =>
      different (lists.apart other other_member head head_member entry
        (List.mem_cons_of_mem other here) (List.mem_cons_of_mem head present))
    rw [(apply_entries head_member present other_member).2, List.erase_of_not_mem absent, ite_self]

private theorem next_entry {memory : ListMemory} {before rest : List Address} {entry : Address}
    (ring : memory.Ring head (before ++ entry :: rest)) : memory.next entry = rest.headD head := by
  have walk := ring.walk.imp fun _ _ joined => joined.1
  rw [List.append_assoc, ← List.cons_append] at walk
  exact (path_next walk.right_of_append).1

private theorem chain_rest {memory : ListMemory} {before rest : List Address}
    (ring : memory.Ring head (before ++ rest)) :
    (rest ++ [head]).IsChain fun first second => memory.next first = second := by
  have walk := ring.walk.imp fun _ _ joined => joined.1
  rw [List.append_assoc, ← List.cons_append] at walk
  exact walk.right_of_append

/-- Such a body leaves alone what lies ahead, and the lists are as its actions say. -/
theorem spares_rest {before rest : List Address}
    (represents : Represents (acting.memory state) lists) (head_member : head ∈ lists.heads)
    (allowed : ∀ entry state, (acting.action entry state).Allowed lists head)
    (entries : lists.entries head = before ++ rest) :
    Sparing acting.memory acting.body member rest state ∧
    ∃ after, Represents (acting.memory (afterEntries acting.body member rest state)) after ∧
      acting.Outcome lists head before rest state after := by
  induction rest generalizing lists before state with
  | nil =>
      refine ⟨trivial, lists, represents, fun other member => member, ?_,
        fun other member different => ?_⟩
      · simp [entries, kept, decisions]
      · simp [movedTo, decisions]
  | cons entry rest ih =>
      have present : entry ∈ lists.entries head := by simp [entries]
      have ring := represents head head_member
      rw [entries] at ring
      have acted := apply_represents represents head_member present (allowed entry state)
      rw [← acting.acts] at acted
      have heads : ∀ other ∈ lists.heads,
          other ∈ ((acting.action entry state).apply lists entry).heads := fun _ other_member =>
        (apply_entries head_member present other_member).1
      have still_allowed (later : Address) (next : State) : (acting.action later next).Allowed
          ((acting.action entry state).apply lists entry) head := by
        intro other moves
        obtain ⟨other_member, elsewhere⟩ := allowed later next other moves
        exact ⟨heads other other_member, elsewhere⟩
      obtain ⟨own, others⟩ := apply_next head_member (allowed entry state) entries
      have acted_ring := acted head (heads head head_member)
      rw [own] at acted_ring
      have unmoved := next_unique (chain_rest ring).tail (chain_rest acted_ring)
      obtain ⟨spares, after, final, outcome⟩ := ih acted (heads head head_member) still_allowed own
      refine ⟨⟨unmoved, spares⟩, after, final, fun other other_member => ?_, ?_,
        fun other other_member apart => ?_⟩
      · exact outcome.heads other (heads other other_member)
      · rw [outcome.own, kept_cons]
        split <;> simp
      · rw [outcome.others other (heads other other_member) apart,
          others other other_member apart, movedTo_cons, List.append_assoc]

end Acting

/-- After a safe loop whose body keeps, deletes or moves each entry, the list has those that the
body keeps, and the other lists have got those that are moved to them. -/
theorem list_for_each_entry_safe_keeps {State : Type} {member : Address}
    {acting : Acting State member} {lists : Lists} {head : Address} {state : State} {tests : Nat}
    (represents : Represents (acting.memory state) lists) (head_member : head ∈ lists.heads)
    (allowed : ∀ entry state, (acting.action entry state).Allowed lists head)
    (enough : (lists.entries head).length < tests) :
    ∃ final, listForEachEntrySafe acting.memory acting.body head member tests state =
        some (containers member (lists.entries head), final) ∧
      ∃ after, Represents (acting.memory final) after ∧
        acting.Outcome lists head [] (lists.entries head) state after := by
  obtain ⟨spares, outcome⟩ := Acting.spares_rest represents head_member allowed
    (List.nil_append _).symm
  have ring := represents head head_member
  obtain ⟨first, joined⟩ := path_next (ring.walk.imp fun _ _ joined => joined.1)
  refine ⟨_, ?_, outcome⟩
  rw [listForEachEntrySafe, containerOf_add, first]
  exact entryLoopSafe_path spares joined (List.nodup_cons.mp ring.nodup).1 rfl enough

/-- A body that only acts on the memory, in a way that depends on the entry alone. -/
def Acting.on (member : Address) (actions : Address → EntryAction) : Acting ListMemory member where
  memory := id
  body pos memory := (actions (pos + member)).perform memory (pos + member)
  action entry _ := actions entry
  acts entry state := by
    rw [containerOf_add]
    rfl

/-- The one entry of the list at 8192 is moved to the other list, and the other one deleted. -/
def moveAndDelete (entry : Address) : EntryAction :=
  if entry = 64 then .listMoveTail 4096 else .listDel

theorem list_for_each_entry_safe_keeps_two : ∃ (memory final : ListMemory) (after : Lists),
    listForEachEntrySafe id (Acting.on 8 moveAndDelete).body 8192 8 3 memory =
        some ([56, 184], final) ∧
      Represents final after ∧ after.entries 8192 = [] ∧ after.entries 4096 = [128, 64] := by
  obtain ⟨before, reached, heads, first, second⟩ := twoLists_reached
  have head_member : 8192 ∈ before.lists.heads := heads ▸ List.mem_cons_self
  have other_member : 4096 ∈ before.lists.heads := heads ▸ List.mem_cons_of_mem _ List.mem_cons_self
  have allowed (entry : Address) (state : ListMemory) :
      ((Acting.on 8 moveAndDelete).action entry state).Allowed before.lists 8192 := by
    intro other moves
    change (if entry = 64 then EntryAction.listMoveTail 4096 else .listDel) = _ at moves
    split at moves
    · obtain rfl := EntryAction.listMoveTail.inj moves
      exact ⟨other_member, by decide⟩
    · cases moves
  have enough : (before.lists.entries 8192).length < 3 := by
    rw [second]
    decide
  have acting_represents : Represents ((Acting.on 8 moveAndDelete).memory before.memory)
      before.lists := calls_represent reached
  obtain ⟨final, visited, after, represents, outcome⟩ :=
    list_for_each_entry_safe_keeps acting_represents head_member allowed enough
  rw [second] at visited outcome
  refine ⟨before.memory, final, after, ?_, represents, ?_, ?_⟩
  · have found : containers 8 [64, 192] = [56, 184] := by decide
    rw [← found]
    exact visited
  · exact outcome.own.trans rfl
  · rw [outcome.others 4096 other_member (by decide), first]
    rfl

/-!
## The plain loop
-/

section Plain

variable {State : Type} {member : Address} {acting : Acting State member} {lists : Lists}
  {head entry : Address} {state : State} {tests : Nat}

/-- An entry whose links lead to itself, as `INIT_LIST_HEAD` leaves them. -/
def Alone (memory : ListMemory) (entry : Address) : Prop := memory.Ring entry []

theorem Alone.links {memory : ListMemory} (alone : Alone memory entry) :
    memory.next entry = entry ∧ memory.prev entry = entry := by
  have joined : memory.Joined entry entry := List.isChain_pair.mp alone.walk
  exact joined

/-- No action of the body but a move gets such an entry out of itself. -/
theorem Alone.perform {memory : ListMemory} {action : EntryAction} (alone : Alone memory entry)
    (unmoved : ∀ other, action ≠ .listMoveTail other) :
    Alone (action.perform memory entry) entry := by
  obtain ⟨next, prev⟩ := alone.links
  cases action with
  | keep => exact alone
  | listDel =>
      change (memory.join (memory.prev entry) (memory.next entry)).Ring entry []
      rw [next, prev]
      exact Links.ring_join_self memory entry
  | listDelInit => exact Links.ring_join_self _ entry
  | listMoveTail other => exact absurd rfl (unmoved other)

/-- A loop that has come to such an entry does not get on. -/
theorem entryLoop_alone (alone : Alone (acting.memory state) entry) (different : entry ≠ head)
    (unmoved : ∀ entry state other, acting.action entry state ≠ .listMoveTail other) :
    entryLoop acting.memory acting.body head member Links.next tests (containerOf entry member)
      state = none := by
  induction tests generalizing state with
  | zero => rfl
  | succ tests ih =>
      have still : Alone (acting.memory (acting.body (containerOf entry member) state)) entry := by
        rw [acting.acts]
        exact alone.perform (unmoved entry state)
      simp only [entryLoop, containerOf_add, if_neg different, still.links.1, ih still,
        Option.map_none]

/-- A deleted entry still leads to the one behind it. -/
theorem next_listDel {memory : ListMemory} {before rest : List Address}
    (ring : memory.Ring head (before ++ entry :: rest)) :
    (listDel memory entry).next entry = memory.next entry := by
  have apart : entry ≠ memory.prev entry := by
    intro same
    have prev_mem := ring.remove.1
    rw [← same] at prev_mem
    have nodup := ring.nodup
    rw [← List.cons_append] at nodup
    exact (List.nodup_append.mp nodup).2.2 entry prev_mem entry List.mem_cons_self rfl
  exact Links.setNext_next_of_ne _ _ apart

/-- The next turn of the loop, unless the body has initialised the entry. -/
theorem plain_turn {before rest : List Address}
    (represents : Represents (acting.memory state) lists) (head_member : head ∈ lists.heads)
    (unmoved : ∀ entry state other, acting.action entry state ≠ .listMoveTail other)
    (entries : lists.entries head = before ++ entry :: rest)
    (uninitialised : acting.action entry state ≠ .listDelInit) :
    entryLoop acting.memory acting.body head member Links.next (tests + 1)
        (containerOf entry member) state =
      (entryLoop acting.memory acting.body head member Links.next tests
        (containerOf (rest.headD head) member) (acting.body (containerOf entry member) state)).map
          fun later => (containerOf entry member :: later.1, later.2) := by
  have ring := represents head head_member
  rw [entries] at ring
  have different : entry ≠ head := fun same =>
    (List.nodup_cons.mp ring.nodup).1 (same ▸ by simp)
  have onward : (acting.memory (acting.body (containerOf entry member) state)).next entry =
      rest.headD head := by
    rw [acting.acts, ← Acting.next_entry ring]
    cases acted : acting.action entry state with
    | keep => rfl
    | listDel => exact next_listDel ring
    | listDelInit => exact absurd acted uninitialised
    | listMoveTail other => exact absurd acted (unmoved entry state other)
  simp only [entryLoop, containerOf_add, if_neg different, onward]

/-- Once the body has initialised the entry, there is no next turn to come to the head. -/
theorem plain_stuck (different : entry ≠ head)
    (unmoved : ∀ entry state other, acting.action entry state ≠ .listMoveTail other)
    (initialised : acting.action entry state = .listDelInit) :
    entryLoop acting.memory acting.body head member Links.next tests (containerOf entry member)
      state = none := by
  cases tests with
  | zero => rfl
  | succ tests =>
      have alone : Alone (acting.memory (acting.body (containerOf entry member) state)) entry := by
        rw [acting.acts, initialised]
        exact Links.ring_join_self _ entry
      simp only [entryLoop, containerOf_add, if_neg different, alone.links.1,
        entryLoop_alone alone different unmoved, Option.map_none]

/-- From an entry on, the loop visits the rest of the list if no entry of it is initialised,
and else it does not end. -/
theorem plain_rest {before rest : List Address}
    (represents : Represents (acting.memory state) lists) (head_member : head ∈ lists.heads)
    (unmoved : ∀ entry state other, acting.action entry state ≠ .listMoveTail other)
    (entries : lists.entries head = before ++ rest) :
    entryLoop acting.memory acting.body head member Links.next tests
        (containerOf (rest.headD head) member) state =
      if rest.length < tests ∧ ∀ decision ∈ acting.decisions rest state, decision.2 ≠ .listDelInit
      then some (containers member rest, afterEntries acting.body member rest state)
      else none := by
  induction rest generalizing lists before state tests with
  | nil =>
      cases tests with
      | zero => rfl
      | succ tests =>
          simp [entryLoop, containerOf_add, containers, afterEntries, Acting.decisions]
  | cons entry rest ih =>
      have present : entry ∈ lists.entries head := by simp [entries]
      have different : entry ≠ head := by
        rintro rfl
        exact lists.not_head head_member present head_member
      by_cases initialised : acting.action entry state = .listDelInit
      · have hangs : ¬ ∀ decision ∈ acting.decisions (entry :: rest) state,
            decision.2 ≠ .listDelInit := fun all => all _ List.mem_cons_self initialised
        rw [if_neg fun both => hangs both.2]
        exact plain_stuck different unmoved initialised
      · cases tests with
        | zero => rfl
        | succ tests =>
            have allowed : (acting.action entry state).Allowed lists head := fun other moves =>
              absurd moves (unmoved entry state other)
            have acted := apply_represents represents head_member present allowed
            rw [← acting.acts] at acted
            have still_head : head ∈ ((acting.action entry state).apply lists entry).heads :=
              (apply_entries head_member present head_member).1
            obtain ⟨own, -⟩ := Acting.apply_next head_member allowed entries
            have shorter : (entry :: rest).length < tests + 1 ↔ rest.length < tests :=
              Nat.succ_lt_succ_iff
            rw [List.headD_cons, plain_turn represents head_member unmoved entries initialised,
              ih acted still_head own]
            simp only [shorter, Acting.decisions, List.forall_mem_cons, ne_eq, initialised,
              not_false_eq_true, true_and]
            split <;> rfl

/-- A plain loop over a list from which its body deletes entries ends just when none of them is
initialised again, and then it has visited all of them. -/
theorem list_for_each_entry_visits_iff
    (represents : Represents (acting.memory state) lists) (head_member : head ∈ lists.heads)
    (unmoved : ∀ entry state other, acting.action entry state ≠ .listMoveTail other) :
    listForEachEntry acting.memory acting.body head member tests state =
      if (lists.entries head).length < tests ∧
        ∀ decision ∈ acting.decisions (lists.entries head) state, decision.2 ≠ .listDelInit
      then some (containers member (lists.entries head),
        afterEntries acting.body member (lists.entries head) state)
      else none := by
  have first := (path_next ((represents head head_member).walk.imp fun _ _ joined => joined.1)).1
  rw [listForEachEntry, first]
  exact plain_rest represents head_member unmoved (List.nil_append _).symm

end Plain

/-- The loop goes through both entries as it deletes them, but not as it initialises them. -/
theorem list_for_each_entry_visits_two : ∃ memory : ListMemory,
    (listForEachEntry id (Acting.on 8 fun _ => .listDel).body 8192 8 3 memory).map Prod.fst =
        some [56, 184] ∧
      ∀ tests, listForEachEntry id (Acting.on 8 fun _ => .listDelInit).body 8192 8 tests memory =
        none := by
  obtain ⟨final, reached, heads, -, second⟩ := twoLists_reached
  have head_member : 8192 ∈ final.lists.heads := heads ▸ List.mem_cons_self
  have represents (action : EntryAction) :
      Represents ((Acting.on 8 fun _ => action).memory final.memory) final.lists :=
    calls_represent reached
  refine ⟨final.memory, ?_, fun tests => ?_⟩
  · have deleted : listForEachEntry id (Acting.on 8 fun _ => .listDel).body 8192 8 3 final.memory =
        _ := list_for_each_entry_visits_iff (represents .listDel) head_member fun _ _ _ => nofun
    have found : containers 8 [64, 192] = [56, 184] := by decide
    rw [deleted, second, if_pos ⟨by decide, by simp [Acting.decisions, Acting.on]⟩]
    exact congrArg some found
  · have initialised : listForEachEntry id (Acting.on 8 fun _ => .listDelInit).body 8192 8 tests
        final.memory = _ :=
      list_for_each_entry_visits_iff (represents .listDelInit) head_member fun _ _ _ => nofun
    rw [initialised, second, if_neg]
    intro both
    exact both.2 _ List.mem_cons_self rfl

/-!
## Deleting a head
-/

section Head

variable {memory : ListMemory} {head : Address} {entries : List Address}

/-- A loop in a ring that its head does not belong to goes round for ever, in either direction. -/
theorem entryLoop_elsewhere {State : Type} (turn : ListMemory → ListMemory)
    (reading : Reading State) {state : State} {first node member : Address} {tests : Nat}
    (ring : (turn (reading.memory state)).Ring first entries) (elsewhere : head ∉ first :: entries)
    (present : node ∈ first :: entries) :
    entryLoop reading.memory reading.body head member (fun memory => (turn memory).next) tests
      (containerOf node member) state = none := by
  induction tests generalizing state node with
  | zero => rfl
  | succ tests ih =>
      have different : node ≠ head := fun same => elsewhere (same ▸ present)
      have next_present := ring.next_mem_of_mem present
      simp only [entryLoop, containerOf_add, if_neg different, reading.unchanged]
      rw [ih (by rwa [reading.unchanged]) next_present]
      rfl

private theorem entryLoopSafe_elsewhere {State : Type} (reading : Reading State) {state : State}
    {first node tmp member : Address} {tests : Nat}
    (ring : (reading.memory state).Ring first entries) (elsewhere : head ∉ first :: entries)
    (present : node ∈ first :: entries) (ahead : tmp ∈ first :: entries) :
    entryLoopSafe reading.memory reading.body head member tests (containerOf node member)
      (containerOf tmp member) state = none := by
  induction tests generalizing state node tmp with
  | zero => rfl
  | succ tests ih =>
      have different : node ≠ head := fun same => elsewhere (same ▸ present)
      have next_ahead := ring.next_mem_of_mem ahead
      simp only [entryLoopSafe, containerOf_add, if_neg different, reading.unchanged]
      rw [ih (by rwa [reading.unchanged]) ahead next_ahead]
      rfl

/-- No loop over the list ends: not from its head, in either direction or with the next entry
at hand, and not from an entry. -/
structure NeverEnds (memory : ListMemory) (head : Address) (entries : List Address) : Prop where
  forward : ∀ {State : Type} (reading : Reading State) state member tests,
    reading.memory state = memory →
    listForEachEntry reading.memory reading.body head member tests state = none
  backward : ∀ {State : Type} (reading : Reading State) state member tests,
    reading.memory state = memory →
    listForEachEntryReverse reading.memory reading.body head member tests state = none
  safe : ∀ {State : Type} (reading : Reading State) state member tests,
    reading.memory state = memory →
    listForEachEntrySafe reading.memory reading.body head member tests state = none
  onward : ∀ {State : Type} (reading : Reading State) state member tests,
    reading.memory state = memory → ∀ entry ∈ entries,
    listForEachEntryFrom reading.memory reading.body head member tests
        (containerOf entry member) state = none ∧
    listForEachEntryContinue reading.memory reading.body head member tests
        (containerOf entry member) state = none ∧
    listForEachEntryContinueReverse reading.memory reading.body head member tests
        (containerOf entry member) state = none

private theorem neverEnds_of_ring {first : Address} (ring : memory.Ring first entries)
    (absent : head ∉ first :: entries) (next : memory.next head ∈ first :: entries)
    (prev : memory.prev head ∈ first :: entries) : NeverEnds memory head (first :: entries) := by
  have turned := ring.reverse
  have same : ∀ node, node ∈ first :: entries.reverse ↔ node ∈ first :: entries := by simp
  have turned_absent := mt (same head).mp absent
  constructor
  · intro State reading state member tests rfl
    exact entryLoop_elsewhere id reading ring absent next
  · intro State reading state member tests rfl
    exact entryLoop_elsewhere Links.swap reading turned turned_absent ((same _).mpr prev)
  · intro State reading state member tests rfl
    rw [listForEachEntrySafe, containerOf_add]
    exact entryLoopSafe_elsewhere reading ring absent next (ring.next_mem_of_mem next)
  · intro State reading state member tests rfl entry present
    rw [listForEachEntryFrom, listForEachEntryContinue, listForEachEntryContinueReverse,
      containerOf_add]
    refine ⟨?_, ?_, ?_⟩
    · exact entryLoop_elsewhere id reading ring absent present
    · exact entryLoop_elsewhere id reading ring absent (ring.next_mem_of_mem present)
    · exact entryLoop_elsewhere Links.swap reading turned turned_absent
        (turned.next_mem_of_mem ((same entry).mpr present))

/-- A deleted head is no empty list: it still leads to the entries, which no longer lead to it. -/
theorem list_del_head {first : Address} (ring : memory.Ring head (first :: entries)) :
    listEmpty (listDel memory head) head = false ∧
      NeverEnds (listDel memory head) head (first :: entries) ∧
      Visits (listDelInit memory head) head [] ∧ Visits (listDel memory head) first entries := by
  have whole : memory.Ring head ([] ++ first :: entries) := ring
  have rotated : memory.Ring first (entries ++ head :: []) := whole.rotate
  obtain ⟨prev_mem, next_mem, removed⟩ := rotated.remove
  rw [List.append_nil] at removed
  have absent : head ∉ first :: entries := (List.nodup_cons.mp ring.nodup).1
  have first_mem : first ∈ first :: entries := List.mem_cons_self
  have next_eq : memory.next head = first := List.mem_singleton.mp next_mem
  have apart : head ≠ memory.prev head := fun same => absent (same ▸ prev_mem)
  have different : head ≠ memory.next head := fun same => absent (same ▸ next_eq ▸ first_mem)
  have leads : (listDel memory head).next head = first :=
    (Links.setNext_next_of_ne _ _ apart).trans next_eq
  have leads_back : (listDel memory head).prev head = memory.prev head :=
    Links.setPrev_prev_of_ne _ _ different
  refine ⟨?_, ?_, visits_of_ring (Links.ring_join_self _ head), visits_of_ring removed⟩
  · have not_head : first ≠ head := fun same => absent (same ▸ first_mem)
    rw [listEmpty, leads, decide_eq_false not_head]
  · exact neverEnds_of_ring removed absent (leads ▸ first_mem) (leads_back ▸ prev_mem)

end Head

theorem list_del_head_two : ∃ memory : ListMemory,
    listEmpty (listDel memory 8192) 8192 = false ∧ Visits (listDel memory 8192) 64 [192] := by
  obtain ⟨final, reached, heads, -, second⟩ := twoLists_reached
  have ring := calls_represent reached 8192 (heads ▸ List.mem_cons_self)
  rw [second] at ring
  obtain ⟨not_empty, -, -, others⟩ := list_del_head ring
  exact ⟨final.memory, not_empty, others⟩

end VelaExternal.Ethercat
