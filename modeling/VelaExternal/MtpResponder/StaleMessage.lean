import VelaExternal.MtpResponder.BufferOwnership

/-! Whose bytes the write thread writes. The buffer, the length and the type of the last
message are locals that outlive its turn; the buffer alone is reset, and the thread does
not look at whether it has received another message. -/

set_option autoImplicit false

namespace VelaExternal.MtpResponder

open Systems

def MsgType.carriesBytes : MsgType → Bool
  | .bulk | .data | .event => true
  | _ => false

def WriteEvent.dequeues : WriteEvent → Bool
  | .receive | .receiveFailed => true
  | _ => false

def lastDequeue (past : List WriteEvent) : Option WriteEvent :=
  (past.filter WriteEvent.dequeues).getLast?

private theorem lastDequeue_snoc (past : List WriteEvent) (event : WriteEvent) :
    lastDequeue (past ++ [event]) = if event.dequeues then some event else lastDequeue past := by
  unfold lastDequeue
  rw [List.filter_append, List.filter_singleton]
  cases event.dequeues with
  | true => simp
  | false => simp

namespace WriteThread

/-- The bytes that an endpoint is asked to take. -/
def asks (thread : WriteThread) : WriteEvent → Nat
  | .write _ =>
      match thread.pc with
      | .write => thread.remaining
      | .writeEvent => thread.len
      | _ => 0
  | _ => 0

def newWrites (before after : WriteThread) : List EndpointWrite :=
  after.traffic.writes.drop before.traffic.writes.length

/-- The write is from the buffer of the last message received, which is not freed, and asks
for no more than the message has. -/
def FromLastMessage (thread : WriteThread) (write : EndpointWrite) : Prop :=
  ∃ message ∈ thread.traffic.dequeued.getLast?, ∃ buffer ∈ write.buffer,
    message.buffer = some buffer ∧ buffer.block ∉ thread.freed ∧ write.requested ≤ message.length

def WritesLastMessage (before : WriteThread) (_ : WriteEvent) (after : WriteThread) : Prop :=
  ∀ write ∈ newWrites before after, 0 < write.requested → before.FromLastMessage write

instance (thread : WriteThread) (write : EndpointWrite) :
    Decidable (thread.FromLastMessage write) :=
  inferInstanceAs (Decidable (∃ message ∈ thread.traffic.dequeued.getLast?,
    ∃ buffer ∈ write.buffer, _))

instance (before : WriteThread) (event : WriteEvent) (after : WriteThread) :
    Decidable (WritesLastMessage before event after) :=
  inferInstanceAs (Decidable (∀ write ∈ newWrites before after, _))

/-- The turn has begun with a message, and the message with a buffer. -/
def HasMessage (past : List WriteEvent) (thread : WriteThread) : Prop :=
  lastDequeue past = some .receive ∧
    thread.traffic.dequeued.getLast?.any (·.buffer.isSome) = true

instance (past : List WriteEvent) (thread : WriteThread) : Decidable (HasMessage past thread) :=
  inferInstanceAs (Decidable (_ ∧ _))

/-- Bytes are asked for in those turns alone that have begun with a message with a buffer. -/
def WritesInTurn (events : List WriteEvent) : Prop :=
  Along (recorded step)
    (fun before event _ => 0 < before.2.asks event → HasMessage before.1 before.2)
    ([], initial) events

/-- The locals of a turn that has bytes to write. -/
structure InHand (past : List WriteEvent) (thread : WriteThread) : Prop where
  received : lastDequeue past = some .receive →
    ∃ message ∈ thread.traffic.dequeued.getLast?,
      thread.mtpBuf = message.buffer ∧ thread.len = message.length
  failed : lastDequeue past ≠ some .receive → thread.mtpBuf = none
  within : thread.written ≤ thread.len

/-- The locals between turns: only a message whose buffer is not written leaves one behind. -/
structure Idle (thread : WriteThread) : Prop where
  reset : thread.written = 0
  empty : thread.mtype.carriesBytes = true → thread.mtpBuf = none

def Turn (past : List WriteEvent) (thread : WriteThread) : Prop :=
  match thread.pc with
  | .poll | .write | .cleanUp .packetLoop => InHand past thread
  | .writeEvent => InHand past thread ∧ thread.written = 0
  | .cleanUp _ | .finished => True
  | _ => Idle thread

/-!
## Turns
-/

theorem InHand.keep {past : List WriteEvent} {thread after : WriteThread} {event : WriteEvent}
    (inHand : InHand past thread) (same_turn : event.dequeues = false)
    (dequeued : after.traffic.dequeued = thread.traffic.dequeued)
    (buffer : after.mtpBuf = thread.mtpBuf) (len : after.len = thread.len)
    (within : after.written ≤ thread.len) : InHand (past ++ [event]) after := by
  have turn : lastDequeue (past ++ [event]) = lastDequeue past := by
    rw [lastDequeue_snoc, same_turn]
    rfl
  constructor
  · intro begun
    rw [dequeued, buffer, len]
    exact inHand.received (turn ▸ begun)
  · intro stale
    rw [buffer]
    exact inHand.failed (turn ▸ stale)
  · rwa [len]

theorem Turn.queue {past : List WriteEvent} {thread : WriteThread} {event : WriteEvent}
    (turn : Turn past thread) (same_turn : event.dequeues = false) (queue : List Queued)
    (enqueued : Nat) (taken freed : List Nat) :
    Turn (past ++ [event])
      { thread with freed, traffic := { thread.traffic with queue, enqueued, taken } } := by
  obtain ⟨pc⟩ := thread
  cases pc with
  | poll => exact InHand.keep turn same_turn rfl rfl rfl turn.within
  | write => exact InHand.keep turn same_turn rfl rfl rfl turn.within
  | writeEvent => exact ⟨turn.1.keep same_turn rfl rfl rfl turn.1.within, turn.2⟩
  | cleanUp resume =>
      cases resume with
      | packetLoop => exact InHand.keep turn same_turn rfl rfl rfl turn.within
      | exit => trivial
      | cancelled => trivial
  | finished => trivial
  | _ => exact ⟨turn.reset, turn.empty⟩

private theorem turn_checkStatus {past : List WriteEvent} {thread : WriteThread} (idle : Idle thread) :
    Turn past thread.checkStatus := by
  unfold checkStatus
  split
  · trivial
  · exact { idle with }

private theorem turn_packetLoop {past : List WriteEvent} {thread : WriteThread}
    (inHand : InHand past thread) : Turn past thread.packetLoop := by
  unfold packetLoop
  split
  · exact { inHand with }
  · exact turn_checkStatus ⟨rfl, fun _ => rfl⟩

private theorem turn_dispatch {past : List WriteEvent} {thread : WriteThread} (reset : thread.written = 0)
    (inHand : thread.mtype.carriesBytes = true → InHand past thread) :
    Turn past thread.dispatch := by
  unfold dispatch
  split
  case h_1 typed => exact turn_packetLoop (inHand (by rw [typed]; rfl))
  case h_2 typed => exact turn_packetLoop (inHand (by rw [typed]; rfl))
  case h_3 typed => exact ⟨{ inHand (by rw [typed]; rfl) with }, reset⟩
  case h_4 typed => exact ⟨reset, by rw [typed]; nofun⟩
  case h_5 typed => exact turn_checkStatus ⟨reset, by rw [typed]; nofun⟩
  case h_6 typed => exact turn_checkStatus ⟨reset, by rw [typed]; nofun⟩

private theorem remaining_le {thread : WriteThread} (within : thread.written ≤ thread.len) :
    thread.remaining ≤ thread.len - thread.written := by
  unfold remaining
  rw [← Int.ofNat_sub within]
  exact toUint32_le _

/-- The position never leaves the message, whatever the conversions make of a count. -/
theorem turn_afterWrite {past : List WriteEvent} {thread : WriteThread} {result : WriteResult}
    (inHand : InHand past thread) (within : result.within thread.remaining = true) :
    Turn (past ++ [.write result])
      (thread.logWrite .bulkIn thread.mtpBuf thread.written thread.remaining
        result).afterWrite := by
  have asked := remaining_le inHand.within
  unfold afterWrite
  split
  · split
    · exact inHand.keep rfl rfl rfl rfl inHand.within
    · exact turn_packetLoop (inHand.keep rfl rfl rfl rfl inHand.within)
  case isFalse accepted =>
    refine turn_packetLoop (inHand.keep rfl rfl rfl rfl ?_)
    rw [status_logWrite] at accepted
    cases result with
    | failed errno => exact absurd (Int.negSucc_lt_zero 0) accepted
    | accepted count =>
        have taken : count ≤ thread.remaining := by simpa [WriteResult.within] using within
        have counted : (WriteResult.accepted count).status ≤ count := toInt32_le count
        have inside := inHand.within
        obtain ⟨advance, same⟩ := Int.eq_ofNat_of_zero_le (Int.not_lt.mp accepted)
        have position := toUint32_le (thread.written + advance)
        change toUint32 (thread.written + (WriteResult.accepted count).status) ≤ thread.len
        rw [same, ← Int.natCast_add]
        omega

private theorem turn_step {past : List WriteEvent} {thread after : WriteThread} {event : WriteEvent}
    (turn : Turn past thread) (stepped : thread.step event = some after) :
    Turn (past ++ [event]) after := by
  cases step_eq_some stepped with
  | enqueue message => exact turn.queue rfl ..
  | start fd at_start =>
      simp only [Turn, at_start] at turn
      exact { turn with }
  | testcancel at_test =>
      simp only [Turn, at_test] at turn
      exact { turn with }
  | cancel at_point => trivial
  | receive head rest at_receive queue =>
      simp only [Turn, at_receive] at turn
      refine turn_dispatch turn.reset fun _ => ⟨fun _ => ?_, fun stale => ?_, ?_⟩
      · exact ⟨head.message, by simp [takeMessage], rfl, rfl⟩
      · simp [lastDequeue_snoc, WriteEvent.dequeues] at stale
      · exact turn.reset ▸ Nat.zero_le _
  | receiveFailed at_receive =>
      simp only [Turn, at_receive] at turn
      refine turn_dispatch turn.reset fun typed => ⟨fun begun => ?_, fun _ => turn.empty typed, ?_⟩
      · simp [lastDequeue_snoc, WriteEvent.dequeues] at begun
      · exact turn.reset ▸ Nat.zero_le _
  | poll result at_poll =>
      simp only [Turn, at_poll] at turn
      unfold afterPoll
      split
      · exact turn_packetLoop (turn.keep rfl rfl rfl rfl turn.within)
      · split
        · exact turn.keep rfl rfl rfl rfl turn.within
        · exact turn_packetLoop (turn.keep rfl rfl rfl rfl turn.within)
  | write result at_write within =>
      simp only [Turn, at_write] at turn
      exact turn_afterWrite turn within
  | writeEvent result at_write within =>
      simp only [Turn, at_write] at turn
      exact turn_checkStatus ⟨turn.2, fun _ => rfl⟩
  | writeZlp result at_write within =>
      simp only [Turn, at_write] at turn
      exact turn_checkStatus { turn with }
  | drain resume head rest at_cleanUp queue => exact turn.queue rfl ..
  | drained resume at_cleanUp =>
      cases resume with
      | packetLoop =>
          simp only [Turn, at_cleanUp] at turn
          exact turn_packetLoop (turn.keep rfl rfl rfl rfl turn.within)
      | exit => trivial
      | cancelled => trivial

private theorem turn_initial : Turn [] initial := ⟨rfl, nofun⟩

/-!
## The buffer in hand
-/

/-- A buffer that came with one message is not freed while the thread has it in hand. -/
theorem not_freed_of_in_hand {past : List WriteEvent} {thread : WriteThread} {buffer : Buffer}
    (own : (past.flatMap WriteEvent.buffers).Nodup)
    (reached : run step initial past = some thread) (in_hand : thread.mtpBuf = some buffer) :
    buffer.block ∉ thread.freed := by
  intro freed
  have ledger := ledger_run reached
  have enqueued := ledger.enqueued buffer.block
  have taken := ledger.taken buffer.block
  have once := List.nodup_iff_count_le_one.mp own buffer.block
  have released := List.count_pos_iff.mpr freed
  have held : thread.hand.count buffer.block = 1 := by simp [hand, in_hand, blocksOf]
  rw [owned, List.count_append] at taken
  omega

private theorem newWrites_eq_singleton {before after : WriteThread} {write : EndpointWrite}
    (writes : after.traffic.writes = before.traffic.writes ++ [write]) :
    newWrites before after = [write] := by
  rw [newWrites, writes, List.drop_left]

private theorem writesLastMessage_iff {past : List WriteEvent} {before after : WriteThread}
    {event : WriteEvent} {write : EndpointWrite} (inHand : InHand past before)
    (own : (past.flatMap WriteEvent.buffers).Nodup)
    (reached : run step initial past = some before)
    (writes : after.traffic.writes = before.traffic.writes ++ [write])
    (buffer : write.buffer = before.mtpBuf) (requested : write.requested = before.asks event)
    (within : write.requested ≤ before.len) :
    WritesLastMessage before event after ↔
      (0 < before.asks event → HasMessage past before) := by
  rw [WritesLastMessage, newWrites_eq_singleton writes, ← requested]
  simp only [List.mem_singleton, forall_eq]
  apply imp_congr_right
  intro asked
  constructor
  · rintro ⟨message, last, pointed, some_buffer, same, -, -⟩
    rw [buffer] at some_buffer
    refine ⟨Decidable.byContradiction fun stale => ?_, ?_⟩
    · rw [inHand.failed stale] at some_buffer
      cases some_buffer
    · rw [Option.mem_def.mp last]
      simp [same]
  · rintro ⟨begun, has_buffer⟩
    obtain ⟨message, last, same_buffer, same_len⟩ := inHand.received begun
    rw [Option.mem_def.mp last] at has_buffer
    obtain ⟨pointed, some_buffer⟩ := Option.isSome_iff_exists.mp has_buffer
    have in_hand : before.mtpBuf = some pointed := same_buffer.trans some_buffer
    exact ⟨message, last, pointed, buffer.trans in_hand, some_buffer,
      not_freed_of_in_hand own reached in_hand, same_len ▸ within⟩

private theorem writesLastMessage_of_quiet {past : List WriteEvent} {before after : WriteThread}
    {event : WriteEvent} (writes : after.traffic.writes = before.traffic.writes)
    (asks_nothing : before.asks event = 0) :
    WritesLastMessage before event after ↔
      (0 < before.asks event → HasMessage past before) := by
  rw [WritesLastMessage, newWrites, writes, List.drop_length, asks_nothing]
  exact iff_of_true nofun nofun

private theorem writesLastMessage_step {past : List WriteEvent} {before after : WriteThread}
    {event : WriteEvent} (turn : Turn past before)
    (own : (past.flatMap WriteEvent.buffers).Nodup)
    (reached : run step initial past = some before) (stepped : before.step event = some after) :
    WritesLastMessage before event after ↔
      (0 < before.asks event → HasMessage past before) := by
  cases step_eq_some stepped with
  | write result at_write within =>
      simp only [Turn, at_write] at turn
      refine writesLastMessage_iff turn own reached (by rw [traffic_afterWrite]; rfl) rfl ?_ ?_
      · simp [asks, at_write]
      · exact (remaining_le turn.within).trans (Nat.sub_le _ _)
  | writeEvent result at_write within =>
      simp only [Turn, at_write] at turn
      refine writesLastMessage_iff turn.1 own reached (by rw [traffic_checkStatus]; rfl) rfl ?_ ?_
      · simp [asks, at_write]
      · exact Nat.le_refl _
  | writeZlp result at_write within =>
      have logged : newWrites before (before.logWrite .bulkIn none 0 0 result).checkStatus = [_] :=
        newWrites_eq_singleton (by rw [traffic_checkStatus]; rfl)
      refine iff_of_true ?_ (by simp [asks, at_write])
      rw [WritesLastMessage, logged]
      simp
  | enqueue message => exact writesLastMessage_of_quiet rfl rfl
  | start fd at_start => exact writesLastMessage_of_quiet rfl rfl
  | testcancel at_test => exact writesLastMessage_of_quiet rfl rfl
  | cancel at_point => exact writesLastMessage_of_quiet rfl rfl
  | receive head rest at_receive queue =>
      exact writesLastMessage_of_quiet (by rw [traffic_dispatch]; rfl) rfl
  | receiveFailed at_receive => exact writesLastMessage_of_quiet (by rw [traffic_dispatch]) rfl
  | poll result at_poll => exact writesLastMessage_of_quiet (by rw [traffic_afterPoll]) rfl
  | drain resume head rest at_cleanUp queue => exact writesLastMessage_of_quiet rfl rfl
  | drained resume at_cleanUp =>
      exact writesLastMessage_of_quiet (by rw [traffic_afterCleanUp]) rfl

structure Remembered (state : List WriteEvent × WriteThread) : Prop where
  reached : run step initial state.1 = some state.2
  turn : Turn state.1 state.2
  own : (state.1.flatMap WriteEvent.buffers).Nodup

private theorem remembered_step {before after : List WriteEvent × WriteThread} {event : WriteEvent}
    (remembered : Remembered before) (stepped : recorded step before event = some after)
    (own : (after.1.flatMap WriteEvent.buffers).Nodup) : Remembered after := by
  obtain ⟨thread_stepped, past⟩ := recorded_eq_some.mp stepped
  refine ⟨?_, ?_, own⟩
  · rw [past]
    exact run_snoc.mpr ⟨before.2, remembered.reached, thread_stepped⟩
  · rw [past]
    exact turn_step remembered.turn thread_stepped

/-- In every run over messages with buffers of their own, the thread writes bytes only of the
message that it has just received, in exactly those runs in which no bytes are asked for in a
turn without a message or with a message without a buffer. -/
theorem writes_last_message_iff {events : List WriteEvent}
    (own : (events.flatMap WriteEvent.buffers).Nodup) :
    Along step WritesLastMessage initial events ↔ WritesInTurn events := by
  have beginnings : ∀ first, first <+: [] ++ events →
      (first.flatMap WriteEvent.buffers).Nodup := by
    rintro first ⟨rest, same⟩
    rw [List.nil_append] at same
    rw [← same, List.flatMap_append] at own
    exact (List.nodup_append.mp own).1
  have start : Remembered ([], initial) := ⟨rfl, turn_initial, List.nodup_nil⟩
  unfold WritesInTurn
  rw [← along_recorded]
  refine along_congr ?_ start (along_recorded_past beginnings)
  intro before event after remembered stepped own_after
  have exact_step := writesLastMessage_step remembered.turn remembered.own remembered.reached
    (recorded_eq_some.mp stepped).1
  exact ⟨remembered_step remembered stepped own_after, exact_step⟩

/-- A byte is sent and its buffer freed; the next attempt to receive fails, and a byte is
written from NULL. -/
def staleLength : List WriteEvent :=
  [.enqueue ⟨.bulk, 1, some ⟨1, [10]⟩⟩, .start 5, .testcancel, .receive,
   .poll (.returned 1 true), .write (.accepted 1), .testcancel, .receiveFailed,
   .poll (.returned 1 true), .write (.failed (.other 14))]

theorem null_written_after_failed_dequeue :
    ∃ final, run step initial staleLength = some final ∧ final.freed = [1] ∧
      final.traffic.writes.map (fun write => (write.buffer, write.requested)) =
        [(some ⟨1, [10]⟩, 1), (none, 1)] ∧
      ¬ Along step WritesLastMessage initial staleLength := by
  refine ⟨_, rfl, rfl, rfl, ?_⟩
  decide

/-- After a zero-length packet a failed attempt to receive does no harm. -/
def failedAfterZlp : List WriteEvent :=
  [.enqueue ⟨.event, 2, some ⟨1, [10, 20]⟩⟩, .enqueue ⟨.zlp, 0, some ⟨2, []⟩⟩,
   .enqueue ⟨.data, 1, some ⟨3, [30]⟩⟩, .start 5, .testcancel, .receive, .write (.accepted 2),
   .testcancel, .receive, .write (.accepted 0), .testcancel, .receiveFailed,
   .write (.accepted 0), .testcancel, .receive, .poll (.returned 1 true), .write (.accepted 1)]

theorem last_message_written_after_zlp :
    (run step initial failedAfterZlp).isSome ∧
      Along step WritesLastMessage initial failedAfterZlp := by
  refine ⟨rfl, (writes_last_message_iff (by decide)).mpr ?_⟩
  unfold WritesInTurn
  decide

end WriteThread

end VelaExternal.MtpResponder
