import VelaExternal.MtpResponder.ReadThreadProperties
import VelaExternal.MtpResponder.WriteThreadProperties
import VelaExternal.Systems.Ledger

/-! Who owns the packet buffers of the two transport threads. A cancellation forgets the
buffer that a local of the thread refers to, since the cleanup handler sees the queue only. -/

set_option autoImplicit false

namespace VelaExternal.MtpResponder

open Systems

/-!
## The write thread
-/

def WriteEvent.buffers : WriteEvent → List Nat
  | .enqueue message => message.blocks
  | _ => []

/-- The thread has been cancelled or is done: its locals are gone. -/
def WritePc.ended : WritePc → Bool
  | .cleanUp .cancelled | .finished => true
  | _ => false

namespace WriteThread

/-- The buffers that a step makes the thread forget: a cancellation ends its locals, and
a message that it receives replaces `mtp_buf`. -/
def abandons (thread : WriteThread) : WriteEvent → List Nat
  | .cancel => thread.hand
  | .receive => thread.hand
  | _ => []

def queueBlocks (thread : WriteThread) : List Nat :=
  thread.traffic.queue.flatMap (·.message.blocks)

def owned (thread : WriteThread) : List Nat := thread.freed ++ thread.hand

@[simp] theorem owned_freeBuffer (thread : WriteThread) :
    thread.freeBuffer.owned = thread.owned := by
  simp [owned, freeBuffer, hand]

@[simp] theorem owned_checkStatus (thread : WriteThread) :
    thread.checkStatus.owned = thread.owned := by
  unfold checkStatus
  split <;> rfl

@[simp] theorem owned_packetLoop (thread : WriteThread) :
    thread.packetLoop.owned = thread.owned := by
  unfold packetLoop
  split
  · rfl
  · rw [owned_checkStatus, owned_freeBuffer]
    rfl

private theorem owned_dispatch (thread : WriteThread) : thread.dispatch.owned = thread.owned := by
  unfold dispatch
  split
  case h_1 => exact owned_packetLoop thread
  case h_2 => exact owned_packetLoop thread
  case h_3 => rfl
  case h_4 => rfl
  all_goals
    rw [owned_checkStatus]
    rfl

private theorem owned_afterPoll (thread : WriteThread) (result : PollResult) :
    (thread.afterPoll result).owned = thread.owned := by
  unfold afterPoll
  split
  · rw [owned_packetLoop]
    rfl
  · split
    · rfl
    · rw [owned_packetLoop]
      rfl

private theorem owned_afterWrite (thread : WriteThread) : thread.afterWrite.owned = thread.owned := by
  unfold afterWrite
  split
  · split
    · rfl
    · exact owned_packetLoop thread
  · rw [owned_packetLoop]
    rfl

private theorem owned_afterCleanUp (thread : WriteThread) (resume : Resume) :
    (thread.afterCleanUp resume).owned = thread.owned := by
  cases resume with
  | packetLoop => exact owned_packetLoop thread
  | exit => exact owned_freeBuffer thread
  | cancelled => rfl

private theorem ended_checkStatus (thread : WriteThread) : thread.checkStatus.pc.ended = false := by
  unfold checkStatus
  split <;> rfl

private theorem ended_packetLoop (thread : WriteThread) : thread.packetLoop.pc.ended = false := by
  unfold packetLoop
  split
  · rfl
  · exact ended_checkStatus _

private theorem ended_dispatch (thread : WriteThread) : thread.dispatch.pc.ended = false := by
  unfold dispatch
  split
  case h_1 => exact ended_packetLoop thread
  case h_2 => exact ended_packetLoop thread
  case h_3 => rfl
  case h_4 => rfl
  all_goals exact ended_checkStatus _

private theorem ended_afterPoll (thread : WriteThread) (result : PollResult) :
    (thread.afterPoll result).pc.ended = false := by
  unfold afterPoll
  split
  · exact ended_packetLoop _
  · split
    · rfl
    · exact ended_packetLoop _

private theorem ended_afterWrite (thread : WriteThread) : thread.afterWrite.pc.ended = false := by
  unfold afterWrite
  split
  · split
    · rfl
    · exact ended_packetLoop thread
  · exact ended_packetLoop _

/-- Where all buffers are that were ever enqueued, and those that the thread took. -/
structure Ledger (past : List WriteEvent) (abandoned : List Nat) (thread : WriteThread) : Prop where
  enqueued : ∀ block, (past.flatMap WriteEvent.buffers).count block =
    thread.traffic.taken.count block + thread.queueBlocks.count block
  taken : ∀ block, thread.traffic.taken.count block =
    thread.owned.count block + abandoned.count block
  ended : thread.pc.ended = true → thread.mtpBuf = none

theorem Ledger.quiet {past : List WriteEvent} {abandoned : List Nat} {thread after : WriteThread}
    {event : WriteEvent} (ledger : Ledger past abandoned thread) (buffers : event.buffers = [])
    (abandons : thread.abandons event = []) (traffic : after.queueBlocks = thread.queueBlocks ∧
      after.traffic.taken = thread.traffic.taken) (owned : after.owned = thread.owned)
    (ended : after.pc.ended = true → after.mtpBuf = none) :
    Ledger (past ++ [event]) (abandoned ++ thread.abandons event) after where
  enqueued block := by
    simpa [buffers, traffic.1, traffic.2] using ledger.enqueued block
  taken block := by
    simpa [abandons, owned, traffic.2] using ledger.taken block
  ended := ended

theorem ledger_step {past : List WriteEvent} {abandoned : List Nat} {thread after : WriteThread}
    {event : WriteEvent} (ledger : Ledger past abandoned thread)
    (stepped : thread.step event = some after) :
    Ledger (past ++ [event]) (abandoned ++ thread.abandons event) after := by
  have absurd_ended {Goal : Prop} {other : WriteThread} (false_ended : other.pc.ended = false)
      (true_ended : other.pc.ended = true) : Goal := by
    rw [false_ended] at true_ended
    cases true_ended
  cases step_eq_some stepped with
  | enqueue message =>
      constructor
      · intro block
        have enqueued := ledger.enqueued block
        simp only [queueBlocks, List.flatMap_append, List.flatMap_cons, List.flatMap_nil,
          List.append_nil, List.count_append, WriteEvent.buffers, putMessage] at enqueued ⊢
        omega
      · intro block
        simpa [abandons, putMessage, owned, hand] using ledger.taken block
      · exact ledger.ended
  | start fd at_start => exact ledger.quiet rfl rfl ⟨rfl, rfl⟩ rfl nofun
  | testcancel at_test => exact ledger.quiet rfl rfl ⟨rfl, rfl⟩ rfl nofun
  | cancel at_point =>
      constructor
      · intro block
        simpa [WriteEvent.buffers, cleanUpMsgQueue, queueBlocks] using ledger.enqueued block
      · intro block
        have taken := ledger.taken block
        simp only [owned, hand, abandons, List.count_append, cleanUpMsgQueue, blocksOf_none,
          List.append_nil] at taken ⊢
        omega
      · intro _
        rfl
  | receive head rest at_receive queue =>
      constructor
      · intro block
        have enqueued := ledger.enqueued block
        simp only [queueBlocks, queue, traffic_dispatch, takeMessage, List.flatMap_append,
          List.flatMap_cons, List.flatMap_nil, List.append_nil, List.count_append,
          WriteEvent.buffers] at enqueued ⊢
        omega
      · intro block
        have taken := ledger.taken block
        rw [owned_dispatch, traffic_dispatch]
        simp only [owned, hand, takeMessage, MsgqPtr.blocks, abandons, List.count_append] at taken ⊢
        omega
      · exact absurd_ended (ended_dispatch _)
  | receiveFailed at_receive =>
      refine ledger.quiet rfl rfl ⟨?_, ?_⟩ (owned_dispatch _) (absurd_ended (ended_dispatch _))
      · rw [queueBlocks, traffic_dispatch, queueBlocks]
      · rw [traffic_dispatch]
  | poll result at_poll =>
      refine ledger.quiet rfl rfl ⟨?_, ?_⟩ (owned_afterPoll ..) (absurd_ended (ended_afterPoll ..))
      · rw [queueBlocks, traffic_afterPoll, queueBlocks]
      · rw [traffic_afterPoll]
  | write result at_write within =>
      refine ledger.quiet rfl rfl ⟨?_, ?_⟩ (owned_afterWrite _) (absurd_ended (ended_afterWrite _))
      · rw [queueBlocks, traffic_afterWrite]
        rfl
      · rw [traffic_afterWrite]
        rfl
  | writeEvent result at_write within =>
      refine ledger.quiet rfl rfl ⟨?_, ?_⟩ ?_ (absurd_ended (ended_checkStatus _))
      · rw [queueBlocks, traffic_checkStatus]
        rfl
      · rw [traffic_checkStatus]
        rfl
      · rw [owned_checkStatus, owned_freeBuffer]
        rfl
  | writeZlp result at_write within =>
      refine ledger.quiet rfl rfl ⟨?_, ?_⟩ (owned_checkStatus _)
        (absurd_ended (ended_checkStatus _))
      · rw [queueBlocks, traffic_checkStatus]
        rfl
      · rw [traffic_checkStatus]
        rfl
  | drain resume head rest at_cleanUp queue =>
      refine ⟨fun block => ?_, fun block => ?_, ledger.ended⟩
      · have enqueued := ledger.enqueued block
        simp only [queueBlocks, queue, drainMessage, List.flatMap_append, List.flatMap_cons,
          List.flatMap_nil, List.append_nil, List.count_append, WriteEvent.buffers] at enqueued ⊢
        omega
      · have taken := ledger.taken block
        simp only [owned, hand, drainMessage, abandons, List.count_append,
          List.count_nil] at taken ⊢
        omega
  | drained resume at_cleanUp =>
      refine ledger.quiet rfl rfl ⟨?_, ?_⟩ (owned_afterCleanUp ..) ?_
      · rw [queueBlocks, traffic_afterCleanUp, queueBlocks]
      · rw [traffic_afterCleanUp]
      · cases resume with
        | packetLoop => exact absurd_ended (ended_packetLoop thread)
        | exit => exact fun _ => rfl
        | cancelled => exact fun _ => ledger.ended (by rw [at_cleanUp]; rfl)

theorem ledger_run {events : List WriteEvent} {final : WriteThread}
    (reached : run step initial events = some final) :
    Ledger events (outputs step abandons initial events) final := by
  refine run_history (fun past thread => Ledger past (outputs step abandons initial past) thread)
    ⟨fun _ => rfl, fun _ => rfl, fun _ => rfl⟩ ?_ reached
  intro past before event after past_reached ledger stepped
  rw [outputs_snoc past_reached stepped]
  exact ledger_step ledger stepped

/-- A cancellation finds no buffer in hand, and a message replaces none. -/
def KeepsBuffer (before : WriteThread) (event : WriteEvent) (_ : WriteThread) : Prop :=
  before.abandons event = []

instance (before : WriteThread) (event : WriteEvent) (after : WriteThread) :
    Decidable (KeepsBuffer before event after) :=
  inferInstanceAs (Decidable (_ = _))

theorem accounted_iff {events : List WriteEvent} {final : WriteThread}
    (own : (events.flatMap WriteEvent.buffers).Nodup)
    (reached : run step initial events = some final) (finished : final.pc = .finished) :
    Accounted final.traffic.taken final.freed final.queueBlocks ↔
      Along step KeepsBuffer initial events := by
  have ledger := ledger_run reached
  have empty : final.mtpBuf = none := ledger.ended (by rw [finished]; rfl)
  have taken (block : Nat) : final.traffic.taken.count block = final.freed.count block +
      (outputs step abandons initial events).count block := by
    simpa [owned, hand, empty] using ledger.taken block
  have balanced : Balanced (events.flatMap WriteEvent.buffers) final.freed final.queueBlocks
      (outputs step abandons initial events) := ⟨fun block => by
    have enqueued := ledger.enqueued block
    have taken := taken block
    omega⟩
  have taken_enqueued : final.traffic.taken ⊆ events.flatMap WriteEvent.buffers := by
    intro block member
    have enqueued := ledger.enqueued block
    have present := List.count_pos_iff.mpr member
    exact List.count_pos_iff.mp (by omega)
  have abandoned_taken : outputs step abandons initial events ⊆ final.traffic.taken := by
    intro block member
    have taken := taken block
    have present := List.count_pos_iff.mpr member
    exact List.count_pos_iff.mp (by omega)
  exact (balanced.accounted_iff own taken_enqueued abandoned_taken).trans
    (outputs_eq_nil_iff reached)

end WriteThread

/-!
## The read thread
-/

def ReadPc.holds : ReadPc → Bool
  | .reading _ | .recovering _ | .send => true
  | _ => false

namespace ReadThread

variable {conf : MtpConfig} {maxRetry : Nat}

def abandons (thread : ReadThread) : ReadEvent → List Nat
  | .cancel => thread.hand
  | _ => []

private theorem abandons_eq_nil {thread : ReadThread} {event : ReadEvent} (kept : event ≠ .cancel) :
    thread.abandons event = [] := by
  cases event with
  | cancel => exact absurd rfl kept
  | _ => rfl

def queueBlocks (thread : ReadThread) : List Nat :=
  (thread.queue ++ thread.consumed).flatMap MsgqPtr.blocks

def earlierBlocks (thread : ReadThread) : List Nat := thread.earlier.flatMap MsgqPtr.blocks

structure Ledger (abandoned : List Nat) (thread : ReadThread) : Prop where
  acquired : ∀ block, (thread.allocated ++ thread.earlierBlocks).count block =
    thread.freed.count block + thread.hand.count block + thread.queueBlocks.count block +
      abandoned.count block
  distinct : (thread.allocated ++ thread.earlierBlocks).Nodup
  own : thread.hand ++ abandoned ⊆ thread.allocated
  idle : thread.pc.holds = false → thread.buffer = none

theorem Ledger.hand_eq {abandoned : List Nat} {thread : ReadThread}
    (ledger : Ledger abandoned thread) (idle : thread.pc.holds = false) : thread.hand = [] := by
  rw [hand, ledger.idle idle, Option.toList_none]

theorem Ledger.quiet {abandoned : List Nat} {thread after : ReadThread}
    (ledger : Ledger abandoned thread) (allocated : after.allocated = thread.allocated)
    (earlier : after.earlier = thread.earlier) (freed : after.freed = thread.freed)
    (buffer : after.buffer = thread.buffer) (queueBlocks : after.queueBlocks = thread.queueBlocks)
    (idle : after.pc.holds = false → thread.pc.holds = false) : Ledger abandoned after where
  acquired block := by
    have acquired := ledger.acquired block
    rwa [earlierBlocks, hand, allocated, earlier, freed, buffer, queueBlocks]
  distinct := by
    have distinct := ledger.distinct
    rwa [earlierBlocks, allocated, earlier]
  own := by
    have own := ledger.own
    rwa [hand, buffer, allocated]
  idle empty := buffer ▸ ledger.idle (idle empty)

theorem Ledger.freeBuffer {abandoned : List Nat} {thread : ReadThread}
    (ledger : Ledger abandoned thread) : Ledger abandoned thread.freeBuffer where
  acquired block := by
    have acquired := ledger.acquired block
    simp only [ReadThread.freeBuffer, hand, queueBlocks, earlierBlocks, List.count_append,
      Option.toList_none, List.count_nil] at acquired ⊢
    omega
  distinct := ledger.distinct
  own := List.Subset.trans (List.subset_append_right _ _) ledger.own
  idle _ := rfl

private theorem packet_blocks (thread : ReadThread) : thread.packet.blocks = thread.hand := by
  simp [packet, MsgqPtr.blocks, blocksOf, hand, Option.map_map, Function.comp_def]

theorem Ledger.putPacket {abandoned : List Nat} {thread : ReadThread}
    (ledger : Ledger abandoned thread) : Ledger abandoned thread.putPacket where
  acquired block := by
    have acquired := ledger.acquired block
    have passed := packet_blocks thread
    simp only [ReadThread.putPacket, hand, queueBlocks, earlierBlocks, List.count_append,
      List.flatMap_append, List.flatMap_cons, List.flatMap_nil, List.append_nil, passed,
      Option.toList_none, List.count_nil] at acquired ⊢
    omega
  distinct := ledger.distinct
  own := List.Subset.trans (List.subset_append_right _ _) ledger.own
  idle _ := rfl

theorem Ledger.nextIteration {abandoned : List Nat} {thread : ReadThread}
    (ledger : Ledger abandoned thread) (empty : thread.buffer = none) :
    Ledger abandoned thread.nextIteration := by
  unfold ReadThread.nextIteration
  split
  · exact { ledger with idle := fun _ => empty }
  · exact { ledger with idle := fun _ => empty }

private theorem ledger_usbOutcome {abandoned : List Nat} {thread after : ReadThread}
    (ledger : Ledger abandoned thread) (outcome : UsbOutcome thread after) :
    Ledger abandoned after := by
  cases outcome with
  | delivered bytes nonempty => exact { ledger with idle := nofun }
  | reading received once => exact { ledger with idle := nofun }
  | recovering status received once => exact { ledger with idle := nofun }
  | failed status received => exact { ledger.freeBuffer with idle := fun _ => rfl }

theorem ledger_step {abandoned : List Nat} {thread after : ReadThread} {event : ReadEvent}
    (ledger : Ledger abandoned thread) (position : thread.Position)
    (steps : Steps conf maxRetry thread event after) :
    Ledger (abandoned ++ thread.abandons event) after := by
  cases steps with
  | cancel at_point =>
      constructor
      · intro block
        have acquired := ledger.acquired block
        simp only [hand, queueBlocks, earlierBlocks, cleanUpMsgQueue, abandons, List.count_append,
          Option.toList_none, List.count_nil] at acquired ⊢
        omega
      · exact ledger.distinct
      · have swapped : abandoned ++ thread.hand ⊆ thread.hand ++ abandoned :=
          List.perm_append_comm.subset
        exact List.Subset.trans swapped ledger.own
      · intro _
        rfl
  | malloc block bytes at_malloc fresh =>
      have empty := ledger.hand_eq (by rw [at_malloc]; rfl)
      constructor
      · intro other
        have acquired := ledger.acquired other
        rw [empty] at acquired
        simp only [queueBlocks, earlierBlocks, abandons, hand, List.append_nil,
          List.count_append, Option.toList_some, List.count_nil] at acquired ⊢
        omega
      · have distinct := List.nodup_cons.mpr ⟨fresh, ledger.distinct⟩
        change (thread.allocated ++ [block] ++ thread.earlierBlocks).Nodup
        rw [List.append_assoc]
        exact List.perm_middle.nodup_iff.mpr distinct
      · have own := ledger.own
        simp only [empty, List.nil_append] at own
        simp only [hand, Option.toList_some, abandons, List.append_nil]
        exact List.append_subset.mpr ⟨List.subset_append_right _ _,
          List.Subset.trans own (List.subset_append_left _ _)⟩
      · simp [ReadPc.holds]
  | reading event program rest world at_read stepped =>
      simp only [Position, at_read] at position
      rw [abandons_eq_nil (by simp), List.append_nil]
      exact ledger_usbOutcome ledger (afterRead_outcome (position.2.step stepped))
  | recovering event program rest world at_recovery stepped =>
      simp only [Position, at_recovery] at position
      rw [abandons_eq_nil (by simp), List.append_nil]
      exact ledger_usbOutcome ledger (afterRecovery_outcome (position.2.step stepped) _)
  | sent at_send =>
      rw [abandons_eq_nil (by simp), List.append_nil]
      exact ledger.putPacket.nextIteration rfl
  | sendFailed at_send =>
      rw [abandons_eq_nil (by simp), List.append_nil]
      exact ledger.freeBuffer.nextIteration rfl
  | drain head rest at_cleanUp queue =>
      have idle := ledger.idle
      rw [abandons_eq_nil (by simp), List.append_nil]
      constructor
      · intro block
        have acquired := ledger.acquired block
        simp only [queueBlocks, queue, earlierBlocks, hand, drainMessage, List.count_append,
          List.flatMap_append, List.flatMap_cons] at acquired ⊢
        omega
      · exact ledger.distinct
      · exact ledger.own
      · exact idle
  | consume head rest queue =>
      rw [abandons_eq_nil (by simp), List.append_nil]
      constructor
      · intro block
        have acquired := ledger.acquired block
        simp only [queueBlocks, queue, earlierBlocks, hand, List.count_append, List.flatMap_append,
          List.flatMap_cons, List.flatMap_nil, List.append_nil] at acquired ⊢
        omega
      · exact ledger.distinct
      · exact ledger.own
      · exact ledger.idle
  | start at_start =>
      rw [abandons_eq_nil (by simp), List.append_nil]
      exact ledger.quiet rfl rfl rfl rfl rfl (by rw [at_start]; exact fun _ => rfl)
  | testcancel at_test =>
      rw [abandons_eq_nil (by simp), List.append_nil]
      exact ledger.quiet rfl rfl rfl rfl rfl (by rw [at_test]; exact fun _ => rfl)
  | mallocFailed at_malloc =>
      rw [abandons_eq_nil (by simp), List.append_nil]
      exact ledger.quiet rfl rfl rfl rfl rfl (by rw [at_malloc]; exact fun _ => rfl)
  | drained at_cleanUp =>
      rw [abandons_eq_nil (by simp), List.append_nil]
      exact ledger.quiet rfl rfl rfl rfl rfl (by rw [at_cleanUp]; exact fun _ => rfl)

theorem ledger_run {world : UsbWorld} {queue : List MsgqPtr} {events : List ReadEvent}
    {final : ReadThread} (own : (queue.flatMap MsgqPtr.blocks).Nodup)
    (reached : run (step conf maxRetry) (initial world queue) events = some final) :
    Ledger (outputs (step conf maxRetry) abandons (initial world queue) events) final := by
  have held : final.Position ∧
      Ledger (outputs (step conf maxRetry) abandons (initial world queue) events) final := by
    refine run_history (fun past thread => thread.Position ∧
      Ledger (outputs (step conf maxRetry) abandons (initial world queue) past) thread)
      ⟨trivial, ?_⟩ ?_ reached
    · constructor
      · intro block
        simp [initial, earlierBlocks, queueBlocks, hand, outputs]
      · exact own
      · exact List.nil_subset _
      · intro _
        rfl
    · rintro past before event after past_reached ⟨position, ledger⟩ stepped
      have steps := step_eq_some stepped
      rw [outputs_snoc past_reached stepped]
      exact ⟨position_step position steps, ledger_step ledger position steps⟩
  exact held.2

/-- A cancellation finds no buffer in hand. -/
def KeepsBuffer (before : ReadThread) (event : ReadEvent) (_ : ReadThread) : Prop :=
  before.abandons event = []

instance (before : ReadThread) (event : ReadEvent) (after : ReadThread) :
    Decidable (KeepsBuffer before event after) :=
  inferInstanceAs (Decidable (_ = _))

theorem accounted_iff {world : UsbWorld} {queue : List MsgqPtr} {events : List ReadEvent}
    {final : ReadThread} (own : (queue.flatMap MsgqPtr.blocks).Nodup)
    (reached : run (step conf maxRetry) (initial world queue) events = some final)
    (finished : final.pc = .finished) :
    Accounted final.allocated final.freed final.queueBlocks ↔
      Along (step conf maxRetry) KeepsBuffer (initial world queue) events := by
  have ledger := ledger_run own reached
  have empty := ledger.hand_eq (by rw [finished]; rfl)
  have balanced : Balanced (final.allocated ++ final.earlierBlocks) final.freed final.queueBlocks
      (outputs (step conf maxRetry) abandons (initial world queue) events) := ⟨fun block => by
    simpa [empty] using ledger.acquired block⟩
  have abandoned_own := List.Subset.trans (List.subset_append_right _ _) ledger.own
  exact (balanced.accounted_iff ledger.distinct (List.subset_append_left _ _) abandoned_own).trans
    (outputs_eq_nil_iff reached)

end ReadThread

/-!
## Both threads
-/

/-- When a thread has ended, each buffer that came to it has been freed once or belongs to one
message of its queue, in exactly those runs in which no cancellation and no further message
came upon a buffer in hand. -/
theorem buffers_accounted_iff (conf : MtpConfig) (maxRetry : Nat) :
    (∀ (events : List WriteEvent) (final : WriteThread),
      (events.flatMap WriteEvent.buffers).Nodup →
      run WriteThread.step .initial events = some final → final.pc = .finished →
      (Accounted final.traffic.taken final.freed final.queueBlocks ↔
        Along WriteThread.step WriteThread.KeepsBuffer .initial events)) ∧
    ∀ (world : UsbWorld) (queue : List MsgqPtr) (events : List ReadEvent) (final : ReadThread),
      (queue.flatMap MsgqPtr.blocks).Nodup →
      run (ReadThread.step conf maxRetry) (.initial world queue) events = some final →
      final.pc = .finished →
      (Accounted final.allocated final.freed final.queueBlocks ↔
        Along (ReadThread.step conf maxRetry) ReadThread.KeepsBuffer (.initial world queue)
          events) := by
  constructor
  · intro events final
    exact WriteThread.accounted_iff
  · intro world queue events final
    exact ReadThread.accounted_iff

/-- A data message is sent, and a message of a type without a meaning ends the thread. -/
def endedWriter : List WriteEvent :=
  [.enqueue ⟨.data, 1, some ⟨1, [7]⟩⟩, .enqueue ⟨.other 9, 0, some ⟨2, []⟩⟩, .start 5,
   .testcancel, .receive, .poll (.returned 1 true), .write (.accepted 1), .testcancel, .receive,
   .drained]

def endedReader : List ReadEvent :=
  .start :: ReadThread.received 1 [7] ++ [.sent] ++ ReadThread.received 2 [8] ++
    [.sendFailed, .testcancel, .mallocFailed, .drain, .drained]

theorem buffers_accounted_at_exit :
    (∃ final, run WriteThread.step .initial endedWriter = some final ∧ final.freed = [1, 2] ∧
      Accounted final.traffic.taken final.freed final.queueBlocks) ∧
    ∃ final, run (ReadThread.step ReadThread.oneReadConfig 5) (.initial ReadThread.openWorld [])
        endedReader = some final ∧ final.freed = [2, 1] ∧
      Accounted final.allocated final.freed final.queueBlocks := by
  have writer : run WriteThread.step .initial endedWriter = some _ := rfl
  have reader : run (ReadThread.step ReadThread.oneReadConfig 5)
      (.initial ReadThread.openWorld []) endedReader = some _ := rfl
  have accounted := buffers_accounted_iff ReadThread.oneReadConfig 5
  constructor
  · exact ⟨_, writer, rfl, (accounted.1 _ _ (by decide) writer rfl).mpr (by decide)⟩
  · exact ⟨_, reader, rfl, (accounted.2 _ _ _ _ (by decide) reader rfl).mpr (by decide)⟩

/-- The writer is cancelled while it waits to send, the reader while it waits for bytes. -/
theorem cancelled_threads_leak :
    (∃ final, run WriteThread.step .initial
        [.enqueue ⟨.data, 1, some ⟨1, [7]⟩⟩, .start 5, .testcancel, .receive, .cancel,
          .drained] = some final ∧
      final.pc = .finished ∧ final.traffic.taken = [1] ∧ final.freed = [] ∧
      ¬ Accounted final.traffic.taken final.freed final.queueBlocks) ∧
    ∃ final, run (ReadThread.step ReadThread.oneReadConfig 5) (.initial ReadThread.openWorld [])
        [.start, .testcancel, .malloc 1 [], .usb .memory, .cancel, .drained] = some final ∧
      final.pc = .finished ∧ final.allocated = [1] ∧ final.freed = [] ∧
      ¬ Accounted final.allocated final.freed final.queueBlocks := by
  refine ⟨⟨_, rfl, rfl, rfl, rfl, ?_⟩, _, rfl, rfl, rfl, rfl, ?_⟩ <;> decide

end VelaExternal.MtpResponder
