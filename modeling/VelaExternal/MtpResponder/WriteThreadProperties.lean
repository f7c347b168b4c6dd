import VelaExternal.MtpResponder.WriteThread
import VelaExternal.Systems.Run
import VelaExternal.Systems.Transfer

/-! What the write thread puts on the bulk-in endpoint. As long as no write is
cancelled it transfers the payloads of its packets in order; after a cancelled
write it goes on with the packet in hand. -/

set_option autoImplicit false

namespace VelaExternal.MtpResponder

open Systems

/-- The messages fit in `mtp_int32`, they are received, and no write is cancelled. -/
def WriteEvent.Undisturbed : WriteEvent → Prop
  | .enqueue message => message.length < 2 ^ 31
  | .receiveFailed => False
  | .write (.failed errno) => errno ≠ .enomem ∧ errno ≠ .ecanceled
  | _ => True

namespace WriteThread

/-- The steps of the thread and of those that fill its queue. -/
inductive Steps (thread : WriteThread) : WriteEvent → WriteThread → Prop where
  | enqueue (message : MsgqPtr) : Steps thread (.enqueue message) (thread.putMessage message)
  | start (fd : Int) (at_start : thread.pc = .start) :
      Steps thread (.start fd) { thread with fd, pc := .testcancel }
  | testcancel (at_test : thread.pc = .testcancel) :
      Steps thread .testcancel { thread with pc := .receive }
  | cancel (at_point : thread.atCancellationPoint = true) :
      Steps thread .cancel ({ thread with mtpBuf := none }.cleanUpMsgQueue .cancelled)
  | receive (head : Queued) (rest : List Queued) (at_receive : thread.pc = .receive)
      (queue : thread.traffic.queue = head :: rest) :
      Steps thread .receive (thread.takeMessage head rest).dispatch
  | receiveFailed (at_receive : thread.pc = .receive) :
      Steps thread .receiveFailed thread.dispatch
  | poll (result : PollResult) (at_poll : thread.pc = .poll) :
      Steps thread (.poll result) (thread.afterPoll result)
  | write (result : WriteResult) (at_write : thread.pc = .write)
      (within : result.within thread.remaining = true) :
      Steps thread (.write result)
        (thread.logWrite .bulkIn thread.mtpBuf thread.written thread.remaining result).afterWrite
  | writeEvent (result : WriteResult) (at_write : thread.pc = .writeEvent)
      (within : result.within thread.len = true) :
      Steps thread (.write result)
        (thread.logWrite .status thread.mtpBuf 0 thread.len result).freeBuffer.checkStatus
  | writeZlp (result : WriteResult) (at_write : thread.pc = .writeZlp)
      (within : result.within 0 = true) :
      Steps thread (.write result) (thread.logWrite .bulkIn none 0 0 result).checkStatus
  | drain (resume : Resume) (head : Queued) (rest : List Queued)
      (at_cleanUp : thread.pc = .cleanUp resume) (queue : thread.traffic.queue = head :: rest) :
      Steps thread .drain (thread.drainMessage head rest)
  | drained (resume : Resume) (at_cleanUp : thread.pc = .cleanUp resume) :
      Steps thread .drained (thread.afterCleanUp resume)

theorem step_eq_some {thread after : WriteThread} {event : WriteEvent}
    (stepped : thread.step event = some after) : Steps thread event after := by
  cases event with
  | enqueue message =>
      obtain rfl := Option.some.inj stepped
      exact .enqueue message
  | start fd =>
      obtain ⟨at_start, same⟩ := Option.ite_none_right_eq_some.mp stepped
      obtain rfl := Option.some.inj same
      exact .start fd at_start
  | testcancel =>
      obtain ⟨at_test, same⟩ := Option.ite_none_right_eq_some.mp stepped
      obtain rfl := Option.some.inj same
      exact .testcancel at_test
  | cancel =>
      obtain ⟨at_point, same⟩ := Option.ite_none_right_eq_some.mp stepped
      obtain rfl := Option.some.inj same
      exact .cancel at_point
  | receive =>
      obtain ⟨at_receive, taken⟩ := Option.ite_none_right_eq_some.mp stepped
      cases queue : thread.traffic.queue with
      | nil => simp [queue] at taken
      | cons head rest =>
          simp only [queue, Option.some.injEq] at taken
          subst taken
          exact .receive head rest at_receive queue
  | receiveFailed =>
      obtain ⟨at_receive, same⟩ := Option.ite_none_right_eq_some.mp stepped
      obtain rfl := Option.some.inj same
      exact .receiveFailed at_receive
  | poll result =>
      obtain ⟨at_poll, same⟩ := Option.ite_none_right_eq_some.mp stepped
      obtain rfl := Option.some.inj same
      exact .poll result at_poll
  | write result =>
      cases at_write : thread.pc <;>
        simp only [step, at_write, Option.ite_none_right_eq_some, Option.some.injEq,
          reduceCtorEq] at stepped
      case write => exact stepped.2 ▸ .write result at_write stepped.1
      case writeEvent => exact stepped.2 ▸ .writeEvent result at_write stepped.1
      case writeZlp => exact stepped.2 ▸ .writeZlp result at_write stepped.1
  | drain =>
      cases at_cleanUp : thread.pc <;> cases queue : thread.traffic.queue <;>
        simp only [step, at_cleanUp, queue, Option.some.injEq, reduceCtorEq] at stepped
      case cleanUp.cons resume head rest => exact stepped ▸ .drain resume head rest at_cleanUp queue
  | drained =>
      cases at_cleanUp : thread.pc <;>
        simp only [step, at_cleanUp, Option.some.injEq, reduceCtorEq] at stepped
      case cleanUp resume => exact stepped ▸ .drained resume at_cleanUp

/-!
## What control flow leaves alone
-/

@[simp] theorem traffic_checkStatus (thread : WriteThread) :
    thread.checkStatus.traffic = thread.traffic := by
  unfold checkStatus
  split <;> rfl

@[simp] theorem traffic_packetLoop (thread : WriteThread) :
    thread.packetLoop.traffic = thread.traffic := by
  unfold packetLoop
  split
  · rfl
  · rw [traffic_checkStatus]
    rfl

@[simp] theorem traffic_dispatch (thread : WriteThread) :
    thread.dispatch.traffic = thread.traffic := by
  unfold dispatch
  split <;> simp

@[simp] theorem traffic_afterPoll (thread : WriteThread) (result : PollResult) :
    (thread.afterPoll result).traffic = thread.traffic := by
  unfold afterPoll
  split
  · simp
  · split <;> simp

@[simp] theorem traffic_afterWrite (thread : WriteThread) :
    thread.afterWrite.traffic = thread.traffic := by
  unfold afterWrite
  split
  · split
    · rfl
    · simp
  · simp

@[simp] theorem traffic_afterCleanUp (thread : WriteThread) (resume : Resume) :
    (thread.afterCleanUp resume).traffic = thread.traffic := by
  cases resume <;> simp [afterCleanUp, freeBuffer]

private theorem accepted_congr {thread other : WriteThread} (same : thread.traffic = other.traffic) :
    thread.accepted = other.accepted := by
  simp only [accepted, same]

private theorem packets_congr {thread other : WriteThread} (same : thread.traffic = other.traffic) :
    thread.packets = other.packets := by
  simp only [packets, same]

private theorem accepted_logWrite (thread : WriteThread) (endpoint : Endpoint) (buffer : Option Buffer)
    (offset requested : Nat) (result : WriteResult) :
    (thread.logWrite endpoint buffer offset requested result).accepted =
      thread.accepted ++ match endpoint, result with
        | .bulkIn, .accepted count => bytesAt buffer offset count
        | _, _ => [] := by
  cases endpoint <;> cases result <;>
    simp [accepted, logWrite, List.filter_append, EndpointWrite.bytes]

@[simp] theorem packets_logWrite (thread : WriteThread) (endpoint : Endpoint)
    (buffer : Option Buffer) (offset requested : Nat) (result : WriteResult) :
    (thread.logWrite endpoint buffer offset requested result).packets = thread.packets := rfl

@[simp] theorem status_logWrite (thread : WriteThread) (endpoint : Endpoint)
    (buffer : Option Buffer) (offset requested : Nat) (result : WriteResult) :
    (thread.logWrite endpoint buffer offset requested result).status = result.status := rfl

private theorem packets_takeMessage (thread : WriteThread) (head : Queued) (rest : List Queued) :
    (thread.takeMessage head rest).packets =
      if head.message.mtype = .bulk ∨ head.message.mtype = .data then
        thread.packets ++ [head.message.payload]
      else thread.packets := by
  by_cases kind : head.message.mtype = .bulk ∨ head.message.mtype = .data <;>
    simp [packets, takeMessage, List.filter_append, kind]

/-!
## The stream of bulk-in

The thread transfers the payloads of its bulk and data messages.
-/

/-- `message` is being written, and `pending` is what is left of it. -/
structure InPacket (thread : WriteThread) (message : MsgqPtr) (pending : List UInt8) : Prop where
  last : thread.traffic.dequeued.getLast? = some message
  buffer : thread.mtpBuf = message.buffer
  len : thread.len = message.length
  small : thread.len < 2 ^ 31
  within : thread.written ≤ thread.len
  pending : pending = bytesAt thread.mtpBuf thread.written (thread.len - thread.written)

def Position (thread : WriteThread) (pending : List UInt8) : Prop :=
  match thread.pc with
  | .poll | .write => thread.written ≠ thread.len ∧ ∃ message, thread.InPacket message pending
  | .cleanUp .packetLoop => False
  | .cleanUp _ | .finished => True
  | _ => pending = [] ∧ thread.written = 0

theorem Position.queue {thread : WriteThread} {pending : List UInt8}
    (position : thread.Position pending) (queue : List Queued) (enqueued : Nat) (taken : List Nat)
    (freed : List Nat) :
    { thread with
      freed, traffic := { thread.traffic with queue, enqueued, taken } }.Position pending := by
  obtain ⟨pc⟩ := thread
  cases pc with
  | poll | write =>
      obtain ⟨unfinished, message, inPacket⟩ := position
      exact ⟨unfinished, message, { inPacket with }⟩
  | cleanUp resume => cases resume <;> exact position
  | _ => exact position

structure Realizes (thread : WriteThread) (transfer : Transfer UInt8) : Prop where
  packets : transfer.packets = thread.packets
  delivered : transfer.delivered = thread.accepted
  position : thread.Position transfer.pending
  small : ∀ queued ∈ thread.traffic.queue, queued.message.length < 2 ^ 31

private theorem position_checkStatus {thread : WriteThread} {pending : List UInt8} (done : pending = [])
    (reset : thread.written = 0) : thread.checkStatus.Position pending := by
  unfold checkStatus
  split
  · trivial
  · exact ⟨done, reset⟩

private theorem position_packetLoop {thread : WriteThread} {message : MsgqPtr} {pending : List UInt8}
    (inPacket : thread.InPacket message pending) : thread.packetLoop.Position pending := by
  unfold packetLoop
  split
  case isTrue unfinished => exact ⟨unfinished, message, { inPacket with }⟩
  case isFalse finished =>
    have whole : thread.written = thread.len := not_not.mp finished
    have done : pending = [] := by
      rw [inPacket.pending, whole, Nat.sub_self, bytesAt_zero]
    exact position_checkStatus done rfl

private theorem remaining_eq {thread : WriteThread} {message : MsgqPtr} {pending : List UInt8}
    (inPacket : thread.InPacket message pending) :
    thread.remaining = thread.len - thread.written := by
  have := inPacket.small
  unfold remaining
  rw [← Int.ofNat_sub inPacket.within]
  exact toUint32_of_lt (by omega)

theorem InPacket.advance {thread after : WriteThread} {message : MsgqPtr} {pending : List UInt8}
    (inPacket : thread.InPacket message pending) {count : Nat}
    (within : count ≤ thread.len - thread.written)
    (dequeued : after.traffic.dequeued = thread.traffic.dequeued)
    (buffer : after.mtpBuf = thread.mtpBuf) (len : after.len = thread.len)
    (written : after.written = thread.written + count) :
    after.InPacket message (pending.drop count) where
  last := dequeued ▸ inPacket.last
  buffer := buffer ▸ inPacket.buffer
  len := len ▸ inPacket.len
  small := len ▸ inPacket.small
  within := by
    have := inPacket.within
    omega
  pending := by rw [inPacket.pending, drop_bytesAt, buffer, len, written, Nat.sub_sub]

private theorem afterWrite_accepted {thread : WriteThread} {message : MsgqPtr} {pending : List UInt8}
    (inPacket : thread.InPacket message pending) (endpoint : Endpoint) (buffer : Option Buffer)
    (offset requested : Nat) {count : Nat} (within : count ≤ thread.len - thread.written) :
    (thread.logWrite endpoint buffer offset requested (.accepted count)).afterWrite =
      { thread.logWrite endpoint buffer offset requested (.accepted count) with
        written := thread.written + count }.packetLoop := by
  have := inPacket.within
  have := inPacket.small
  have status : (WriteResult.accepted count).status = count := toInt32_of_lt (by omega)
  have position : toUint32 (thread.written + (WriteResult.accepted count).status) =
      thread.written + count := by
    rw [status, ← Int.natCast_add]
    exact toUint32_of_lt (by omega)
  unfold afterWrite
  rw [if_neg (by rw [status_logWrite, status]; omega), ← position]
  rfl

private theorem receive_follows {thread : WriteThread} {transfer : Transfer UInt8} {head : Queued}
    {rest : List Queued} (realizes : thread.Realizes transfer) (at_receive : thread.pc = .receive)
    (queue : thread.traffic.queue = head :: rest) :
    ∃ target, transfer.Move target ∧ (thread.takeMessage head rest).dispatch.Realizes target := by
  obtain ⟨packets, delivered, position, small⟩ := realizes
  simp only [queue, List.mem_cons, forall_eq_or_imp] at small
  simp only [Position, at_receive] at position
  obtain ⟨ready, reset⟩ := position
  have packets_after := packets_takeMessage thread head rest
  by_cases kind : head.message.mtype = .bulk ∨ head.message.mtype = .data
  · refine ⟨transfer.accept head.message.payload ready, .accept .., ?_, ?_, ?_, ?_⟩
    · rw [packets_congr (traffic_dispatch _), packets_after, if_pos kind, ← packets]
      rfl
    · rw [accepted_congr (traffic_dispatch _)]
      exact delivered
    · have dispatched : (thread.takeMessage head rest).dispatch =
          (thread.takeMessage head rest).packetLoop := by
        rcases kind with kind | kind <;> simp [dispatch, takeMessage, kind]
      rw [dispatched]
      refine position_packetLoop (?_ : InPacket _ head.message _)
      exact ⟨by simp [takeMessage], rfl, rfl, small.1, by simp [takeMessage, reset],
        by simp [takeMessage, reset, Transfer.accept, MsgqPtr.payload]⟩
    · rw [traffic_dispatch]
      exact small.2
  · refine ⟨transfer, .stay _, ?_, ?_, ?_, ?_⟩
    · rw [packets_congr (traffic_dispatch _), packets_after, if_neg kind, packets]
    · rw [accepted_congr (traffic_dispatch _)]
      exact delivered
    · unfold dispatch
      split
      case h_1 => simp_all [takeMessage]
      case h_2 => simp_all [takeMessage]
      case h_3 => exact ⟨ready, reset⟩
      case h_4 => exact ⟨ready, reset⟩
      all_goals exact position_checkStatus ready reset
    · rw [traffic_dispatch]
      exact small.2

private theorem write_follows {thread : WriteThread} {transfer : Transfer UInt8} {result : WriteResult}
    (realizes : thread.Realizes transfer) (at_write : thread.pc = .write)
    (within : result.within thread.remaining = true)
    (undisturbed : WriteEvent.Undisturbed (.write result)) :
    ∃ target, transfer.Move target ∧
      (thread.logWrite .bulkIn thread.mtpBuf thread.written thread.remaining
        result).afterWrite.Realizes target := by
  obtain ⟨packets, delivered, position, small⟩ := realizes
  simp only [Position, at_write] at position
  obtain ⟨-, message, inPacket⟩ := position
  have logged := accepted_logWrite thread .bulkIn thread.mtpBuf thread.written thread.remaining
  cases result with
  | failed errno =>
      refine ⟨transfer, .stay _, ?_, ?_, ?_, ?_⟩
      · rw [packets_congr (traffic_afterWrite _), packets]
        rfl
      · rw [accepted_congr (traffic_afterWrite _), logged, List.append_nil, delivered]
      · have retried : (thread.logWrite .bulkIn thread.mtpBuf thread.written thread.remaining
            (.failed errno)).afterWrite = (thread.logWrite .bulkIn thread.mtpBuf thread.written
            thread.remaining (.failed errno)).packetLoop := by
          unfold afterWrite
          rw [if_pos (by exact Int.negSucc_lt_zero 0), if_neg (by exact not_or.mpr undisturbed)]
        rw [retried]
        exact position_packetLoop (show InPacket _ message _ from { inPacket with })
      · rw [traffic_afterWrite]
        exact small
  | accepted count =>
      have within_packet : count ≤ thread.len - thread.written := by
        rw [← remaining_eq inPacket]
        simpa [WriteResult.within] using within
      have advanced := afterWrite_accepted inPacket .bulkIn thread.mtpBuf thread.written
        thread.remaining within_packet
      refine ⟨transfer.pass count, .pass .., ?_, ?_, ?_, ?_⟩
      · rw [packets_congr (traffic_afterWrite _), packets_logWrite, ← packets]
        rfl
      · rw [accepted_congr (traffic_afterWrite _), logged, ← delivered]
        simp only [Transfer.pass, inPacket.pending, take_bytesAt _ _ within_packet]
      · rw [advanced]
        exact position_packetLoop (inPacket.advance within_packet rfl rfl rfl rfl)
      · rw [traffic_afterWrite]
        exact small

private theorem step_follows {thread after : WriteThread} {event : WriteEvent} {transfer : Transfer UInt8}
    (realizes : thread.Realizes transfer) (stepped : thread.step event = some after)
    (undisturbed : event.Undisturbed) :
    ∃ target, transfer.Move target ∧ after.Realizes target := by
  obtain ⟨packets, delivered, position, small⟩ := realizes
  cases step_eq_some stepped with
  | enqueue message =>
      refine ⟨transfer, .stay _, packets, delivered, position.queue .., fun queued member => ?_⟩
      rcases List.mem_append.mp member with member | member
      · exact small queued member
      · obtain rfl := List.mem_singleton.mp member
        exact undisturbed
  | start fd at_start =>
      simp only [Position, at_start] at position
      exact ⟨transfer, .stay _, packets, delivered, position, small⟩
  | testcancel at_test =>
      simp only [Position, at_test] at position
      exact ⟨transfer, .stay _, packets, delivered, position, small⟩
  | cancel at_point => exact ⟨transfer, .stay _, packets, delivered, trivial, small⟩
  | receive head rest at_receive queue =>
      exact receive_follows ⟨packets, delivered, position, small⟩ at_receive queue
  | receiveFailed at_receive => exact undisturbed.elim
  | poll result at_poll =>
      simp only [Position, at_poll] at position
      obtain ⟨unfinished, message, inPacket⟩ := position
      refine ⟨transfer, .stay _, ?_, ?_, ?_, ?_⟩
      · rw [packets_congr (traffic_afterPoll ..), packets]
      · rw [accepted_congr (traffic_afterPoll ..), delivered]
      · unfold afterPoll
        split
        · exact position_packetLoop (show InPacket _ message _ from { inPacket with })
        · split
          · exact ⟨unfinished, message, { inPacket with }⟩
          · exact position_packetLoop (show InPacket _ message _ from { inPacket with })
      · rwa [traffic_afterPoll]
  | write result at_write within =>
      exact write_follows ⟨packets, delivered, position, small⟩ at_write within undisturbed
  | writeEvent result at_write within =>
      simp only [Position, at_write] at position
      refine ⟨transfer, .stay _, ?_, ?_, position_checkStatus position.1 position.2, ?_⟩
      · rw [packets_congr (traffic_checkStatus _)]
        exact packets
      · rw [accepted_congr (traffic_checkStatus _), delivered]
        exact (List.append_nil _).symm.trans
          (accepted_logWrite thread .status thread.mtpBuf 0 thread.len result).symm
      · rw [traffic_checkStatus]
        exact small
  | writeZlp result at_write within =>
      simp only [Position, at_write] at position
      refine ⟨transfer, .stay _, ?_, ?_, position_checkStatus position.1 position.2, ?_⟩
      · rw [packets_congr (traffic_checkStatus _)]
        exact packets
      · rw [accepted_congr (traffic_checkStatus _), delivered, accepted_logWrite]
        cases result <;> simp_all [WriteResult.within]
      · rw [traffic_checkStatus]
        exact small
  | drain resume head rest at_cleanUp queue =>
      rw [queue] at small
      exact ⟨transfer, .stay _, packets, delivered, position.queue ..,
        fun queued member => small queued (List.mem_cons_of_mem head member)⟩
  | drained resume at_cleanUp =>
      refine ⟨transfer, .stay _, ?_, ?_, ?_, ?_⟩
      · rw [packets_congr (traffic_afterCleanUp ..), packets]
      · rw [accepted_congr (traffic_afterCleanUp ..), delivered]
      · cases resume with
        | packetLoop => simp only [Position, at_cleanUp] at position
        | exit => trivial
        | cancelled => trivial
      · rwa [traffic_afterCleanUp]

private theorem realizes_idle : initial.Realizes .idle where
  packets := rfl
  delivered := rfl
  position := ⟨rfl, rfl⟩
  small := by simp [initial]

/-- In every run without cancelled writes the bytes on bulk-in are a prefix of the
payloads received, a write asks for what is left of the packet in hand, and between
packets nothing is left. -/
theorem bulk_in_stream {final : WriteThread} {events : List WriteEvent}
    (undisturbed : ∀ event ∈ events, event.Undisturbed)
    (reached : run step initial events = some final) :
    final.accepted <+: final.packets.flatten ∧
      (final.pc = .write → ∃ message, final.traffic.dequeued.getLast? = some message ∧
        final.mtpBuf = message.buffer ∧ final.len = message.length ∧
        final.written ≤ final.len ∧ final.remaining = final.len - final.written) ∧
      (final.pc = .receive → final.accepted = final.packets.flatten) := by
  have conditions : Along step (fun _ event _ => event.Undisturbed) initial events :=
    along_of_forall_mem undisturbed
  obtain ⟨transfer, -, realizes⟩ := run_simulates
    (fun _ _ _ _ related stepped met => step_follows related stepped met) realizes_idle
    conditions reached
  rw [← realizes.packets, ← realizes.delivered]
  refine ⟨transfer.delivered_prefix, fun at_write => ?_, fun at_receive => ?_⟩
  · have position := realizes.position
    simp only [Position, at_write] at position
    obtain ⟨-, message, inPacket⟩ := position
    exact ⟨message, inPacket.last, inPacket.buffer, inPacket.len, inPacket.within,
      remaining_eq inPacket⟩
  · have position := realizes.position
    simp only [Position, at_receive] at position
    exact transfer.delivered_eq position.1

/-- Three bytes go out in two writes, with an interrupted poll and a failed write between. -/
def shortWrites : List WriteEvent :=
  [.enqueue ⟨.bulk, 3, some ⟨1, [10, 20, 30]⟩⟩, .start 5, .testcancel, .receive,
   .poll (.returned 1 true), .write (.accepted 1), .poll (.failed .eintr),
   .poll (.returned 1 true), .write (.failed .eagain), .poll (.returned 1 true),
   .write (.accepted 2), .testcancel]

theorem bulk_in_stream_short_writes :
    ∃ final, run step initial shortWrites = some final ∧ final.accepted = [10, 20, 30] ∧
      final.pc = .receive ∧ final.accepted <+: final.packets.flatten ∧
      final.accepted = final.packets.flatten := by
  have undisturbed : ∀ event ∈ shortWrites, event.Undisturbed := by
    simp [shortWrites, WriteEvent.Undisturbed]
  have stream := bulk_in_stream undisturbed rfl
  exact ⟨_, rfl, rfl, rfl, stream.1, stream.2.2 rfl⟩

end WriteThread

end VelaExternal.MtpResponder
