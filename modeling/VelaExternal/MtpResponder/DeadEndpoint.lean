import VelaExternal.MtpResponder.CancelledTransfer

/-! What the write thread does when an endpoint is dead. A failed write of an event or of a
zero-length packet ends its loop; a failed write of packet bytes is made again. -/

set_option autoImplicit false

namespace VelaExternal.MtpResponder

open Systems

/-- The errors that neither pass nor cancel the transfer. -/
def Errno.fatal : Errno → Bool
  | .eintr | .eagain | .enomem | .ecanceled => false
  | _ => true

def WriteEvent.errno? : WriteEvent → Option Errno
  | .write (.failed errno) => some errno
  | _ => none

namespace WriteThread

def packetWriteFails (thread : WriteThread) (event : WriteEvent) : Bool :=
  thread.pc = .write ∧ event.errno?.any Errno.fatal

def shortWriteFails (thread : WriteThread) (event : WriteEvent) : Bool :=
  (thread.pc = .writeEvent ∨ thread.pc = .writeZlp) ∧ event.errno?.isSome

def bulkInWrites (thread : WriteThread) : List EndpointWrite :=
  thread.traffic.writes.filter (·.endpoint = .bulkIn)

/-- The thread is out of its loop for a negative status, and nothing has been written to
bulk-in since `earlier`. -/
structure Stopped (earlier later : WriteThread) : Prop where
  status : later.status < 0
  out : later.pc = .cleanUp .exit ∨ later.pc = .finished
  silent : later.bulkInWrites = earlier.bulkInWrites

/-- Each failed write stops the thread, one of packet bytes like any other. -/
def StopsOnFailure (events : List WriteEvent) : Prop :=
  Thereafter step
    (fun before event => before.packetWriteFails event ∨ before.shortWriteFails event)
    Stopped initial events

/-- Out of its loop the thread only sees its queue filled and emptied. -/
inductive Ending (thread : WriteThread) : WriteThread → Prop where
  | enqueue (message : MsgqPtr) : Ending thread (thread.putMessage message)
  | drain (head : Queued) (rest : List Queued) : Ending thread (thread.drainMessage head rest)
  | drained (resume : Resume) (at_cleanUp : thread.pc = .cleanUp resume) :
      Ending thread (thread.afterCleanUp resume)

private theorem ending_of_leaving {before after : WriteThread} {event : WriteEvent}
    (leaving : before.pc.leaving = true) (stepped : before.step event = some after) :
    Ending before after := by
  cases step_eq_some stepped with
  | enqueue message => exact .enqueue message
  | drain resume head rest at_cleanUp queue => exact .drain head rest
  | drained resume at_cleanUp => exact .drained resume at_cleanUp
  | cancel at_point =>
      cases pc : before.pc <;> simp [atCancellationPoint, pc] at at_point <;>
        simp [pc, WritePc.leaving] at leaving
  | start fd at_start => simp [at_start, WritePc.leaving] at leaving
  | testcancel at_test => simp [at_test, WritePc.leaving] at leaving
  | receive head rest at_receive queue => simp [at_receive, WritePc.leaving] at leaving
  | receiveFailed at_receive => simp [at_receive, WritePc.leaving] at leaving
  | poll result at_poll => simp [at_poll, WritePc.leaving] at leaving
  | write result at_write within => simp [at_write, WritePc.leaving] at leaving
  | writeEvent result at_write within => simp [at_write, WritePc.leaving] at leaving
  | writeZlp result at_write within => simp [at_write, WritePc.leaving] at leaving

private theorem stopped_step {earlier before after : WriteThread} {event : WriteEvent}
    (stopped : Stopped earlier before) (stepped : before.step event = some after) :
    Stopped earlier after := by
  obtain ⟨status, out, silent⟩ := stopped
  have leaving : before.pc.leaving = true := by
    rcases out with out | out <;> rw [out] <;> rfl
  cases ending_of_leaving leaving stepped with
  | enqueue message => exact ⟨status, out, silent⟩
  | drain head rest => exact ⟨status, out, silent⟩
  | drained resume at_cleanUp =>
      cases resume with
      | exit => exact ⟨status, .inr rfl, silent⟩
      | packetLoop => simp [at_cleanUp] at out
      | cancelled => simp [at_cleanUp] at out

private theorem stopped_checkStatus {thread : WriteThread} (failed : thread.status < 0) :
    Stopped thread.checkStatus thread.checkStatus := by
  unfold checkStatus
  rw [if_pos failed]
  exact ⟨failed, .inl rfl, rfl⟩

private theorem inPacketLoop_of_packetWriteFails {thread after : WriteThread} {event : WriteEvent}
    (placed : thread.Placed) (fails : thread.packetWriteFails event = true)
    (stepped : thread.step event = some after) : after.pc.inPacketLoop = true := by
  obtain ⟨at_write, fatal⟩ := of_decide_eq_true fails
  cases step_eq_some stepped with
  | write result at_packet within =>
      cases result with
      | failed errno => exact inPacketLoop_afterWrite placed at_write rfl
      | accepted count => cases fatal
  | writeEvent result at_event within => cases at_write.symm.trans at_event
  | writeZlp result at_zlp within => cases at_write.symm.trans at_zlp
  | _ => cases fatal

private theorem stopped_of_shortWriteFails {thread after : WriteThread} {event : WriteEvent}
    (fails : thread.shortWriteFails event = true) (stepped : thread.step event = some after) :
    Stopped after after := by
  obtain ⟨at_write, failed⟩ := of_decide_eq_true fails
  cases step_eq_some stepped with
  | write result at_packet within => simp [at_packet] at at_write
  | writeEvent result at_event within =>
      cases result with
      | failed errno => exact stopped_checkStatus (Int.negSucc_lt_zero 0)
      | accepted count => cases failed
  | writeZlp result at_zlp within =>
      cases result with
      | failed errno => exact stopped_checkStatus (Int.negSucc_lt_zero 0)
      | accepted count => cases failed
  | _ => cases failed

private theorem not_stopped_of_inPacketLoop {earlier later : WriteThread}
    (in_loop : later.pc.inPacketLoop = true) : ¬ Stopped earlier later := by
  intro stopped
  rcases stopped.out with out | out <;> simp [out, WritePc.inPacketLoop] at in_loop

/-!
## The thread writes again
-/

private theorem bulkInWrites_step {before after : WriteThread} {event : WriteEvent}
    (stepped : before.step event = some after) : before.bulkInWrites <+: after.bulkInWrites := by
  apply List.IsPrefix.filter
  cases step_eq_some stepped with
  | receive head rest at_receive queue => simp [takeMessage]
  | receiveFailed at_receive => simp
  | poll result at_poll => simp
  | write result at_write within =>
      rw [traffic_afterWrite]
      exact List.prefix_append _ _
  | writeEvent result at_write within =>
      rw [traffic_checkStatus]
      exact List.prefix_append _ _
  | writeZlp result at_write within =>
      rw [traffic_checkStatus]
      exact List.prefix_append _ _
  | drained resume at_cleanUp => simp
  | _ => exact List.prefix_refl _

/-- The thread is still in the packet loop, it has been cancelled, or it has written to
bulk-in again. -/
structure Retrying (earlier later : WriteThread) : Prop where
  placed : later.Placed
  growing : earlier.bulkInWrites.length ≤ later.bulkInWrites.length
  going : later.pc.inPacketLoop = true ∨
    (later.pc = .cleanUp .cancelled ∨ later.pc = .finished) ∨
    earlier.bulkInWrites.length < later.bulkInWrites.length

private theorem going_of_inPacketLoop {before after : WriteThread} {event : WriteEvent}
    (placed : before.Placed) (in_loop : before.pc.inPacketLoop = true)
    (stepped : before.step event = some after) :
    after.pc.inPacketLoop = true ∨ after.pc = .cleanUp .cancelled ∨
      before.bulkInWrites.length < after.bulkInWrites.length := by
  obtain ⟨unfinished, -⟩ := placed.unfinished in_loop
  cases step_eq_some stepped with
  | enqueue message => exact .inl in_loop
  | drain resume head rest at_cleanUp queue => exact .inl in_loop
  | cancel at_point => exact .inr (.inl rfl)
  | poll result at_poll => exact .inl (inPacketLoop_afterPoll unfinished result)
  | write result at_write within =>
      right
      right
      rw [bulkInWrites, bulkInWrites, traffic_afterWrite]
      simp [logWrite, List.filter_append]
  | drained resume at_cleanUp =>
      cases resume with
      | packetLoop => exact .inl (inPacketLoop_packetLoop unfinished)
      | exit => simp [at_cleanUp, WritePc.inPacketLoop] at in_loop
      | cancelled => simp [at_cleanUp, WritePc.inPacketLoop] at in_loop
  | start fd at_start => simp [at_start, WritePc.inPacketLoop] at in_loop
  | testcancel at_test => simp [at_test, WritePc.inPacketLoop] at in_loop
  | receive head rest at_receive queue => simp [at_receive, WritePc.inPacketLoop] at in_loop
  | receiveFailed at_receive => simp [at_receive, WritePc.inPacketLoop] at in_loop
  | writeEvent result at_write within => simp [at_write, WritePc.inPacketLoop] at in_loop
  | writeZlp result at_write within => simp [at_write, WritePc.inPacketLoop] at in_loop

private theorem cancelled_step {before after : WriteThread} {event : WriteEvent}
    (cancelled : before.pc = .cleanUp .cancelled ∨ before.pc = .finished)
    (stepped : before.step event = some after) :
    after.pc = .cleanUp .cancelled ∨ after.pc = .finished := by
  have leaving : before.pc.leaving = true := by
    rcases cancelled with pc | pc <;> rw [pc] <;> rfl
  cases ending_of_leaving leaving stepped with
  | enqueue message => exact cancelled
  | drain head rest => exact cancelled
  | drained resume at_cleanUp =>
      cases resume with
      | cancelled => exact .inr rfl
      | packetLoop => simp [at_cleanUp] at cancelled
      | exit => simp [at_cleanUp] at cancelled

private theorem retrying_step {earlier before after : WriteThread} {event : WriteEvent}
    (retrying : Retrying earlier before) (stepped : before.step event = some after) :
    Retrying earlier after := by
  obtain ⟨placed, growing, going⟩ := retrying
  have longer := (bulkInWrites_step stepped).length_le
  refine ⟨placed_step placed stepped, Nat.le_trans growing longer, ?_⟩
  rcases going with in_loop | cancelled | written
  · rcases going_of_inPacketLoop placed in_loop stepped with in_loop | cancelled | written
    · exact .inl in_loop
    · exact .inr (.inl (.inl cancelled))
    · exact .inr (.inr (Nat.lt_of_le_of_lt growing written))
  · exact .inr (.inl (cancelled_step cancelled stepped))
  · exact .inr (.inr (Nat.lt_of_lt_of_le written longer))

theorem Retrying.again {earlier later : WriteThread} (retrying : Retrying earlier later)
    (out : later.pc = .cleanUp .exit) :
    earlier.bulkInWrites.length < later.bulkInWrites.length := by
  rcases retrying.going with in_loop | cancelled | written
  · simp [out, WritePc.inPacketLoop] at in_loop
  · simp [out] at cancelled
  · exact written

/-- After a failed write of packet bytes the loop is not left before bulk-in is written to again. -/
def RetriesOnFailure (events : List WriteEvent) : Prop :=
  Thereafter step (fun before event => before.packetWriteFails event)
    (fun earlier later => later.pc = .cleanUp .exit →
      earlier.bulkInWrites.length < later.bulkInWrites.length)
    initial events

private theorem retries_on_failure (events : List WriteEvent) : RetriesOnFailure events := by
  apply Thereafter.mono (fun _ _ retrying => Retrying.again retrying)
  apply (thereafter_iff_along fun _ _ _ _ => retrying_step).mpr
  have unconditional : Along step (fun _ _ _ => True) initial events :=
    along_of_forall_mem fun _ _ => trivial
  refine along_of_invariant (fun before event after placed stepped _ => ?_) placed_initial
    unconditional
  have placed_after := placed_step placed stepped
  refine ⟨placed_after, fun fails => ⟨placed_after, Nat.le_refl _, .inl ?_⟩⟩
  exact inPacketLoop_of_packetWriteFails placed fails stepped

private theorem stops_iff {before after : WriteThread} {event : WriteEvent} (placed : before.Placed)
    (stepped : before.step event = some after) :
    (before.packetWriteFails event ∨ before.shortWriteFails event → Stopped after after) ↔
      ¬ before.packetWriteFails event := by
  constructor
  · intro stops fails
    exact not_stopped_of_inPacketLoop (inPacketLoop_of_packetWriteFails placed fails stepped)
      (stops (.inl fails))
  · rintro kept (fails | fails)
    · exact absurd fails kept
    · exact stopped_of_shortWriteFails fails stepped

private theorem stopsOnFailure_iff_along (events : List WriteEvent) :
    StopsOnFailure events ↔
      Along step (fun before event _ => ¬ before.packetWriteFails event) initial events := by
  unfold StopsOnFailure
  rw [thereafter_iff_along fun _ _ _ _ => stopped_step]
  exact along_iff_along (fun _ _ _ => stops_iff)
    (fun _ _ _ placed stepped _ => placed_step placed stepped) placed_initial

/-- The thread stops on failed writes in exactly those runs in which no write of packet bytes
fails for good; after such a failure it does not leave its loop without a further write. -/
theorem dead_endpoint_stops_iff (events : List WriteEvent) :
    (StopsOnFailure events ↔
      Along step (fun before event _ => ¬ before.packetWriteFails event) initial events) ∧
    RetriesOnFailure events :=
  ⟨stopsOnFailure_iff_along events, retries_on_failure events⟩

/-- The host is gone after the first byte of two, and the second one is written all the same. -/
def unplugged : List WriteEvent :=
  [.enqueue ⟨.bulk, 2, some ⟨1, [10, 20]⟩⟩, .start 5, .testcancel, .receive,
   .poll (.returned 1 true), .write (.accepted 1), .poll (.returned 1 true),
   .write (.failed .eshutdown), .poll (.returned 1 true), .write (.failed .eshutdown)]

theorem unplugged_write_repeated :
    ∃ final, run step initial unplugged = some final ∧
      final.bulkInWrites.map EndpointWrite.result =
        [.accepted 1, .failed .eshutdown, .failed .eshutdown] ∧
      final.pc = .poll ∧ ¬ StopsOnFailure unplugged := by
  refine ⟨_, rfl, rfl, rfl, ?_⟩
  rw [stopsOnFailure_iff_along]
  decide

end WriteThread

end VelaExternal.MtpResponder
