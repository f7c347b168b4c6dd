import VelaExternal.MtpResponder.WriteThreadProperties
import VelaExternal.Systems.History

/-! What the write thread sends after a cancelled write. The handler empties the
queue, but the packet in hand, its length and position are locals of the thread:
the packet loop goes on with them. -/

set_option autoImplicit false

namespace VelaExternal.MtpResponder

open Systems

def WriteResult.cancels : WriteResult → Bool
  | .failed errno => errno = .enomem ∨ errno = .ecanceled
  | .accepted _ => false

def WriteResult.count : WriteResult → Nat
  | .failed _ => 0
  | .accepted count => count

def WriteEvent.cancels : WriteEvent → Bool
  | .write result => result.cancels
  | _ => false

def WriteEvent.passes : WriteEvent → Bool
  | .write result => 0 < result.count
  | _ => false

def EndpointWrite.cancels (write : EndpointWrite) : Bool :=
  write.endpoint = .bulkIn ∧ write.result.cancels

def EndpointWrite.passes (write : EndpointWrite) : Bool :=
  write.endpoint = .bulkIn ∧ 0 < write.result.count

/-- After a cancelled write, bulk-in takes bytes only of messages enqueued later. -/
def NoStaleBytes (writes : List EndpointWrite) : Prop :=
  NoneAfter (fun cancelled => cancelled.cancels = true)
    (fun cancelled later => later.passes = true ∧ later.packet < cancelled.enqueued) writes

/-- No write is accepted, even in part, after one that was cancelled. -/
def NothingPasses (events : List WriteEvent) : Prop :=
  NoneAfter (fun cancelled => cancelled.cancels = true) (fun _ later => later.passes = true) events

def WritePc.inPacketLoop : WritePc → Bool
  | .poll | .write | .cleanUp .packetLoop => true
  | _ => false

def WritePc.leaving : WritePc → Bool
  | .cleanUp .exit | .cleanUp .cancelled | .finished => true
  | _ => false

namespace WriteThread

/-- Messages in the thread and its queue bear numbers given out before. -/
structure Numbered (thread : WriteThread) : Prop where
  written : thread.written < 2 ^ 32
  queue : ∀ queued ∈ thread.traffic.queue, queued.serial < thread.traffic.enqueued
  packet : thread.mtype ≠ .undefined → thread.traffic.packet < thread.traffic.enqueued

structure Placed (thread : WriteThread) : Prop extends Numbered thread where
  unfinished : thread.pc.inPacketLoop = true →
    thread.written ≠ thread.len ∧ thread.mtype ≠ .undefined

private theorem numbered_checkStatus {thread : WriteThread} (numbered : thread.Numbered) :
    thread.checkStatus.Placed := by
  unfold checkStatus
  split
  · exact { numbered with unfinished := nofun }
  · exact { numbered with unfinished := nofun }

private theorem numbered_packetLoop {thread : WriteThread} (numbered : thread.Numbered)
    (typed : thread.mtype ≠ .undefined) : thread.packetLoop.Placed := by
  unfold packetLoop
  split
  case isTrue unfinished => exact { numbered with unfinished := fun _ => ⟨unfinished, typed⟩ }
  case isFalse => exact numbered_checkStatus { numbered with written := Nat.two_pow_pos 32 }

private theorem numbered_dispatch {thread : WriteThread} (numbered : thread.Numbered) :
    thread.dispatch.Placed := by
  unfold dispatch
  split
  case h_1 typed => exact numbered_packetLoop numbered (by rw [typed]; nofun)
  case h_2 typed => exact numbered_packetLoop numbered (by rw [typed]; nofun)
  case h_3 => exact { numbered with unfinished := nofun }
  case h_4 => exact { numbered with unfinished := nofun }
  all_goals exact numbered_checkStatus { numbered with }

private theorem toUint32_lt (value : Int) : toUint32 value < 2 ^ 32 := (BitVec.ofInt 32 value).isLt

private theorem numbered_afterWrite {thread : WriteThread} (numbered : thread.Numbered)
    (unfinished : thread.written ≠ thread.len) (typed : thread.mtype ≠ .undefined) :
    thread.afterWrite.Placed := by
  unfold afterWrite
  split
  · split
    · exact { numbered with unfinished := fun _ => ⟨unfinished, typed⟩ }
    · exact numbered_packetLoop numbered typed
  · exact numbered_packetLoop { numbered with written := toUint32_lt _ } typed

theorem placed_step {thread after : WriteThread} {event : WriteEvent} (placed : thread.Placed)
    (stepped : thread.step event = some after) : after.Placed := by
  have numbered := placed.toNumbered
  cases step_eq_some stepped with
  | enqueue message =>
      refine ⟨⟨numbered.written, fun queued member => ?_, fun typed => ?_⟩, placed.unfinished⟩
      · rcases List.mem_append.mp member with member | member
        · exact Nat.lt_succ_of_lt (numbered.queue queued member)
        · obtain rfl := List.mem_singleton.mp member
          exact Nat.lt_succ_self _
      · exact Nat.lt_succ_of_lt (numbered.packet typed)
  | start fd at_start => exact { numbered with unfinished := nofun }
  | testcancel at_test => exact { numbered with unfinished := nofun }
  | cancel at_point => exact { numbered with unfinished := nofun }
  | receive head rest at_receive queue =>
      have serials := numbered.queue
      simp only [queue, List.mem_cons, forall_eq_or_imp] at serials
      exact numbered_dispatch ⟨numbered.written, serials.2, fun _ => serials.1⟩
  | receiveFailed at_receive => exact numbered_dispatch numbered
  | poll result at_poll =>
      obtain ⟨unfinished, typed⟩ := placed.unfinished (by rw [at_poll]; rfl)
      unfold afterPoll
      split
      · exact numbered_packetLoop { numbered with } typed
      · split
        · exact { numbered with unfinished := fun _ => ⟨unfinished, typed⟩ }
        · exact numbered_packetLoop { numbered with } typed
  | write result at_write within =>
      obtain ⟨unfinished, typed⟩ := placed.unfinished (by rw [at_write]; rfl)
      exact numbered_afterWrite { numbered with } unfinished typed
  | writeEvent result at_write within => exact numbered_checkStatus { numbered with }
  | writeZlp result at_write within => exact numbered_checkStatus { numbered with }
  | drain resume head rest at_cleanUp queue =>
      have serials := numbered.queue
      simp only [queue, List.mem_cons, forall_eq_or_imp] at serials
      exact { numbered with queue := serials.2, unfinished := placed.unfinished }
  | drained resume at_cleanUp =>
      cases resume with
      | packetLoop =>
          exact numbered_packetLoop numbered (placed.unfinished (by rw [at_cleanUp]; rfl)).2
      | exit => exact { numbered with unfinished := nofun }
      | cancelled => exact { numbered with unfinished := nofun }

theorem placed_initial : initial.Placed where
  written := Nat.two_pow_pos 32
  queue := by simp [initial]
  packet := by simp [initial]
  unfinished := by simp [initial, WritePc.inPacketLoop]

/-!
## Runs with cancelled writes

Once a write of the packet loop has been cancelled the thread stays in the loop
with that packet, until a write goes through or the thread is cancelled itself.
-/

inductive Phase (past : List WriteEvent) (thread : WriteThread) : Prop where
  | fresh (events : ∀ event ∈ past, ¬ event.cancels = true)
      (writes : ∀ write ∈ thread.traffic.writes, ¬ write.cancels = true)
  | stuck (in_loop : thread.pc.inPacketLoop = true) (clean : NoStaleBytes thread.traffic.writes)
      (nothing : NothingPasses past)
      (logged : ∃ write ∈ thread.traffic.writes, write.cancels = true ∧
        thread.traffic.packet < write.enqueued)
      (occurred : ∃ event ∈ past, event.cancels = true)
  | stale (sent : ¬ NoStaleBytes thread.traffic.writes) (passed : ¬ NothingPasses past)
  | ended (leaving : thread.pc.leaving = true)
      (same : NoStaleBytes thread.traffic.writes ↔ NothingPasses past)

theorem Phase.verdict {past : List WriteEvent} {thread : WriteThread} (phase : Phase past thread) :
    NoStaleBytes thread.traffic.writes ↔ NothingPasses past := by
  cases phase with
  | fresh events writes =>
      exact iff_of_true (noneAfter_of_unmarked writes) (noneAfter_of_unmarked events)
  | stuck in_loop clean nothing logged occurred => exact iff_of_true clean nothing
  | stale sent passed => exact iff_of_false sent passed
  | ended leaving same => exact same

theorem Phase.quiet {past : List WriteEvent} {thread after : WriteThread} {event : WriteEvent}
    (phase : Phase past thread) (cancels : event.cancels = false) (passes : event.passes = false)
    (writes : after.traffic.writes = thread.traffic.writes)
    (leaves : thread.pc.leaving = true → after.pc.leaving = true)
    (stays : thread.pc.inPacketLoop = true → after.pc.leaving = true ∨
      after.pc.inPacketLoop = true ∧ after.traffic.packet = thread.traffic.packet) :
    Phase (past ++ [event]) after := by
  have events : NothingPasses (past ++ [event]) ↔ NothingPasses past :=
    noneAfter_snoc_harmless fun _ => by simp [passes]
  cases phase with
  | fresh unmarked unlogged =>
      exact .fresh (List.forall_mem_append.mpr ⟨unmarked, by simp [cancels]⟩) (writes ▸ unlogged)
  | stuck in_loop clean nothing logged occurred =>
      rcases stays in_loop with leaving | ⟨looping, packet⟩
      · exact .ended leaving (iff_of_true (writes ▸ clean) (events.mpr nothing))
      · obtain ⟨entry, member, marks⟩ := occurred
        exact .stuck looping (writes ▸ clean) (events.mpr nothing) (by rwa [writes, packet])
          ⟨entry, List.mem_append_left _ member, marks⟩
  | stale sent passed => exact .stale (writes ▸ sent) (fun nothing => passed (events.mp nothing))
  | ended leaving same => exact .ended (leaves leaving) (by rw [writes, same, events])

/-- A write outside of the packet loop; a failed one ends the thread. -/
theorem Phase.outside {past : List WriteEvent} {thread after : WriteThread} {result : WriteResult}
    {write : EndpointWrite} (phase : Phase past thread)
    (outside : thread.pc.inPacketLoop = false ∧ thread.pc.leaving = false)
    (writes : after.traffic.writes = thread.traffic.writes ++ [write])
    (ends : result.cancels = true ∨ write.cancels = true → after.pc.leaving = true) :
    Phase (past ++ [.write result]) after := by
  cases phase with
  | fresh unmarked unlogged =>
      by_cases cancelled : result.cancels = true ∨ write.cancels = true
      · refine .ended (ends cancelled) (iff_of_true ?_ ?_)
        · rw [writes]
          exact noneAfter_snoc.mpr ⟨noneAfter_of_unmarked unlogged, fun mark member marks =>
            absurd marks (unlogged mark member)⟩
        · exact noneAfter_snoc.mpr ⟨noneAfter_of_unmarked unmarked, fun mark member marks =>
            absurd marks (unmarked mark member)⟩
      · obtain ⟨result_kept, write_kept⟩ := not_or.mp cancelled
        have kept : ∀ entry ∈ [WriteEvent.write result], ¬ entry.cancels := by
          simpa [WriteEvent.cancels] using result_kept
        refine .fresh (List.forall_mem_append.mpr ⟨unmarked, kept⟩) ?_
        rw [writes]
        exact List.forall_mem_append.mpr ⟨unlogged, by simpa using write_kept⟩
  | stuck in_loop => simp [outside.1] at in_loop
  | stale sent passed =>
      refine .stale (fun clean => sent ?_) (fun nothing => passed (noneAfter_snoc.mp nothing).1)
      rw [writes] at clean
      exact (noneAfter_snoc.mp clean).1
  | ended leaving => simp [outside.2] at leaving

theorem Phase.inside {past : List WriteEvent} {thread after : WriteThread} {result : WriteResult}
    {write : EndpointWrite} (phase : Phase past thread) (at_write : thread.pc = .write)
    (writes : after.traffic.writes = thread.traffic.writes ++ [write])
    (cancels : write.cancels = result.cancels)
    (passes : write.passes = WriteEvent.passes (.write result))
    (packet : write.packet = thread.traffic.packet)
    (numbered : thread.traffic.packet < write.enqueued)
    (same_packet : after.traffic.packet = thread.traffic.packet)
    (stays : write.passes = false → after.pc.inPacketLoop = true) :
    Phase (past ++ [.write result]) after := by
  cases phase with
  | fresh unmarked unlogged =>
      have clean : NoStaleBytes after.traffic.writes := by
        rw [writes]
        exact noneAfter_snoc.mpr ⟨noneAfter_of_unmarked unlogged, fun mark member marks =>
          absurd marks (unlogged mark member)⟩
      have nothing : NothingPasses (past ++ [.write result]) :=
        noneAfter_snoc.mpr ⟨noneAfter_of_unmarked unmarked, fun mark member marks =>
          absurd marks (unmarked mark member)⟩
      cases cancelled : result.cancels with
      | true =>
          have failed : write.passes = false := by
            cases result <;> simp_all [WriteResult.cancels, WriteEvent.passes, WriteResult.count]
          refine .stuck (stays failed) clean nothing ⟨write, ?_, cancels.trans cancelled, ?_⟩
            ⟨.write result, List.mem_append_right _ (List.mem_singleton_self _), cancelled⟩
          · rw [writes]
            exact List.mem_append_right _ (List.mem_singleton_self _)
          · rwa [same_packet]
      | false =>
          refine .fresh (List.forall_mem_append.mpr ⟨unmarked, ?_⟩) ?_
          · simpa [WriteEvent.cancels] using cancelled
          · rw [writes]
            exact List.forall_mem_append.mpr ⟨unlogged, by simp [cancels, cancelled]⟩
  | stuck in_loop clean nothing logged occurred =>
      obtain ⟨mark, logged_mark, marks, older⟩ := logged
      obtain ⟨entry, occurred_entry, entry_marks⟩ := occurred
      cases passed : write.passes with
      | true =>
          refine .stale ?_ (not_noneAfter_snoc occurred_entry entry_marks (passes ▸ passed))
          rw [writes]
          exact not_noneAfter_snoc logged_mark marks ⟨passed, packet ▸ older⟩
      | false =>
          refine .stuck (stays passed) ?_ ((noneAfter_snoc_harmless fun _ => ?_).mpr nothing)
            ⟨mark, ?_, marks, same_packet ▸ older⟩ ⟨entry, List.mem_append_left _ occurred_entry,
              entry_marks⟩
          · rw [writes]
            exact (noneAfter_snoc_harmless fun _ => by simp [passed]).mpr clean
          · rw [← passes, passed]
            exact Bool.false_ne_true
          · rw [writes]
            exact List.mem_append_left _ logged_mark
  | stale sent passed =>
      refine .stale (fun clean => sent ?_) (fun nothing => passed (noneAfter_snoc.mp nothing).1)
      rw [writes] at clean
      exact (noneAfter_snoc.mp clean).1
  | ended leaving => simp [at_write, WritePc.leaving] at leaving

private theorem leaving_checkStatus {thread : WriteThread} (failed : thread.status < 0) :
    thread.checkStatus.pc.leaving = true := by
  rw [checkStatus, if_pos failed]
  rfl

private theorem status_of_cancels {result : WriteResult} (cancels : result.cancels = true) :
    result.status < 0 := by
  cases result with
  | failed errno => exact Int.negSucc_lt_zero 0
  | accepted count => cases cancels

theorem inPacketLoop_packetLoop {thread : WriteThread} (unfinished : thread.written ≠ thread.len) :
    thread.packetLoop.pc.inPacketLoop = true := by
  rw [packetLoop, if_pos unfinished]
  rfl

theorem inPacketLoop_afterPoll {thread : WriteThread} (unfinished : thread.written ≠ thread.len)
    (result : PollResult) : (thread.afterPoll result).pc.inPacketLoop = true := by
  unfold afterPoll
  split
  · exact inPacketLoop_packetLoop unfinished
  · split
    · rfl
    · exact inPacketLoop_packetLoop unfinished

theorem inPacketLoop_afterWrite {thread : WriteThread} (placed : thread.Placed)
    (at_write : thread.pc = .write) {result : WriteResult} (nothing : result.count = 0) :
    (thread.logWrite .bulkIn thread.mtpBuf thread.written thread.remaining
      result).afterWrite.pc.inPacketLoop = true := by
  obtain ⟨unfinished, -⟩ := placed.unfinished (by rw [at_write]; rfl)
  cases result with
  | failed errno =>
      rw [afterWrite, if_pos (by exact Int.negSucc_lt_zero 0)]
      split
      · rfl
      · exact inPacketLoop_packetLoop unfinished
  | accepted count =>
      obtain rfl : count = 0 := nothing
      have same : toUint32 (thread.written + (WriteResult.accepted 0).status) = thread.written := by
        exact toUint32_of_lt placed.written
      rw [afterWrite, if_neg (by exact Int.lt_irrefl 0)]
      exact inPacketLoop_packetLoop (same.trans_ne unfinished)

private theorem phase_step {past : List WriteEvent} {thread after : WriteThread} {event : WriteEvent}
    (placed : thread.Placed) (phase : Phase past thread)
    (stepped : thread.step event = some after) :
    Phase (past ++ [event]) after := by
  cases step_eq_some stepped with
  | enqueue message => exact phase.quiet rfl rfl rfl id fun in_loop => .inr ⟨in_loop, rfl⟩
  | start fd at_start =>
      exact phase.quiet rfl rfl rfl (by rw [at_start]; nofun) (by rw [at_start]; nofun)
  | testcancel at_test =>
      exact phase.quiet rfl rfl rfl (by rw [at_test]; nofun) (by rw [at_test]; nofun)
  | cancel at_point => exact phase.quiet rfl rfl rfl (fun _ => rfl) fun _ => .inl rfl
  | receive head rest at_receive queue =>
      refine phase.quiet rfl rfl ?_ (by rw [at_receive]; nofun) (by rw [at_receive]; nofun)
      rw [traffic_dispatch]
      rfl
  | receiveFailed at_receive =>
      refine phase.quiet rfl rfl ?_ (by rw [at_receive]; nofun) (by rw [at_receive]; nofun)
      rw [traffic_dispatch]
  | poll result at_poll =>
      obtain ⟨unfinished, -⟩ := placed.unfinished (by rw [at_poll]; rfl)
      refine phase.quiet rfl rfl ?_ (by rw [at_poll]; nofun) fun _ =>
        .inr ⟨inPacketLoop_afterPoll unfinished result, ?_⟩
      · rw [traffic_afterPoll]
      · rw [traffic_afterPoll]
  | write result at_write within =>
      obtain ⟨-, typed⟩ := placed.unfinished (by rw [at_write]; rfl)
      refine phase.inside at_write (by rw [traffic_afterWrite]; rfl) ?_ ?_ rfl (placed.packet typed)
        (by rw [traffic_afterWrite]; rfl) fun nothing => inPacketLoop_afterWrite placed at_write ?_
      · simp [EndpointWrite.cancels]
      · simp [EndpointWrite.passes, WriteEvent.passes]
      · simpa [EndpointWrite.passes] using nothing
  | writeEvent result at_write within =>
      refine phase.outside (by rw [at_write]; exact ⟨rfl, rfl⟩) (by rw [traffic_checkStatus]; rfl)
        fun cancels => leaving_checkStatus (show result.status < 0 from status_of_cancels ?_)
      simpa [EndpointWrite.cancels] using cancels
  | writeZlp result at_write within =>
      refine phase.outside (by rw [at_write]; exact ⟨rfl, rfl⟩) (by rw [traffic_checkStatus]; rfl)
        fun cancels => leaving_checkStatus (show result.status < 0 from status_of_cancels ?_)
      simpa [EndpointWrite.cancels] using cancels
  | drain resume head rest at_cleanUp queue =>
      exact phase.quiet rfl rfl rfl id fun in_loop => .inr ⟨in_loop, rfl⟩
  | drained resume at_cleanUp =>
      refine phase.quiet rfl rfl ?_ ?_ ?_
      · rw [traffic_afterCleanUp]
      · rw [at_cleanUp]
        cases resume with
        | packetLoop => nofun
        | exit => exact fun _ => rfl
        | cancelled => exact fun _ => rfl
      · rw [traffic_afterCleanUp]
        cases resume with
        | packetLoop =>
            obtain ⟨unfinished, -⟩ := placed.unfinished (by rw [at_cleanUp]; rfl)
            exact fun _ => .inr ⟨inPacketLoop_packetLoop unfinished, rfl⟩
        | exit => exact fun _ => .inl rfl
        | cancelled => exact fun _ => .inl rfl

/-- Stale bytes go out in exactly those runs in which, after a write that failed with
`ENOMEM` or `ECANCELED`, some later write is accepted. -/
theorem no_stale_bytes_iff {final : WriteThread} {events : List WriteEvent}
    (reached : run step initial events = some final) :
    NoStaleBytes final.traffic.writes ↔ NothingPasses events := by
  have phase : final.Placed ∧ Phase events final := by
    refine run_history (fun past thread => thread.Placed ∧ Phase past thread)
      ⟨placed_initial, .fresh nofun nofun⟩
      (fun past before event after _ held stepped => ?_) reached
    exact ⟨placed_step held.1 stepped, phase_step held.1 held.2 stepped⟩
  exact phase.2.verdict

/-- Two bytes, the first write of which is cancelled; then both of them go out. -/
def cancelledWrite : List WriteEvent :=
  [.enqueue ⟨.bulk, 2, some ⟨1, [10, 20]⟩⟩, .start 5, .testcancel, .receive,
   .poll (.returned 1 true), .write (.failed .ecanceled), .drained, .poll (.returned 1 true),
   .write (.accepted 2)]

theorem stale_bytes_after_cancelled_write :
    ∃ final, run step initial cancelledWrite = some final ∧
      ¬ NoStaleBytes final.traffic.writes ∧ final.accepted = [10, 20] := by
  refine ⟨_, rfl, ?_, rfl⟩
  unfold NoStaleBytes
  decide

theorem no_stale_bytes_cancelled :
    ∃ final, run step initial (cancelledWrite.take 8) = some final ∧
      final.traffic.writes ≠ [] ∧ NoStaleBytes final.traffic.writes := by
  have nothing : NothingPasses (cancelledWrite.take 8) := by
    unfold NothingPasses
    decide
  have reached : run step initial (cancelledWrite.take 8) = some _ := rfl
  exact ⟨_, reached, nofun, (no_stale_bytes_iff reached).mpr nothing⟩

end WriteThread

end VelaExternal.MtpResponder
