import SessionGateway.Proofs.Channel.Settled
import SessionGateway.Proofs.Connection.Probing
import SessionGateway.Proofs.Connection.Teardown

/-!
# Shutting down

A connection whose token is cancelled goes on by itself until it has returned or waits for something
that was begun. Of what it has begun, cancellation releases the wait for the pod, for answers to
attempts and for answers to probes, and it stops the commands and forwards. It does not release a
task that writes a closing line: the line is written without looking at the token, and the channel
waits for the task before it closes the stream. So a cancelled connection returns if and only if
every closing line that was begun is received or fails.
-/

namespace SessionGateway.Connection

def Event.isOwn : Event → Bool
  | .advance | .takeOpen | .runOpen _ | .keepalive (.start _) | .keepalive .stop | .discard _ => true
  | .channel _ e => e.isOwn
  | _ => false

def Event.isClosed : Event → Bool
  | .connectionClosed _ => true
  | _ => false

/-- Whether a channel that is served has been cancelled; attempts have no token of their own. -/
def Stage.severed : Stage → Bool
  | .serving h => h.scratch.closed
  | _ => true

def Stage.ownEvents (n : Nat) : Stage → List Event
  | .serving h => .channel n .advance ::
      (List.range h.scratch.works.length).map fun i => .channel n (.run i)
  | .ready _ | .accepting _ _ | .rejecting _ _ => [.runOpen n]
  | _ => []

namespace State

def Settled (s : State) : Prop :=
  ∀ e : Event, e.isOwn = true → s.step e = none

/-- The steps that the tasks of a connection might make by themselves. -/
def ownEvents (s : State) : List Event :=
  [.advance, .takeOpen, .keepalive (.start ""), .keepalive .stop, .discard .take, .discard .stop] ++
    s.channels.zipIdx.flatMap fun (stage, n) => Stage.ownEvents n stage

theorem mem_ownEvents {s : State} {n : Nat} {stage : Stage} {e : Event}
    (hstage : s.channels[n]? = some stage) (hmem : e ∈ stage.ownEvents n) : e ∈ s.ownEvents := by
  apply List.mem_append_right
  rw [List.mem_flatMap]
  exact ⟨(stage, n), List.mk_mem_zipIdx_iff_getElem?.2 hstage, hmem⟩

theorem step_none_of_quiet {s : State} {e : Event} (hquiet : ∀ e ∈ s.ownEvents, s.step e = none)
    (hown : e.isOwn = true) : s.step e = none := by
  cases e with
  | advance | takeOpen => exact hquiet _ (by simp [ownEvents])
  | keepalive e =>
      cases e with
      | start panic =>
          have hstart : s.keepalive? (.start "") = none :=
            hquiet (.keepalive (.start "")) (by simp [ownEvents])
          rw [step]
          by_cases hphase : s.phase = .ready
          · rw [keepalive?, if_pos hphase]
          · rw [keepalive?, if_neg hphase, Option.map_eq_none_iff,
              Keepalive.State.step_start_eq_none_iff] at hstart ⊢
            exact hstart
      | stop => exact hquiet _ (by simp [ownEvents])
      | _ => cases hown
  | discard e => cases e <;> exact hquiet _ (by simp [ownEvents])
  | runOpen n =>
      simp only [step, runOpen?]
      cases hstage : s.channels[n]? with
      | none => rfl
      | some stage =>
          cases stage with
          | ready _ | accepting _ _ | rejecting _ _ =>
              have hnone := hquiet (.runOpen n) (mem_ownEvents hstage (by simp [Stage.ownEvents]))
              simpa [step, runOpen?, hstage] using hnone
          | _ => rfl
  | channel n e =>
      cases hstage : s.channels[n]? with
      | none => simp [step, channel?, hstage]
      | some stage =>
          cases stage with
          | serving h =>
              cases e with
              | advance => exact hquiet _ (mem_ownEvents hstage (by simp [Stage.ownEvents]))
              | run i =>
                  by_cases hlt : i < h.scratch.works.length
                  · exact hquiet _ (mem_ownEvents hstage (by simp [Stage.ownEvents, hlt]))
                  · have hnone : h.scratch.works[i]? = none := List.getElem?_eq_none (by omega)
                    simp [step, channel?, hstage, Channel.Handler.step, Channel.Handler.run?, hnone]
              | _ => cases hown
          | _ => cases e <;> first | cases hown; done | simp [step, channel?, hstage, arriveEarly]
  | _ => cases hown

theorem settled_iff (s : State) : s.Settled ↔ ∀ e ∈ s.ownEvents, (s.step e).isNone = true := by
  constructor
  · intro hsettled e hmem
    have hown : e.isOwn = true := by
      rcases List.mem_append.1 hmem with hfixed | hattempt
      · simp only [List.mem_cons, List.not_mem_nil, or_false] at hfixed
        rcases hfixed with rfl | rfl | rfl | rfl | rfl | rfl <;> rfl
      · obtain ⟨⟨stage, n⟩, _, hstage⟩ := List.mem_flatMap.1 hattempt
        cases stage with
        | serving h =>
            rcases List.mem_cons.1 hstage with rfl | hrun
            · rfl
            · obtain ⟨i, _, rfl⟩ := List.mem_map.1 hrun
              rfl
        | ready _ | accepting _ _ | rejecting _ _ =>
            obtain rfl := List.mem_singleton.1 hstage
            rfl
        | _ => cases hstage
    rw [hsettled e hown]
    rfl
  · intro hnone e hown
    exact step_none_of_quiet (fun e hmem => Option.isNone_iff_eq_none.1 (hnone e hmem)) hown

instance (s : State) : Decidable s.Settled :=
  decidable_of_iff _ (settled_iff s).symm

/-- Cancelling a connection cancels every channel, and no attempt waits to be taken when none is
taken any more. -/
structure Prompt (s : State) : Prop where
  severed : s.cancelled = true → ∀ stage ∈ s.channels, stage.severed = true
  taken : s.phase.left = true → ∀ stage ∈ s.channels, stage.isQueued = false

variable {s t : State} {e : Event} {acts : List Act}

theorem prompt_fresh (ctx : Context) (cancelled : Bool) : (fresh ctx cancelled).Prompt where
  severed _ := by simp [fresh]
  taken _ := by simp [fresh]

theorem Prompt.cancel (htaken : s.phase.left = true → ∀ stage ∈ s.channels, stage.isQueued = false) :
    s.cancel.Prompt where
  severed _ stage hstage := by
    obtain ⟨before, _, rfl⟩ := List.mem_map.1 hstage
    cases before <;> rfl
  taken hleft stage hstage := by
    obtain ⟨before, hbefore, rfl⟩ := List.mem_map.1 hstage
    have hnot := htaken hleft before hbefore
    cases before <;> first | rfl | exact hnot

theorem Prompt.push (hprompt : s.Prompt) {stage : Stage} (hsevered : stage.severed = true)
    (hqueued : s.phase.left = true → stage.isQueued = false) :
    State.Prompt { s with channels := s.channels ++ [stage] } where
  severed hcancel other hother := by
    rcases List.mem_append.1 hother with hold | hnew
    · exact hprompt.severed hcancel other hold
    · rw [List.mem_singleton.1 hnew]
      exact hsevered
  taken hleft other hother := by
    rcases List.mem_append.1 hother with hold | hnew
    · exact hprompt.taken hleft other hold
    · rw [List.mem_singleton.1 hnew]
      exact hqueued hleft

theorem Prompt.setStage (hprompt : s.Prompt) {n : Nat} {stage after : Stage}
    (hstage : s.channels[n]? = some stage)
    (hsevered : s.cancelled = true → stage.severed = true → after.severed = true)
    (hqueued : stage.isQueued = false → after.isQueued = false) : (s.setStage n after).Prompt where
  severed hcancel other hother := by
    rcases List.mem_or_eq_of_mem_set hother with hold | rfl
    · exact hprompt.severed hcancel other hold
    · exact hsevered hcancel (hprompt.severed hcancel stage (List.mem_of_getElem? hstage))
  taken hleft other hother := by
    rcases List.mem_or_eq_of_mem_set hother with hold | rfl
    · exact hprompt.taken hleft other hold
    · exact hqueued (hprompt.taken hleft stage (List.mem_of_getElem? hstage))

/-- An attempt that becomes a channel does so before the connection is cancelled, and a channel
that is cancelled stays so. -/
theorem severed_of_step {ctx : Context} {n : Nat} {stage after : Stage}
    (hstep : stage.Step ctx true n e acts after) (hbefore : stage.severed = true)
    (hsound : ∀ h, stage = .serving h → h.Sound) : after.severed = true := by
  cases hstep with
  | serve hlive _ => cases hlive
  | early hattempt _ => cases stage <;> first | rfl | cases hattempt
  | @work h t e own _ hwork =>
      exact Channel.Handler.closed_of_move (hsound h rfl).orderly.lasting
        (Channel.Handler.move_of_step hwork) hbefore
  | _ => rfl

theorem isQueued_of_step {ctx : Context} {cancelled : Bool} {n : Nat} {stage after : Stage}
    (hstep : stage.Step ctx cancelled n e acts after) (hbefore : stage.isQueued = false) :
    after.isQueued = false := by
  cases hstep with
  | early hattempt _ => cases stage <;> first | rfl | cases hbefore
  | _ => rfl

theorem Prompt.move (hprompt : s.Prompt) (hsound : s.Sound) (hmove : s.Move e acts t)
    (hchannels : ∀ (n : Nat) (h : Channel.Handler), s.channels[n]? = some (.serving h) → h.Sound) :
    t.Prompt := by
  cases hmove with
  | elapse _ | endOpens | globalRequest _ | endGlobals => exact ⟨hprompt.severed, hprompt.taken⟩
  | cancel => exact .cancel hprompt.taken
  | arrive kind payload hreceives =>
      refine hprompt.push rfl fun hleft => ?_
      simp [receivesOpens, hsound.dropped hleft] at hreceives
  | refuse kind payload _ => exact hprompt.push rfl fun _ => rfl
  | provision hphase _ => exact ⟨hprompt.severed, fun hleft => by cases hleft⟩
  | provisioned hphase => exact ⟨hprompt.severed, fun hleft => by cases hleft⟩
  | leave hleaves =>
      refine ⟨fun hcancel stage hstage => ?_, fun _ stage hstage => ?_⟩
      · rw [leave_channels] at hstage
        obtain ⟨before, hbefore, rfl⟩ := List.mem_map.1 hstage
        have hsevered := hprompt.severed hcancel before hbefore
        cases before <;> first | rfl | exact hsevered
      · rw [leave_channels] at hstage
        obtain ⟨before, _, rfl⟩ := List.mem_map.1 hstage
        cases before <;> rfl
  | join hphase _ => exact .cancel fun _ => hprompt.taken (by rw [hphase]; rfl)
  | close hphase _ _ =>
      exact ⟨hprompt.severed, fun _ => hprompt.taken (by rw [hphase]; rfl)⟩
  | takeOpen hphase _ hqueued => exact hprompt.setStage hqueued (fun _ _ => rfl) (fun _ => rfl)
  | attempt hstage hstep =>
      refine hprompt.setStage hstage (fun hcancel hbefore => ?_) (isQueued_of_step hstep)
      rw [hcancel] at hstep
      exact severed_of_step hstep hbefore fun h hserving => hchannels _ h (hserving ▸ hstage)
  | keepalive _ _ =>
      split
      · exact .cancel hprompt.taken
      · exact ⟨hprompt.severed, hprompt.taken⟩
  | discard _ _ => exact ⟨hprompt.severed, hprompt.taken⟩
  | closed hphase _ => exact ⟨hprompt.severed, fun _ => hprompt.taken (by rw [hphase]; rfl)⟩

end State

section

variable {ctx : Context} {cancelled : Bool} {log : Log} {s t : State} {e : Event} {acts : List Act}

theorem prompt_of_run (hrun : Run State.step (State.fresh ctx cancelled) log s) : s.Prompt := by
  induction hrun with
  | nil => exact State.prompt_fresh ctx cancelled
  | snoc hbefore hstep ih =>
      exact ih.move (sound_of_run hbefore) (State.move_of_step hstep) (channels_sound hbefore)

/-- A connection returns with the step that ends its closing. -/
theorem returned_of_move (hmove : s.Move e acts t) :
    (if s.phase = .returned then 1 else 0) + e.isClosed.toNat =
      if t.phase = .returned then 1 else 0 := by
  cases hmove with
  | provision hphase _ | provisioned hphase | join hphase _ | close hphase _ _ | closed hphase _ =>
      rw [hphase]
      rfl
  | leave hleaves =>
      have hopen : s.phase ≠ .returned := by
        intro hphase
        have hleft := hleaves.not_left
        rw [hphase] at hleft
        cases hleft
      rw [if_neg hopen]
      cases hleaves <;> rfl
  | attempt _ hstep => cases hstep <;> exact Nat.add_zero _
  | @keepalive _ k own _ _ =>
      have hkept : (if State.exhausts own then State.cancel { s with keepalive := k }
          else { s with keepalive := k }).phase = s.phase := by split <;> rfl
      rw [hkept]
      exact Nat.add_zero _
  | _ => exact Nat.add_zero _

theorem returned_stays (hmove : s.Move e acts t) (hphase : s.phase = .returned) :
    t.phase = .returned := by
  have hcount := returned_of_move hmove
  by_contra hnot
  rw [if_pos hphase, if_neg hnot] at hcount
  omega

theorem countP_isClosed_of_run (hrun : Run State.step (State.fresh ctx cancelled) log s) :
    log.countP (fun τ => τ.event.isClosed) = if s.phase = .returned then 1 else 0 := by
  induction hrun with
  | nil => rfl
  | snoc _ hstep ih =>
      rw [← returned_of_move (State.move_of_step hstep), List.countP_append, ih,
        List.countP_singleton]
      cases Event.isClosed _ <;> rfl

theorem keepalive_of_settled (hcancel : s.cancelled = true) (hsettled : s.Settled)
    (hphase : s.phase ≠ .ready) : s.keepalive.ended = true := by
  have hstart : s.keepalive? (.start "") = none := hsettled (.keepalive (.start "")) rfl
  have hstop : s.keepalive? .stop = none := hsettled (.keepalive .stop) rfl
  simp only [State.keepalive?, hphase, if_false, Option.map_eq_none_iff] at hstart hstop
  cases hkeepalive : s.keepalive.phase with
  | ready => exact absurd hkeepalive (Keepalive.State.step_start_eq_none_iff.1 hstart)
  | waiting due => simp [Keepalive.State.step, hkeepalive, hcancel] at hstop
  | probing due deadline => simp [Keepalive.State.step, hkeepalive, hcancel] at hstop
  | stopped => simp [Keepalive.State.ended, hkeepalive]
  | crashed panic => simp [Keepalive.State.ended, hkeepalive]

theorem discard_of_settled (hcancel : s.cancelled = true) (hsettled : s.Settled)
    (hphase : s.phase ≠ .ready) : s.discard.stopped = true := by
  have hstop : s.discard? .stop = none := hsettled (.discard .stop) rfl
  simp only [State.discard?, hphase, if_false, Option.map_eq_none_iff] at hstop
  cases hstopped : s.discard.stopped with
  | true => rfl
  | false => simp [Discard.State.step, hstopped, hcancel] at hstop

/-- The channels of a settled connection are settled. -/
theorem State.Settled.channel {n : Nat} {h : Channel.Handler} (hsettled : s.Settled)
    (hstage : s.channels[n]? = some (.serving h)) : h.Settled s.context := by
  intro e he
  have hnone : s.channel? n e = none := hsettled (.channel n e) he
  cases e with
  | advance | run _ => simpa [State.channel?, hstage] using hnone
  | _ => cases he

/-- In a settled connection that is cancelled and takes no further attempt, an attempt has come to
its end unless something that was begun on its channel has not ended. -/
theorem finished_of_settled (hrun : Run State.step (State.fresh ctx cancelled) log s)
    (hcancel : s.cancelled = true) (hsettled : s.Settled) (hleft : s.phase.left = true) {n : Nat}
    {stage : Stage} (hstage : s.channels[n]? = some stage)
    (hdone : ∀ op : Channel.Operation,
      (actsOn n (seen log)).countP op.begins = (eventsOn n log).countP op.ends) :
    stage.finished = true := by
  obtain ⟨hctx, htraced⟩ := traced_of_run hrun n
  have hprompt := prompt_of_run hrun
  have hmem := List.mem_of_getElem? hstage
  have hopen : s.runOpen? n = none := hsettled (.runOpen n) rfl
  rw [hstage] at htraced
  cases stage with
  | queued a => cases hprompt.taken hleft _ hmem
  | ready a =>
      cases hverdict : verdict a <;> simp [State.runOpen?, hstage, hcancel, hverdict] at hopen
  | accepting a forwardOpen => simp [State.runOpen?, hstage, hcancel] at hopen
  | rejecting a fault => simp [State.runOpen?, hstage, hcancel] at hopen
  | serving h =>
      have hown : h.Settled ctx := hctx ▸ hsettled.channel hstage
      have hpending : ∀ op, h.pending op = 0 := by
        intro op
        have hbalance := htraced.balance op
        have hended := hdone op
        omega
      have hphase := htraced.sound.closed_of_settled hown (hprompt.severed hcancel _ hmem) hpending
      simp [Stage.finished, hphase]
  | ended => rfl
  | crashed => rfl

/-- When a cancelled connection returns. If everything that it has called has returned, and its
streams and the connection are closed when this is asked for, then once the connection is settled it
has returned if and only if every closing line that was begun is written or has failed. -/
theorem returned_iff_lines_written
    (hrun : Run State.step (State.fresh ctx cancelled) log s) (hcancel : s.cancelled = true)
    (hsettled : s.Settled)
    (hcalls : ∀ n, (actsOn n (seen log)).countP Channel.Operation.call.begins =
      (eventsOn n log).countP Channel.Operation.call.ends)
    (hstreams : ∀ n, (actsOn n (seen log)).countP Channel.Operation.close.begins =
      (eventsOn n log).countP Channel.Operation.close.ends)
    (hclosed : (seen log).count .closeConnection = log.countP fun τ => τ.event.isClosed) :
    s.phase = .returned ↔ ∀ n, (actsOn n (seen log)).countP Channel.Operation.write.begins =
      (eventsOn n log).countP Channel.Operation.write.ends := by
  have hsound := sound_of_run hrun
  constructor
  · intro hphase n
    have hjoined : s.phase.joined = true := by rw [hphase]; rfl
    refine ((traced_of_run hrun n).2.of_finished fun after hafter => ?_).1 .write
    exact List.all_eq_true.1 (hsound.finished hjoined) after (List.mem_of_getElem? hafter)
  · intro hlines
    -- While it is neither waiting for its channels nor closing, the connection could go on itself.
    have hadvance : s.advance? = none := hsettled .advance rfl
    cases hphase : s.phase with
    | ready => simp [State.advance?, hphase, hcancel] at hadvance
    | provisioning => simp [State.advance?, hphase, hcancel] at hadvance
    | accepting => simp [State.advance?, hphase, hcancel] at hadvance
    | draining =>
        have hall : s.channels.all Stage.finished = true := by
          rw [List.all_eq_true]
          intro stage hmem
          obtain ⟨n, hlt, hat⟩ := List.getElem_of_mem hmem
          have hstage : s.channels[n]? = some stage := by rw [List.getElem?_eq_getElem hlt, hat]
          refine finished_of_settled hrun hcancel hsettled (by rw [hphase]; rfl) hstage fun op => ?_
          cases op with
          | call => exact hcalls n
          | write => exact hlines n
          | close => exact hstreams n
        rw [State.advance?, hphase] at hadvance
        simp only [hall, if_true] at hadvance
        cases hadvance
    | stopping =>
        have hrunning : s.phase ≠ .ready := by simp [hphase]
        have hkeepalive := keepalive_of_settled hcancel hsettled hrunning
        have hdiscard := discard_of_settled hcancel hsettled hrunning
        simp [State.advance?, hphase, hkeepalive, hdiscard] at hadvance
    | closing =>
        rw [count_close_of_run hrun, countP_isClosed_of_run hrun, hphase] at hclosed
        cases hclosed
    | returned => rfl

theorem counts_of_absent (hrun : Run State.step (State.fresh ctx cancelled) log s) {n : Nat}
    (hn : s.channels.length ≤ n) (op : Channel.Operation) :
    (actsOn n (seen log)).countP op.begins = (eventsOn n log).countP op.ends := by
  have htraced := (traced_of_run hrun n).2
  rw [List.getElem?_eq_none hn] at htraced
  cases htraced with
  | absent hacts hevents _ =>
      rw [hacts, hevents]
      rfl

/-- A connection that is cancelled while the peer does not receive the line after its shell waits
for the peer, although the shell has returned. -/
theorem stuck_on_closing_line :
    ∃ log s, Run State.step (State.fresh ⟨⟨"team", "ada"⟩, .standard⟩ false) log s ∧
      s.cancelled = true ∧ s.Settled ∧
      (∀ n, (actsOn n (seen log)).countP Channel.Operation.call.begins =
        (eventsOn n log).countP Channel.Operation.call.ends) ∧
      (∀ n, (actsOn n (seen log)).countP Channel.Operation.close.begins =
        (eventsOn n log).countP Channel.Operation.close.ends) ∧
      (seen log).count .closeConnection = log.countP (fun τ => τ.event.isClosed) ∧
      s.phase = .draining := by
  have hcheck : ∃ log s, Run State.step (State.fresh ⟨⟨"team", "ada"⟩, .standard⟩ false) log s ∧
      s.cancelled = true ∧ s.Settled ∧ s.channels.length = 1 ∧
      (actsOn 0 (seen log)).countP Channel.Operation.call.begins =
        (eventsOn 0 log).countP Channel.Operation.call.ends ∧
      (actsOn 0 (seen log)).countP Channel.Operation.close.begins =
        (eventsOn 0 log).countP Channel.Operation.close.ends ∧
      (seen log).count .closeConnection = log.countP (fun τ => τ.event.isClosed) ∧
      s.phase = .draining :=
    exists_run_of_replay
      [.advance, .keepalive (.start ""), .provisioned (.ok ()), .openChannel "session" [], .takeOpen,
        .runOpen 0, .accepted 0 (.ok ()), .channel 0 .advance,
        .channel 0 (.arrive ⟨"shell", [], true⟩), .channel 0 .advance, .channel 0 (.run 0),
        .channel 0 (.returned 0 (.ok ())), .cancel, .channel 0 .advance, .advance,
        .keepalive .stop, .discard .stop]
      (by decide +kernel)
  obtain ⟨log, s, hrun, hcancel, hsettled, hlength, hcalls, hstreams, hclosed, hphase⟩ := hcheck
  refine ⟨log, s, hrun, hcancel, hsettled, fun n => ?_, fun n => ?_, hclosed, hphase⟩
  · cases n with
    | zero => exact hcalls
    | succ n => exact counts_of_absent hrun (by omega) .call
  · cases n with
    | zero => exact hstreams
    | succ n => exact counts_of_absent hrun (by omega) .close

end

end SessionGateway.Connection
