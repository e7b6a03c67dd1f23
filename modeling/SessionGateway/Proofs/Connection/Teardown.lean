import SessionGateway.Proofs.Connection.Attempts

/-!
# The end of a connection

However a connection comes to its end, it is closed once, and only after every attempt has come to
its own end, the streams of its channels are closed, nothing that was asked of the cluster is
outstanding, the probing and the refusal of global requests have ended, and the token is cancelled.
From then on the connection asks nothing of anybody. The one exception is a queue of sizes that is
larger than a queue can be: then a channel cannot be set up after its attempt has been accepted,
and its stream is not closed.
-/

namespace SessionGateway

namespace Channel.Handler

variable {ctx : Context} {h t : Handler}

theorem Sound.pending_of_closed (hsound : h.Sound) (hphase : h.phase = .closed) (op : Operation) :
    h.pending op = 0 := by
  have hrunning : h.scratch.running = 0 := hsound.running_of_joined (by rw [hphase]; rfl)
  have hidle : h.scratch.works.countP op.waits = 0 := by
    rw [List.countP_eq_zero]
    intro w hw hwaits
    have hdone := List.countP_eq_zero.1 hrunning w hw
    exact hdone (by simpa using Operation.stage_ne_done_of_waits hwaits)
  rw [pending, hidle, hphase]
  cases op <;> rfl

end Channel.Handler

namespace Connection

/-- Whether an act asks something of a collaborator or answers the peer. -/
def Act.isCall : Act → Bool
  | .provision _ | .accept _ | .reject _ _ _ | .probe _ | .closeConnection => true
  | .channel _ (.answer _ _) | .discard (.refuse _) => true
  | .channel _ a => a.isCall
  | _ => false

namespace Phase

def left : Phase → Bool
  | .ready | .provisioning | .accepting => false
  | .draining | .stopping | .closing | .returned => true

def joined : Phase → Bool
  | .ready | .provisioning | .accepting | .draining => false
  | .stopping | .closing | .returned => true

def closed : Phase → Bool
  | .closing | .returned => true
  | _ => false

theorem left_of_joined {p : Phase} (h : p.joined = true) : p.left = true := by
  cases p <;> simp_all [joined, left]

theorem joined_of_closed {p : Phase} (h : p.closed = true) : p.joined = true := by
  cases p <;> simp_all [joined, closed]

end Phase

namespace Stage

theorem finished_cancel (stage : Stage) : stage.cancel.finished = stage.finished := by
  cases stage <;> rfl

theorem not_finished {stage : Stage} {a : Attempt} (hattempt : stage.attempt? = some a) :
    stage.finished = false := by
  cases stage <;> simp_all [attempt?, finished]

/-- What has come to its end stays there, and asks nothing of anybody. -/
theorem Step.of_finished {ctx : Context} {cancelled : Bool} {n : Nat} {stage after : Stage}
    {e : Event} {acts : List Act} (hstep : stage.Step ctx cancelled n e acts after)
    (hfinished : stage.finished = true)
    (hsound : ∀ h, stage = .serving h → h.Sound) :
    after.finished = true ∧ ∀ a ∈ acts, a.isCall = false := by
  cases hstep with
  | early hattempt _ =>
      rw [not_finished hattempt] at hfinished
      cases hfinished
  | @work h t e own hown hwork =>
      have hphase : h.phase = .closed := by simpa [finished] using hfinished
      have hclosed := (hsound h rfl).closed_move hphase (Channel.Handler.move_of_step hwork)
      refine ⟨by simp [finished, hclosed.1], ?_⟩
      intro a ha
      obtain ⟨own, hmem, rfl⟩ := List.mem_map.1 ha
      obtain ⟨consumer, size, rfl⟩ := hclosed.2 own hmem
      rfl
  | _ => cases hfinished

theorem Step.closeConnection {ctx : Context} {cancelled : Bool} {n : Nat} {stage after : Stage}
    {e : Event} {acts : List Act} (hstep : stage.Step ctx cancelled n e acts after) :
    Act.closeConnection ∉ acts := by
  intro hmem
  rcases hstep.own_or_warn _ hmem with hnumber | ⟨text, hwarn⟩
  · cases hnumber
  · cases hwarn

end Stage

namespace State

structure Sound (s : State) : Prop where
  dropped : s.phase.left = true → s.opensDropped = true
  finished : s.phase.joined = true → s.channels.all Stage.finished = true
  cancelled : s.phase.joined = true → s.cancelled = true
  keepalive : s.phase.closed = true → s.keepalive.ended = true
  discard : s.phase.closed = true → s.discard.stopped = true

theorem sound_fresh (ctx : Context) (cancelled : Bool) : (fresh ctx cancelled).Sound := by
  constructor <;> intro h <;> cases h

variable {s t : State} {e : Event} {acts : List Act}

theorem all_finished_cancel (stages : List Stage) :
    (stages.map Stage.cancel).all Stage.finished = stages.all Stage.finished := by
  rw [List.all_map]
  congr 1
  funext stage
  exact Stage.finished_cancel stage

theorem Sound.cancel (hsound : s.Sound) : s.cancel.Sound where
  dropped := hsound.dropped
  finished hjoined := (all_finished_cancel s.channels).trans (hsound.finished hjoined)
  cancelled _ := rfl
  keepalive := hsound.keepalive
  discard := hsound.discard

theorem Sound.setStage (hsound : s.Sound) {n : Nat} {stage after : Stage}
    (hstage : s.channels[n]? = some stage)
    (hafter : stage.finished = true → after.finished = true) : (s.setStage n after).Sound where
  dropped := hsound.dropped
  finished hjoined := by
    have hall := List.all_eq_true.1 (hsound.finished hjoined)
    have hdone := hafter (hall stage (List.mem_of_getElem? hstage))
    rw [List.all_eq_true]
    intro other hother
    rcases List.mem_or_eq_of_mem_set hother with hold | rfl
    · exact hall other hold
    · exact hdone
  cancelled := hsound.cancelled
  keepalive := hsound.keepalive
  discard := hsound.discard

theorem keepalive_ended {k : Keepalive.State} {cancelled : Bool} {now : Nat} {e : Keepalive.Event}
    (hended : k.ended = true) : k.step cancelled now e = none := by
  obtain ⟨settings, phase, failures⟩ := k
  cases phase <;> simp [Keepalive.State.ended] at hended <;> cases e <;> rfl

theorem discard_stopped {d : Discard.State} {cancelled : Bool} {e : Discard.Event}
    (hstopped : d.stopped = true) : d.step cancelled e = none := by
  cases e <;> simp [Discard.State.step, hstopped]

theorem Leaves.not_left {report : List Act} (hleaves : s.Leaves e report) :
    s.phase.left = false := by
  cases hleaves with
  | early hphase _ | giveUpPod hphase _ | noPod hphase | done hphase _ => rw [hphase]; rfl

theorem Sound.move (hsound : s.Sound) (hmove : s.Move e acts t)
    (hchannels : ∀ (n : Nat) (h : Channel.Handler), s.channels[n]? = some (.serving h) → h.Sound) :
    t.Sound := by
  cases hmove with
  | elapse _ | endOpens => exact { hsound with }
  | cancel => exact hsound.cancel
  | arrive kind payload hreceives =>
      have hopen : s.phase.left = false := by
        rw [Bool.eq_false_iff]
        intro hleft
        simp [receivesOpens, hsound.dropped hleft] at hreceives
      refine { hsound with finished := fun hjoined => ?_ }
      have hleft := Phase.left_of_joined hjoined
      rw [hopen] at hleft
      cases hleft
  | refuse kind payload hrefuses =>
      refine { hsound with finished := fun hjoined => ?_ }
      rw [List.all_append, hsound.finished hjoined]
      rfl
  | globalRequest r => exact { hsound with }
  | endGlobals => exact { hsound with }
  | provision hphase _ =>
      constructor <;> intro h <;> cases h
  | provisioned hphase =>
      constructor <;> intro h <;> cases h
  | leave hleaves =>
      refine ⟨fun _ => rfl, ?_, ?_, ?_, ?_⟩ <;> intro h <;> cases h
  | join hphase hfinished =>
      have hdropped := hsound.dropped (by rw [hphase]; rfl)
      refine ⟨fun _ => hdropped, fun _ => ?_, fun _ => rfl, fun h => ?_, fun h => ?_⟩
      · exact (all_finished_cancel s.channels).trans hfinished
      · cases h
      · cases h
  | close hphase hkeepalive hdiscard =>
      have hjoined : s.phase.joined = true := by rw [hphase]; rfl
      have hdropped := hsound.dropped (Phase.left_of_joined hjoined)
      exact ⟨fun _ => hdropped, fun _ => hsound.finished hjoined, fun _ => hsound.cancelled hjoined,
        fun _ => hkeepalive, fun _ => hdiscard⟩
  | takeOpen hphase hfirst hqueued => exact hsound.setStage hqueued (by simp [Stage.finished])
  | attempt hstage hstep =>
      refine hsound.setStage hstage fun hfinished => ?_
      exact (hstep.of_finished hfinished fun h hserving => hchannels _ h (hserving ▸ hstage)).1
  | @keepalive e k own hphase hstep =>
      have hkept : State.Sound { s with keepalive := k } := by
        refine { hsound with keepalive := fun hclosed => ?_ }
        rw [keepalive_ended (hsound.keepalive hclosed)] at hstep
        cases hstep
      split
      · exact hkept.cancel
      · exact hkept
  | @discard e d own hphase hstep =>
      refine { hsound with discard := fun hclosed => ?_ }
      rw [discard_stopped (hsound.discard hclosed)] at hstep
      cases hstep
  | closed hphase _ =>
      have hclosed : s.phase.closed = true := by rw [hphase]; rfl
      have hjoined := Phase.joined_of_closed hclosed
      have hdropped := hsound.dropped (Phase.left_of_joined hjoined)
      exact ⟨fun _ => hdropped, fun _ => hsound.finished hjoined, fun _ => hsound.cancelled hjoined,
        fun _ => hsound.keepalive hclosed, fun _ => hsound.discard hclosed⟩

theorem closeConnection_dropQueued (n : Nat) (stages : List Stage) :
    Act.closeConnection ∉ (dropQueued n stages).2 := by
  induction stages generalizing n with
  | nil => simp [dropQueued]
  | cons stage rest ih => cases stage <;> simp [dropQueued, forgone, ih]

/-- The connection is closed by the step with which it has waited for everything else, and by no
other. -/
theorem closes_or_keeps (hmove : s.Move e acts t) :
    (s.phase = .stopping ∧ s.keepalive.ended = true ∧ s.discard.stopped = true ∧
      acts = crashReport s.keepalive ++ [.closeConnection] ∧ t.phase = .closing) ∨
    (Act.closeConnection ∉ acts ∧ t.phase.closed = s.phase.closed) := by
  cases hmove with
  | close hphase hkeepalive hdiscard => exact .inl ⟨hphase, hkeepalive, hdiscard, rfl, rfl⟩
  | elapse _ | cancel | arrive _ _ _ | endOpens | globalRequest _ | endGlobals | takeOpen _ _ _ =>
      exact .inr ⟨by simp, rfl⟩
  | refuse _ _ _ => exact .inr ⟨by simp, rfl⟩
  | provision hphase _ => exact .inr ⟨by simp, by rw [hphase]; rfl⟩
  | provisioned hphase => exact .inr ⟨by simp, by rw [hphase]; rfl⟩
  | leave hleaves =>
      have hopen : s.phase.closed = false := by
        rw [Bool.eq_false_iff]
        intro hclosed
        have hleft := Phase.left_of_joined (Phase.joined_of_closed hclosed)
        rw [hleaves.not_left] at hleft
        cases hleft
      have hnone : Act.closeConnection ∉ s.leave.2 := closeConnection_dropQueued 0 s.channels
      refine .inr ⟨?_, hopen.symm⟩
      rw [List.mem_append]
      rintro (hreport | hdropped)
      · cases hleaves with
        | noPod _ => split at hreport <;> simp at hreport
        | _ => simp at hreport
      · exact hnone hdropped
  | join hphase _ => exact .inr ⟨by simp, by rw [hphase]; rfl⟩
  | attempt _ hstep => exact .inr ⟨hstep.closeConnection, rfl⟩
  | @keepalive e k own _ _ =>
      refine .inr ⟨?_, by split <;> rfl⟩
      rw [List.mem_append, List.mem_map]
      rintro (hgive | ⟨a, _, ha⟩)
      · split at hgive <;> simp at hgive
      · cases a <;> cases ha
  | discard _ _ => exact .inr ⟨by simp, rfl⟩
  | @closed outcome report hphase hreport =>
      refine .inr ⟨?_, by rw [hphase]; rfl⟩
      rw [hreport]
      cases outcome <;> simp

theorem count_close (hmove : s.Move e acts t) :
    s.phase.closed.toNat + acts.count .closeConnection = t.phase.closed.toNat := by
  rcases closes_or_keeps hmove with ⟨hphase, _, _, rfl, htarget⟩ | ⟨hnone, hkept⟩
  · rw [hphase, htarget, List.count_append]
    simp only [crashReport]
    split <;> rfl
  · rw [List.count_eq_zero.2 hnone, hkept, Nat.add_zero]

/-- Once the connection has been told to close, it asks nothing of anybody any more. -/
theorem Sound.closed_move (hsound : s.Sound) (hclosed : s.phase.closed = true)
    (hmove : s.Move e acts t)
    (hchannels : ∀ (n : Nat) (h : Channel.Handler), s.channels[n]? = some (.serving h) → h.Sound) :
    t.phase.closed = true ∧ ∀ a ∈ acts, a.isCall = false := by
  have hjoined := Phase.joined_of_closed hclosed
  cases hmove with
  | elapse _ | cancel | arrive _ _ _ | endOpens | globalRequest _ | endGlobals =>
      exact ⟨hclosed, by simp⟩
  | refuse kind payload _ => exact ⟨hclosed, by simp [Act.isCall]⟩
  | provision hphase _ => rw [hphase] at hclosed; cases hclosed
  | provisioned hphase => rw [hphase] at hclosed; cases hclosed
  | leave hleaves =>
      have hleft := Phase.left_of_joined hjoined
      rw [hleaves.not_left] at hleft
      cases hleft
  | join hphase _ => rw [hphase] at hclosed; cases hclosed
  | close hphase _ _ => rw [hphase] at hclosed; cases hclosed
  | takeOpen hphase _ _ => rw [hphase] at hclosed; cases hclosed
  | attempt hstage hstep =>
      have hall := List.all_eq_true.1 (hsound.finished hjoined)
      have hfinished := hall _ (List.mem_of_getElem? hstage)
      refine ⟨hclosed, (hstep.of_finished hfinished fun h hserving => ?_).2⟩
      exact hchannels _ h (hserving ▸ hstage)
  | keepalive _ hstep => rw [keepalive_ended (hsound.keepalive hclosed)] at hstep; cases hstep
  | discard _ hstep => rw [discard_stopped (hsound.discard hclosed)] at hstep; cases hstep
  | @closed outcome report hphase hreport =>
      refine ⟨rfl, ?_⟩
      rw [hreport]
      cases outcome <;> simp [Act.isCall]

end State

section

variable {ctx : Context} {cancelled : Bool} {log : Log} {s t : State}

theorem sound_of_run (hrun : Run State.step (State.fresh ctx cancelled) log s) : s.Sound := by
  induction hrun with
  | nil => exact State.sound_fresh ctx cancelled
  | snoc hbefore hstep ih => exact ih.move (State.move_of_step hstep) (channels_sound hbefore)

theorem count_close_of_run (hrun : Run State.step (State.fresh ctx cancelled) log s) :
    (seen log).count .closeConnection = s.phase.closed.toNat := by
  induction hrun with
  | nil => rfl
  | snoc _ hstep ih =>
      rw [seen_append, List.count_append, ih, seen_cons, seen_nil, List.append_nil]
      exact State.count_close (State.move_of_step hstep)

theorem quiet_of_closed {pre post : Log}
    (hpre : Run State.step (State.fresh ctx cancelled) pre s) (hclosed : s.phase.closed = true)
    (hpost : Run State.step s post t) : ∀ a ∈ seen post, a.isCall = false := by
  have hquiet : t.phase.closed = true ∧ ∀ a ∈ seen post, a.isCall = false := by
    induction hpost with
    | nil => exact ⟨hclosed, by simp⟩
    | snoc hbefore hstep ih =>
        have hrun := hpre.trans hbefore
        have hlast := (sound_of_run hrun).closed_move ih.1 (State.move_of_step hstep)
          (channels_sound hrun)
        refine ⟨hlast.1, ?_⟩
        intro a ha
        rw [seen_append, List.mem_append] at ha
        rcases ha with ha | ha
        · exact ih.2 a ha
        · exact hlast.2 a (by simpa using ha)
  exact hquiet.2

theorem countP_ends_of_early {events : List Channel.Event} (hearly : ∀ e ∈ events, isEarly e)
    (op : Channel.Operation) : events.countP op.ends = 0 := by
  rw [List.countP_eq_zero]
  intro e he
  have hkind := hearly e he
  cases e <;> cases hkind <;> cases op <;> simp [Channel.Operation.ends]

theorem countP_begins_of_forgo {acts : List Channel.Act} (hforgo : ∀ a ∈ acts, ∃ i, a = .forgo i)
    (op : Channel.Operation) : acts.countP op.begins = 0 := by
  apply Channel.Operation.countP_begins
  intro a ha
  obtain ⟨i, rfl⟩ := hforgo a ha
  rfl

/-- What has happened to a channel is what has happened to its attempt since it was accepted. -/
theorem countP_ends_own {before : List Channel.Event} {own : Channel.Log}
    (hbefore : ∀ e ∈ before, isEarly e) (op : Channel.Operation) :
    (before ++ (own.map (·.event)).filter (!isCancel ·)).countP op.ends =
      own.countP fun τ => op.ends τ.event := by
  have hcancel : ∀ e, (op.ends e && !isCancel e) = op.ends e := by
    intro e
    cases op <;> cases e <;> rfl
  rw [List.countP_append, countP_ends_of_early hbefore, List.countP_filter, List.countP_map,
    Nat.zero_add]
  simp only [Function.comp_def, hcancel]

theorem Traced.balance {n : Nat} {h : Channel.Handler}
    (htraced : Traced ctx n log (some (.serving h))) (op : Channel.Operation) :
    (actsOn n (seen log)).countP op.begins =
      h.pending op + (eventsOn n log).countP op.ends := by
  cases htraced with
  | waiting hattempt _ _ _ _ => cases hattempt
  | @serving _ forwardOpen requests ended own before _ hrun hacts hbefore hevents _ =>
      have hstart : (Channel.Handler.opened ctx (tableFor forwardOpen) forwardOpen false requests
          ended).Sound := Channel.Handler.sound_opened (tableFor_orderly forwardOpen) _ _ _ _
      have hnone : (Channel.Handler.opened ctx (tableFor forwardOpen) forwardOpen false requests
          ended).pending op = 0 := by cases op <;> rfl
      have hbalance := hrun.balance hstart Channel.Handler.Sound.step
        fun hsound hstep => hsound.balance op (Channel.Handler.move_of_step hstep)
      rw [hnone, Nat.zero_add] at hbalance
      rw [hacts, hevents, countP_ends_own hbefore, hbalance]

/-- When an attempt has come to its end, everything that has begun on its channel has ended, and if
the channel could be set up, its stream has been closed once. -/
theorem Traced.of_finished {n : Nat} {stage : Option Stage} (htraced : Traced ctx n log stage)
    (hfinished : ∀ after, stage = some after → after.finished = true) :
    (∀ op : Channel.Operation,
      (actsOn n (seen log)).countP op.begins = (eventsOn n log).countP op.ends) ∧
    (actsOn n (seen log)).countP Channel.Operation.close.begins =
      if Terminal.SizeQueue.maxCapacity < ctx.config.queueCapacity.toNat then 0
      else opens n log := by
  cases htraced with
  | absent hacts hevents hopens =>
      rw [hacts, hevents, hopens]
      exact ⟨fun _ => rfl, by simp⟩
  | @waiting stage _ hattempt _ _ _ _ =>
      have hdone := hfinished stage rfl
      rw [Stage.not_finished hattempt] at hdone
      cases hdone
  | ended hacts hevents hopens =>
      refine ⟨fun op => ?_, ?_⟩
      · rw [countP_begins_of_forgo hacts, countP_ends_of_early hevents]
      · rw [countP_begins_of_forgo hacts, hopens]
        simp
  | crashed hcapacity hacts hevents hopens =>
      refine ⟨fun op => ?_, ?_⟩
      · rw [countP_begins_of_forgo hacts, countP_ends_of_early hevents]
      · rw [countP_begins_of_forgo hacts, if_pos hcapacity]
  | @serving h forwardOpen requests ended own before hcapacity hrun hacts hbefore hevents hopens =>
      have hphase : h.phase = .closed := by simpa [Stage.finished] using hfinished _ rfl
      have htraced : Traced ctx n log (some (.serving h)) :=
        .serving hcapacity hrun hacts hbefore hevents hopens
      refine ⟨fun op => ?_, ?_⟩
      · rw [htraced.balance op, htraced.sound.pending_of_closed hphase, Nat.zero_add]
      · rw [hacts, Channel.Handler.countP_close_of_run hrun rfl, hphase, if_neg hcapacity, hopens]
        rfl

theorem Traced.opens_le {n : Nat} {stage : Option Stage} (htraced : Traced ctx n log stage) :
    opens n log ≤ 1 := by
  cases htraced with
  | absent _ _ hopens | waiting _ _ _ _ hopens | ended _ _ hopens => omega
  | crashed _ _ _ hopens | serving _ _ _ _ _ hopens => omega

/-- How a connection ends. It is closed at most once. When it is, every attempt has come to its end;
the stream of every attempt that was accepted has been closed once, unless its channel could not be
set up because the queue of sizes is to be larger than a queue can be; everything that was begun on
a channel has ended; the probing and the refusal of global requests have ended, and the token is
cancelled. Afterwards nothing is asked of anybody. A connection that has returned has been closed. -/
theorem closed_once_after_everything
    (hrun : Run State.step (State.fresh ctx cancelled) log s) :
    (seen log).count .closeConnection ≤ 1 ∧
    (∀ pre τ post, log = pre ++ τ :: post → .closeConnection ∈ τ.acts →
      τ.source.channels.all Stage.finished ∧
      (∀ n, (actsOn n (seen pre)).count .closeStream =
        if Terminal.SizeQueue.maxCapacity < ctx.config.queueCapacity.toNat then 0
        else opens n pre) ∧
      (∀ n, opens n pre ≤ 1) ∧
      (∀ n (op : Channel.Operation),
        (actsOn n (seen pre)).countP op.begins = (eventsOn n pre).countP op.ends) ∧
      τ.source.keepalive.ended ∧ τ.source.discard.stopped ∧ τ.source.cancelled ∧
      τ.acts.filter Act.isCall = [.closeConnection] ∧
      ∀ a ∈ seen post, a.isCall = false) ∧
    (s.phase = .returned → (seen log).count .closeConnection = 1) := by
  have hcount := count_close_of_run hrun
  refine ⟨?_, ?_, ?_⟩
  · rw [hcount]
    exact Bool.toNat_le _
  · rintro pre τ post rfl hclose
    obtain ⟨hpre, hstep, hpost⟩ := hrun.at_step
    have hmove := State.move_of_step hstep
    have hsound := sound_of_run hpre
    rcases State.closes_or_keeps hmove with ⟨hphase, hkeepalive, hdiscard, hacts, htarget⟩ | ⟨hnone, _⟩
    · -- The closing step is made in a phase for which the invariant says that all have finished.
      have hjoined : τ.source.phase.joined = true := by rw [hphase]; rfl
      have hfinished := hsound.finished hjoined
      have hattempt : ∀ n, Traced ctx n pre τ.source.channels[n]? ∧
          ∀ after, τ.source.channels[n]? = some after → after.finished = true := by
        intro n
        refine ⟨(traced_of_run hpre n).2, fun after hafter => ?_⟩
        exact List.all_eq_true.1 hfinished after (List.mem_of_getElem? hafter)
      refine ⟨hfinished, fun n => ?_, fun n => (hattempt n).1.opens_le, fun n op => ?_, hkeepalive,
        hdiscard, hsound.cancelled hjoined, ?_, ?_⟩
      · rw [← Channel.countP_closeStream]
        exact ((hattempt n).1.of_finished (hattempt n).2).2
      · exact ((hattempt n).1.of_finished (hattempt n).2).1 op
      · rw [hacts]
        simp only [State.crashReport]
        split <;> rfl
      · exact quiet_of_closed (hpre.snoc hstep) (by rw [htarget]; rfl) hpost
    · exact absurd hclose hnone
  · intro hphase
    rw [hcount, hphase]
    rfl

/-- A connection that is cancelled while a shell runs waits for the shell, closes its channel and is
closed then. -/
theorem closed_once_after_shell :
    ∃ log s, Run State.step (State.fresh ⟨⟨"team", "ada"⟩, .standard⟩ false) log s ∧
      opens 0 log = 1 ∧ (seen log).count .closeConnection = 1 := by
  have hcheck : ∃ log s, Run State.step (State.fresh ⟨⟨"team", "ada"⟩, .standard⟩ false) log s ∧
      opens 0 log = 1 ∧ s.phase = .returned :=
    exists_run_of_replay
      [.advance, .keepalive (.start ""), .provisioned (.ok ()), .openChannel "session" [], .takeOpen,
        .runOpen 0, .accepted 0 (.ok ()), .channel 0 .advance,
        .channel 0 (.arrive ⟨"shell", [], true⟩), .channel 0 .advance, .channel 0 (.run 0), .cancel,
        .channel 0 .advance, .channel 0 (.returned 0 (.ok ())), .channel 0 .advance,
        .channel 0 .streamClosed, .advance, .advance, .keepalive .stop, .discard .stop, .advance,
        .connectionClosed (.ok ())]
      (by decide +kernel)
  obtain ⟨log, s, hrun, hopen, hphase⟩ := hcheck
  exact ⟨log, s, hrun, hopen, (closed_once_after_everything hrun).2.2 hphase⟩

/-- With a queue of sizes that cannot be made, a connection is closed although the stream of a
channel that was accepted has not been closed. -/
theorem stream_left_open_of_large_queue :
    ∃ config, config.problem? = none ∧
      ∃ log s, Run State.step (State.fresh ⟨⟨"team", "ada"⟩, config⟩ false) log s ∧
        s.phase = .returned ∧ opens 0 log = 1 ∧ (actsOn 0 (seen log)).count .closeStream = 0 := by
  refine ⟨{ Config.standard with queueCapacity := 2305843009213693952 }, by decide +kernel, ?_⟩
  exact exists_run_of_replay
    [.advance, .keepalive (.start ""), .provisioned (.ok ()), .openChannel "session" [], .takeOpen,
      .runOpen 0, .accepted 0 (.ok ()), .cancel, .advance, .advance, .keepalive .stop,
      .discard .stop, .advance, .connectionClosed (.ok ())]
    (by decide +kernel)

end

end Connection

end SessionGateway
