import SessionGateway.Connection.Machine
import SessionGateway.Proofs.Channel.Cleanup

/-!
# The steps of a connection

`State.Move` lists everything that can happen to a connection, and `Stage.Step` what can happen to
one attempt to open a channel. By `move_of_step` every step of a connection is in the list.
-/

namespace SessionGateway.Connection

def Verdict.fault : Verdict → Option Wire.Error
  | .accept _ => none
  | .reject _ _ fault => fault

namespace Stage

/-- An attempt that has not come to an end and has no channel yet. -/
def attempt? : Stage → Option Attempt
  | .queued a | .ready a | .accepting a _ | .rejecting a _ => some a
  | .serving _ | .ended | .crashed => none

def setAttempt (a : Attempt) : Stage → Stage
  | .queued _ => .queued a
  | .ready _ => .ready a
  | .accepting _ forwardOpen => .accepting a forwardOpen
  | .rejecting _ fault => .rejecting a fault
  | stage => stage

/-- What happens to one attempt, and to the channel that it opens. -/
inductive Step (ctx : Context) (cancelled : Bool) (n : Nat) :
    Stage → Event → List Act → Stage → Prop
  | accept {a : Attempt} {forwardOpen : Option ForwardOpen} (hlive : cancelled = false)
      (hverdict : verdict a = .accept forwardOpen) :
      Step ctx cancelled n (.ready a) (.runOpen n) [.accept n] (.accepting a forwardOpen)
  | reject {a : Attempt} {reason : RejectionReason} {message : String} {fault : Option Wire.Error}
      (hlive : cancelled = false) (hverdict : verdict a = .reject reason message fault) :
      Step ctx cancelled n (.ready a) (.runOpen n) [.reject n reason message] (.rejecting a fault)
  | abandon {a : Attempt} (hcancel : cancelled = true) :
      Step ctx cancelled n (.ready a) (.runOpen n)
        (.drop n :: forgone n a ++ faultWarning (verdict a).fault) .ended
  | withdrawAccept {a : Attempt} {forwardOpen : Option ForwardOpen} (hcancel : cancelled = true) :
      Step ctx cancelled n (.accepting a forwardOpen) (.runOpen n) (.withdraw n :: forgone n a)
        .ended
  | withdrawReject {a : Attempt} {fault : Option Wire.Error} (hcancel : cancelled = true) :
      Step ctx cancelled n (.rejecting a fault) (.runOpen n)
        (.withdraw n :: forgone n a ++ faultWarning fault) .ended
  | serve {a : Attempt} {forwardOpen : Option ForwardOpen} (hlive : cancelled = false)
      (hcapacity : ¬ Terminal.SizeQueue.maxCapacity < ctx.config.queueCapacity.toNat) :
      Step ctx cancelled n (.accepting a forwardOpen) (.accepted n (.ok ())) []
        (.serving { Channel.Handler.accepted ctx (tableFor forwardOpen) forwardOpen false with
          inbox := a.requests })
  | crash {a : Attempt} {forwardOpen : Option ForwardOpen} (hlive : cancelled = false)
      (hcapacity : Terminal.SizeQueue.maxCapacity < ctx.config.queueCapacity.toNat) :
      Step ctx cancelled n (.accepting a forwardOpen) (.accepted n (.ok ())) (forgone n a) .crashed
  | acceptFails {a : Attempt} {forwardOpen : Option ForwardOpen} {c : Cause}
      (hlive : cancelled = false) :
      Step ctx cancelled n (.accepting a forwardOpen) (.accepted n (.error c))
        (forgone n a ++ [failed (.accept c)]) .ended
  | rejected {a : Attempt} {fault : Option Wire.Error} (hlive : cancelled = false) :
      Step ctx cancelled n (.rejecting a fault) (.rejected n (.ok ()))
        (forgone n a ++ faultWarning fault) .ended
  | rejectFails {a : Attempt} {fault : Option Wire.Error} {c : Cause} (hlive : cancelled = false) :
      Step ctx cancelled n (.rejecting a fault) (.rejected n (.error c))
        (forgone n a ++ [failed (.reject c)]) .ended
  | early {stage : Stage} {a b : Attempt} {e : Channel.Event} (hattempt : stage.attempt? = some a)
      (hearly : State.arriveEarly a e = some b) :
      Step ctx cancelled n stage (.channel n e) [] (stage.setAttempt b)
  | work {h t : Channel.Handler} {e : Channel.Event} {acts : List Channel.Act}
      (hown : e ≠ .cancel) (hstep : h.step ctx e = some (t, acts)) :
      Step ctx cancelled n (.serving h) (.channel n e) (acts.map (.channel n)) (.serving t)

end Stage

namespace State

/-- When a connection stops taking attempts, and what is recorded of it. -/
inductive Leaves (s : State) : Event → List Act → Prop
  | early (hphase : s.phase = .ready) (hcancel : s.cancelled = true) : Leaves s .advance []
  | giveUpPod (hphase : s.phase = .provisioning) (hcancel : s.cancelled = true) :
      Leaves s .advance [.giveUpPod]
  | noPod {c : Cause} (hphase : s.phase = .provisioning) :
      Leaves s (.provisioned (.error c)) (if s.cancelled then [] else
        [.error ("Resources for " ++ s.context.identity.text ++ " not ready: " ++ c.chain)])
  | done (hphase : s.phase = .accepting)
      (hend : s.cancelled = true ∨ (s.opensEnded = true ∧ s.channels.any Stage.isQueued = false)) :
      Leaves s .advance []

def exhausts (acts : List Keepalive.Act) : Bool :=
  acts.any fun | .exhausted _ => true | _ => false

inductive Move (s : State) : Event → List Act → State → Prop
  | elapse (ms : Nat) : Move s (.elapse ms) [] { s with clock := s.clock + ms }
  | cancel : Move s .cancel [] s.cancel
  | arrive (kind : String) (payload : Wire.Bytes) (hreceives : s.receivesOpens = true) :
      Move s (.openChannel kind payload) []
        { s with channels := s.channels ++ [.queued ⟨kind, payload, .fresh⟩] }
  | refuse (kind : String) (payload : Wire.Bytes) (hrefuses : s.receivesOpens = false) :
      Move s (.openChannel kind payload) [.drop s.channels.length]
        { s with channels := s.channels ++ [.ended] }
  | endOpens : Move s .endOpens [] { s with opensEnded := true }
  | globalRequest (r : GlobalRequest) :
      Move s (.globalRequest r) [] { s with discard := s.discard.arrive r }
  | endGlobals : Move s .endGlobals [] { s with discard := s.discard.finish }
  | provision (hphase : s.phase = .ready) (hlive : s.cancelled = false) :
      Move s .advance [.provision s.context.identity] { s with phase := .provisioning }
  | provisioned (hphase : s.phase = .provisioning) :
      Move s (.provisioned (.ok ())) [] { s with phase := .accepting }
  | leave {e : Event} {report : List Act} (hleaves : s.Leaves e report) :
      Move s e (report ++ s.leave.2) s.leave.1
  | join (hphase : s.phase = .draining) (hfinished : s.channels.all Stage.finished = true) :
      Move s .advance [] { s with phase := .stopping }.cancel
  | close (hphase : s.phase = .stopping) (hkeepalive : s.keepalive.ended = true)
      (hdiscard : s.discard.stopped = true) :
      Move s .advance (crashReport s.keepalive ++ [.closeConnection]) { s with phase := .closing }
  | takeOpen {n : Nat} {a : Attempt} (hphase : s.phase = .accepting)
      (hfirst : s.channels.findIdx? Stage.isQueued = some n)
      (hqueued : s.channels[n]? = some (.queued a)) :
      Move s .takeOpen [] (s.setStage n (.ready a))
  | attempt {n : Nat} {stage after : Stage} {e : Event} {acts : List Act}
      (hstage : s.channels[n]? = some stage)
      (hstep : stage.Step s.context s.cancelled n e acts after) :
      Move s e acts (s.setStage n after)
  | keepalive {e : Keepalive.Event} {k : Keepalive.State} {acts : List Keepalive.Act}
      (hphase : s.phase ≠ .ready) (hstep : s.keepalive.step s.cancelled s.clock e = some (k, acts)) :
      Move s (.keepalive e)
        ((if givesUpProbe s.keepalive e then [.giveUpProbe] else []) ++
          acts.map (probing k.settings.request))
        (if exhausts acts then { s with keepalive := k }.cancel else { s with keepalive := k })
  | discard {e : Discard.Event} {d : Discard.State} {acts : List Discard.Act}
      (hphase : s.phase ≠ .ready) (hstep : s.discard.step s.cancelled e = some (d, acts)) :
      Move s (.discard e) (acts.map .discard) { s with discard := d }
  | closed {outcome : Except Cause Unit} {report : List Act} (hphase : s.phase = .closing)
      (hreport : report = match outcome with
        | .ok () => []
        | .error c => [.warn ("Closing connection failed: " ++ c.chain)]) :
      Move s (.connectionClosed outcome) report { s with phase := .returned }

variable {s t : State} {acts : List Act}

theorem move_of_advance (hstep : s.advance? = some (t, acts)) : Move s .advance acts t := by
  unfold advance? at hstep
  split at hstep
  · rename_i hphase
    split at hstep
    · rename_i hcancel
      obtain ⟨rfl, rfl⟩ := Prod.mk.inj (Option.some.inj hstep)
      exact .leave (.early hphase hcancel)
    · rename_i hlive
      obtain ⟨rfl, rfl⟩ := Prod.mk.inj (Option.some.inj hstep)
      exact .provision hphase (by simpa using hlive)
  · rename_i hphase
    split at hstep
    · rename_i hcancel
      obtain ⟨rfl, rfl⟩ := Prod.mk.inj (Option.some.inj hstep)
      exact .leave (.giveUpPod hphase hcancel)
    · cases hstep
  · rename_i hphase
    split at hstep
    · rename_i hend
      obtain ⟨rfl, rfl⟩ := Prod.mk.inj (Option.some.inj hstep)
      exact .leave (.done hphase (by simpa using hend))
    · cases hstep
  · rename_i hphase
    split at hstep
    · rename_i hfinished
      obtain ⟨rfl, rfl⟩ := Prod.mk.inj (Option.some.inj hstep)
      exact .join hphase hfinished
    · cases hstep
  · rename_i hphase
    split at hstep
    · rename_i hended
      obtain ⟨rfl, rfl⟩ := Prod.mk.inj (Option.some.inj hstep)
      exact .close hphase hended.1 hended.2
    · cases hstep
  all_goals cases hstep

theorem move_of_takeOpen (hstep : s.takeOpen? = some (t, acts)) : Move s .takeOpen acts t := by
  unfold takeOpen? at hstep
  split at hstep
  · rename_i hphase
    split at hstep
    · rename_i n hfirst
      split at hstep
      · rename_i a hqueued
        obtain ⟨rfl, rfl⟩ := Prod.mk.inj (Option.some.inj hstep)
        exact .takeOpen hphase hfirst hqueued
      · cases hstep
    · cases hstep
  · cases hstep

theorem move_of_provisioned {outcome : Except Cause Unit}
    (hstep : s.provisioned? outcome = some (t, acts)) : Move s (.provisioned outcome) acts t := by
  unfold provisioned? at hstep
  split at hstep
  · rename_i hphase
    cases outcome with
    | ok _ =>
        obtain ⟨rfl, rfl⟩ := Prod.mk.inj (Option.some.inj hstep)
        exact .provisioned hphase
    | error c =>
        obtain ⟨rfl, rfl⟩ := Prod.mk.inj (Option.some.inj hstep)
        exact .leave (.noPod hphase)
  · cases hstep

theorem move_of_runOpen {n : Nat} (hstep : s.runOpen? n = some (t, acts)) :
    Move s (.runOpen n) acts t := by
  unfold runOpen? at hstep
  split at hstep
  · rename_i a hstage
    have hgone : s.cancelled = true → Move s (.runOpen n)
        (.drop n :: forgone n a ++ faultWarning (verdict a).fault) (s.setStage n .ended) :=
      fun hcancel => .attempt hstage (.abandon hcancel)
    cases hverdict : verdict a with
    | accept forwardOpen =>
        simp only [hverdict] at hstep
        split at hstep
        · rename_i hcancel
          obtain ⟨rfl, rfl⟩ := Prod.mk.inj (Option.some.inj hstep)
          rw [hverdict] at hgone
          simpa [Verdict.fault, faultWarning] using hgone hcancel
        · rename_i hlive
          obtain ⟨rfl, rfl⟩ := Prod.mk.inj (Option.some.inj hstep)
          exact .attempt hstage (.accept (by simpa using hlive) hverdict)
    | reject reason message fault =>
        simp only [hverdict] at hstep
        split at hstep
        · rename_i hcancel
          obtain ⟨rfl, rfl⟩ := Prod.mk.inj (Option.some.inj hstep)
          rw [hverdict] at hgone
          exact hgone hcancel
        · rename_i hlive
          obtain ⟨rfl, rfl⟩ := Prod.mk.inj (Option.some.inj hstep)
          exact .attempt hstage (.reject (by simpa using hlive) hverdict)
  · rename_i a forwardOpen hstage
    split at hstep
    · rename_i hcancel
      obtain ⟨rfl, rfl⟩ := Prod.mk.inj (Option.some.inj hstep)
      exact .attempt hstage (.withdrawAccept hcancel)
    · cases hstep
  · rename_i a fault hstage
    split at hstep
    · rename_i hcancel
      obtain ⟨rfl, rfl⟩ := Prod.mk.inj (Option.some.inj hstep)
      exact .attempt hstage (.withdrawReject hcancel)
    · cases hstep
  · cases hstep

theorem move_of_accepted {n : Nat} {outcome : Except Cause Unit}
    (hstep : s.accepted? n outcome = some (t, acts)) : Move s (.accepted n outcome) acts t := by
  unfold accepted? at hstep
  split at hstep
  · cases hstep
  · rename_i hlive
    have hopen : s.cancelled = false := by simpa using hlive
    split at hstep
    · rename_i a forwardOpen hstage
      cases outcome with
      | ok _ =>
          simp only at hstep
          split at hstep
          · rename_i hcapacity
            obtain ⟨rfl, rfl⟩ := Prod.mk.inj (Option.some.inj hstep)
            exact .attempt hstage (.crash hopen hcapacity)
          · rename_i hcapacity
            obtain ⟨rfl, rfl⟩ := Prod.mk.inj (Option.some.inj hstep)
            exact .attempt hstage (.serve hopen hcapacity)
      | error c =>
          obtain ⟨rfl, rfl⟩ := Prod.mk.inj (Option.some.inj hstep)
          exact .attempt hstage (.acceptFails hopen)
    · cases hstep

theorem move_of_rejected {n : Nat} {outcome : Except Cause Unit}
    (hstep : s.rejected? n outcome = some (t, acts)) : Move s (.rejected n outcome) acts t := by
  unfold rejected? at hstep
  split at hstep
  · cases hstep
  · rename_i hlive
    have hopen : s.cancelled = false := by simpa using hlive
    split at hstep
    · rename_i a fault hstage
      cases outcome with
      | ok _ =>
          obtain ⟨rfl, rfl⟩ := Prod.mk.inj (Option.some.inj hstep)
          exact .attempt hstage (.rejected hopen)
      | error c =>
          obtain ⟨rfl, rfl⟩ := Prod.mk.inj (Option.some.inj hstep)
          exact .attempt hstage (.rejectFails hopen)
    · cases hstep

theorem move_of_early {n : Nat} {stage : Stage} {a : Attempt} {e : Channel.Event}
    (hstage : s.channels[n]? = some stage) (hattempt : stage.attempt? = some a)
    (hstep : ((arriveEarly a e).map fun a => (s.setStage n (stage.setAttempt a), [])) =
      some (t, acts)) : Move s (.channel n e) acts t := by
  obtain ⟨b, hearly, heq⟩ := Option.map_eq_some_iff.1 hstep
  obtain ⟨rfl, rfl⟩ := Prod.mk.inj heq
  exact .attempt hstage (.early hattempt hearly)

theorem move_of_channel {n : Nat} {e : Channel.Event} (hstep : s.channel? n e = some (t, acts)) :
    Move s (.channel n e) acts t := by
  unfold channel? at hstep
  split at hstep
  · rename_i h hstage
    have hwork : e ≠ .cancel ∧ ∃ after own, h.step s.context e = some (after, own) ∧
        s.setStage n (.serving after) = t ∧ own.map (.channel n) = acts := by
      cases e with
      | cancel => cases hstep
      | _ =>
          obtain ⟨⟨after, own⟩, hown, heq⟩ := Option.map_eq_some_iff.1 hstep
          obtain ⟨ht, hacts⟩ := Prod.mk.inj heq
          exact ⟨by simp, after, own, hown, ht, hacts⟩
    obtain ⟨hown, after, own, hwork, rfl, rfl⟩ := hwork
    exact .attempt hstage (.work hown hwork)
  · rename_i a hstage
    exact move_of_early hstage rfl hstep
  · rename_i a hstage
    exact move_of_early hstage rfl hstep
  · rename_i a forwardOpen hstage
    exact move_of_early hstage rfl hstep
  · rename_i a fault hstage
    exact move_of_early hstage rfl hstep
  · cases hstep

theorem move_of_keepalive {e : Keepalive.Event} (hstep : s.keepalive? e = some (t, acts)) :
    Move s (.keepalive e) acts t := by
  unfold keepalive? at hstep
  split at hstep
  · cases hstep
  · rename_i hphase
    obtain ⟨⟨k, own⟩, hown, heq⟩ := Option.map_eq_some_iff.1 hstep
    obtain ⟨rfl, rfl⟩ := Prod.mk.inj heq
    exact .keepalive hphase hown

theorem move_of_discard {e : Discard.Event} (hstep : s.discard? e = some (t, acts)) :
    Move s (.discard e) acts t := by
  unfold discard? at hstep
  split at hstep
  · cases hstep
  · rename_i hphase
    obtain ⟨⟨d, own⟩, hown, heq⟩ := Option.map_eq_some_iff.1 hstep
    obtain ⟨rfl, rfl⟩ := Prod.mk.inj heq
    exact .discard hphase hown

theorem move_of_closed {outcome : Except Cause Unit} (hstep : s.closed? outcome = some (t, acts)) :
    Move s (.connectionClosed outcome) acts t := by
  unfold closed? at hstep
  split at hstep
  · rename_i hphase
    obtain ⟨rfl, rfl⟩ := Prod.mk.inj (Option.some.inj hstep)
    exact .closed hphase rfl
  · cases hstep

theorem move_of_arrive {kind : String} {payload : Wire.Bytes}
    (hstep : s.arrive kind payload = (t, acts)) : Move s (.openChannel kind payload) acts t := by
  unfold arrive at hstep
  split at hstep
  · rename_i hreceives
    obtain ⟨rfl, rfl⟩ := Prod.mk.inj hstep
    exact .arrive kind payload hreceives
  · rename_i hrefuses
    obtain ⟨rfl, rfl⟩ := Prod.mk.inj hstep
    exact .refuse kind payload (by simpa using hrefuses)

theorem move_of_step {e : Event} (hstep : s.step e = some (t, acts)) : Move s e acts t := by
  cases e with
  | elapse ms =>
      obtain ⟨rfl, rfl⟩ := Prod.mk.inj (Option.some.inj hstep)
      exact .elapse ms
  | cancel =>
      obtain ⟨rfl, rfl⟩ := Prod.mk.inj (Option.some.inj hstep)
      exact .cancel
  | openChannel kind payload => exact move_of_arrive (Option.some.inj hstep)
  | endOpens =>
      obtain ⟨rfl, rfl⟩ := Prod.mk.inj (Option.some.inj hstep)
      exact .endOpens
  | globalRequest r =>
      obtain ⟨rfl, rfl⟩ := Prod.mk.inj (Option.some.inj hstep)
      exact .globalRequest r
  | endGlobals =>
      obtain ⟨rfl, rfl⟩ := Prod.mk.inj (Option.some.inj hstep)
      exact .endGlobals
  | advance => exact move_of_advance hstep
  | takeOpen => exact move_of_takeOpen hstep
  | provisioned outcome => exact move_of_provisioned hstep
  | runOpen n => exact move_of_runOpen hstep
  | accepted n outcome => exact move_of_accepted hstep
  | rejected n outcome => exact move_of_rejected hstep
  | channel n e => exact move_of_channel hstep
  | keepalive e => exact move_of_keepalive hstep
  | discard e => exact move_of_discard hstep
  | connectionClosed outcome => exact move_of_closed hstep

theorem step_of_attempt {n : Nat} {stage after : Stage} {e : Event}
    (hstage : s.channels[n]? = some stage)
    (hstep : stage.Step s.context s.cancelled n e acts after) :
    s.step e = some (s.setStage n after, acts) := by
  cases hstep with
  | accept hlive hverdict | reject hlive hverdict =>
      simp [step, runOpen?, hstage, hverdict, hlive]
  | @abandon a hcancel =>
      cases hverdict : verdict a <;>
        simp [step, runOpen?, hstage, hverdict, hcancel, Verdict.fault, faultWarning]
  | withdrawAccept hcancel | withdrawReject hcancel => simp [step, runOpen?, hstage, hcancel]
  | serve hlive hcapacity | crash hlive hcapacity =>
      simp [step, accepted?, hstage, hlive, hcapacity]
  | acceptFails hlive => simp [step, accepted?, hstage, hlive]
  | rejected hlive | rejectFails hlive => simp [step, rejected?, hstage, hlive]
  | early hattempt hearly =>
      cases stage with
      | queued _ | ready _ | accepting _ _ | rejecting _ _ =>
          obtain rfl := Option.some.inj hattempt
          simp [step, channel?, hstage, hearly, Stage.setAttempt]
      | _ => cases hattempt
  | @work h t e own hown hwork =>
      cases e with
      | cancel => exact absurd rfl hown
      | _ => simp [step, channel?, hstage, hwork]

/-- The list holds nothing that cannot happen. -/
theorem step_of_move {e : Event} (hmove : Move s e acts t) : s.step e = some (t, acts) := by
  cases hmove with
  | elapse _ | cancel | endOpens | globalRequest _ | endGlobals => rfl
  | arrive kind payload hreceives => simp [step, State.arrive, hreceives]
  | refuse kind payload hrefuses => simp [step, State.arrive, hrefuses]
  | provision hphase hlive => simp [step, advance?, hphase, hlive]
  | provisioned hphase => simp [step, provisioned?, hphase]
  | leave hleaves =>
      cases hleaves with
      | early hphase hcancel | giveUpPod hphase hcancel => simp [step, advance?, hphase, hcancel]
      | noPod hphase => simp [step, provisioned?, hphase]
      | done hphase hend =>
          have hleave : s.cancelled ∨ (s.opensEnded ∧ !s.channels.any Stage.isQueued) := by
            simpa using hend
          simp only [step, advance?, hphase]
          rw [if_pos hleave]
          rfl
  | join hphase hfinished =>
      simp only [step, advance?, hphase]
      rw [if_pos hfinished]
  | close hphase hkeepalive hdiscard => simp [step, advance?, hphase, hkeepalive, hdiscard]
  | takeOpen hphase hfirst hqueued => simp [step, takeOpen?, hphase, hfirst, hqueued]
  | attempt hstage hstep => exact step_of_attempt hstage hstep
  | keepalive hphase hstep =>
      simp only [step, keepalive?, hphase, if_false, hstep, Option.map_some]
      rfl
  | discard hphase hstep => simp [step, discard?, hphase, hstep]
  | @closed outcome report hphase hreport =>
      subst hreport
      cases outcome <;> simp [step, closed?, hphase]

end State

end SessionGateway.Connection
