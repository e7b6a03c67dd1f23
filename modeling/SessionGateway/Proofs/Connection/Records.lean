import SessionGateway.Proofs.Channel.Records
import SessionGateway.Proofs.Connection.Origin
import SessionGateway.Proofs.Connection.Readiness
import SessionGateway.Proofs.Connection.Watched

/-!
# The records of a connection

A connection records a warning or an error for every incident, and for nothing else. An incident is
something that goes wrong on a channel, an attempt whose task ends in an error, a pod that cannot be
made ready, a peer that is given up, or a connection that cannot be closed. Which incident comes about
with a step can be told from what happens and from the steps before it. That the token is cancelled is
none, and once it is cancelled only those incidents come about that have nothing to do with the token:
among them the error of an attempt with a malformed payload, whose task does not end any more with its
rejection but with the cancellation. The panic of a task is not among the incidents.
-/

namespace SessionGateway

/-- How many probes have failed in a row when an event makes them too many. -/
def Keepalive.State.exhausted? (k : Keepalive.State) : Keepalive.Event → Option UInt32
  | .probed false | .expire =>
    if k.settings.maxRetries < k.failures + 1 then some (k.failures + 1) else none
  | _ => none

namespace Keepalive

variable {k l : State} {cancelled : Bool} {now : Nat} {e : Event} {acts : List Act}

theorem gives_of_settle (due : Nat) (alive : Bool) (failures : UInt32) :
    (k.exhausted? (.probed alive) = some failures →
      (k.settle due alive).2 = [.exhausted failures] ∧ (k.settle due alive).1.phase = .stopped) ∧
    (.exhausted failures ∈ (k.settle due alive).2 → k.exhausted? (.probed alive) = some failures) := by
  cases alive with
  | true => simp [State.exhausted?, State.settle]
  | false =>
      by_cases hmore : k.settings.maxRetries < k.failures + 1 <;>
        simp [State.exhausted?, State.settle, hmore, eq_comm]

/-- The probing gives up with the probe whose failure is one too many. -/
theorem gives_of_step (hstep : k.step cancelled now e = some (l, acts)) (failures : UInt32) :
    (k.exhausted? e = some failures → acts = [.exhausted failures] ∧ l.phase = .stopped) ∧
      (.exhausted failures ∈ acts → k.exhausted? e = some failures) := by
  cases State.move_of_step hstep with
  | @answer due _ _ alive => exact gives_of_settle due alive failures
  | @expire due _ _ _ => exact gives_of_settle due false failures
  | _ => simp [State.exhausted?]

end Keepalive

namespace Connection

def Act.isRecord : Act → Bool
  | .warn _ | .error _ => true
  | .channel _ a => a.isWarning
  | _ => false

def records (acts : List Act) : List Act :=
  acts.filter Act.isRecord

/-- What a connection keeps a record of. -/
inductive Incident where
  | channel (n : Nat) (trouble : Channel.Trouble)
  /-- The task of an attempt has ended in an error, and no channel was served. -/
  | unopened (n : Nat) (e : Channel.Error)
  | noPod (c : Cause)
  /-- This many probes in a row have failed, which are too many. -/
  | exhausted (failures : UInt32)
  | notClosed (c : Cause)
  deriving DecidableEq, Repr

/-- What can come to a bad end once. -/
inductive Subject where
  | attempt (n : Nat)
  | pod
  | probing
  | closing
  deriving DecidableEq, Repr

namespace Incident

def record (who : Identity) : Incident → Act
  | .channel n trouble => .channel n (.warn trouble.text)
  | .unopened _ e => failed e
  | .noPod c => .error ("Resources for " ++ who.text ++ " not ready: " ++ c.chain)
  | .exhausted failures => .warn (Keepalive.exhaustedWarning failures)
  | .notClosed c => .warn ("Closing connection failed: " ++ c.chain)

def subject? : Incident → Option Subject
  | .channel _ _ => none
  | .unopened n _ => some (.attempt n)
  | .noPod _ => some .pod
  | .exhausted _ => some .probing
  | .notClosed _ => some .closing

/-- Whether an incident comes about no matter whether the token is cancelled: the payload of an
attempt is malformed, the peer does not answer, or the connection cannot be closed. -/
def outlasts : Incident → Bool
  | .unopened _ (.wire _) | .exhausted _ | .notClosed _ => true
  | _ => false

end Incident

/-- What is wrong with the payload of an attempt to open a forward. -/
def Attempt.malformed? (a : Attempt) : Option Wire.Error :=
  if a.kind = "direct-tcpip" then
    match ForwardOpen.decode a.payload with
    | .ok _ => none
    | .error e => some e
  else none

def malformed? (pre : Log) (n : Nat) : Option Wire.Error :=
  ((attempted (pre.map (·.event)))[n]?).bind Attempt.malformed?

def State.takes? (s : State) (n : Nat) (e : Event) : Option ChannelRequest :=
  match s.channels[n]? with
  | some (.serving h) => (e.on? n).bind h.takes?
  | _ => none

/-- The requests that have been taken on the channel of an attempt, in the order in which they
were. -/
def takenOn (n : Nat) (log : Log) : List ChannelRequest :=
  log.filterMap fun τ => τ.source.takes? n τ.event

/-- What goes wrong with a step after the steps `pre`. An attempt with a malformed payload ends in an
error when it has been rejected, or is given up because the token is cancelled. -/
def incident? (pre : Log) (τ : Transition State Event Act) : Option Incident :=
  match τ.event with
  | .provisioned (.error c) => if τ.source.cancelled then none else some (.noPod c)
  | .runOpen n =>
    if τ.source.cancelled then (malformed? pre n).map fun e => .unopened n (.wire e) else none
  | .accepted n (.error c) => some (.unopened n (.accept c))
  | .rejected n (.ok ()) => (malformed? pre n).map fun e => .unopened n (.wire e)
  | .rejected n (.error c) => some (.unopened n (.reject c))
  | .channel n e =>
    match τ.source.channels[n]? with
    | some (.serving h) =>
      (h.trouble? τ.source.context.config (takenOn n pre) e).map (.channel n)
    | _ => none
  | .keepalive e => (τ.source.keepalive.exhausted? e).map .exhausted
  | .connectionClosed (.error c) => some (.notClosed c)
  | _ => none

def incidentsAfter (pre : Log) : Log → List Incident
  | [] => []
  | τ :: rest => (incident? pre τ).toList ++ incidentsAfter (pre ++ [τ]) rest

def incidents (log : Log) : List Incident :=
  incidentsAfter [] log

section

variable (acts rest : List Act) (a : Act)

@[simp] theorem records_nil : records [] = [] := rfl

@[simp] theorem records_append : records (acts ++ rest) = records acts ++ records rest := by
  simp [records]

@[simp] theorem records_cons :
    records (a :: rest) = (if a.isRecord then [a] else []) ++ records rest := by
  cases h : a.isRecord <;> simp [records, h]

theorem records_eq_nil {acts : List Act} (h : ∀ a ∈ acts, a.isRecord = false) :
    records acts = [] := by
  rw [records, List.filter_eq_nil_iff]
  intro a ha
  simp [h a ha]

theorem records_map_channel (n : Nat) (own : List Channel.Act) :
    records (own.map (.channel n)) = (Channel.warnings own).map (.channel n) := by
  rw [records, Channel.warnings, List.filter_map]
  rfl

theorem records_forgone (n : Nat) (b : Attempt) : records (forgone n b) = [] := by
  rw [forgone, records_map_channel, Channel.Handler.warnings_forgoFrom, List.map_nil]

theorem records_faultWarning (fault : Option Wire.Error) :
    records (faultWarning fault) = fault.toList.map fun e => failed (.wire e) := by
  cases fault <;> rfl

theorem incidentsAfter_append (pre first second : Log) :
    incidentsAfter pre (first ++ second) =
      incidentsAfter pre first ++ incidentsAfter (pre ++ first) second := by
  induction first generalizing pre with
  | nil => simp [incidentsAfter]
  | cons τ rest ih => simp [incidentsAfter, ih]

theorem incidents_snoc (log : Log) (τ : Transition State Event Act) :
    incidents (log ++ [τ]) = incidents log ++ (incident? log τ).toList := by
  simp [incidents, incidentsAfter_append, incidentsAfter]

theorem takenOn_snoc (n : Nat) (log : Log) (τ : Transition State Event Act) :
    takenOn n (log ++ [τ]) = takenOn n log ++ (τ.source.takes? n τ.event).toList := by
  cases h : τ.source.takes? n τ.event <;> simp [takenOn, h]

end

/-! ## The payloads of attempts -/

namespace Stage

/-- What is known of the payload of an attempt that waits for its answer. -/
def fault? : Stage → Option Wire.Error
  | .queued a | .ready a => a.malformed?
  | .rejecting _ fault => fault
  | _ => none

/-- What is known of the payload of an attempt is what is wrong with it. -/
def Judged (stage : Stage) : Prop :=
  ∀ a, stage.attempt? = some a → stage.fault? = a.malformed?

end Stage

theorem fault_verdict (a : Attempt) : (verdict a).fault = a.malformed? := by
  unfold verdict Attempt.malformed? ChannelKind.ofName
  by_cases hsession : a.kind = "session"
  · simp [hsession, Verdict.fault]
  · by_cases hforward : a.kind = "direct-tcpip"
    · simp only [hforward, if_true]
      cases ForwardOpen.decode a.payload <;> rfl
    · simp [hsession, hforward, Verdict.fault]

theorem Attempt.malformed_congr {a b : Attempt} (hkind : a.kind = b.kind)
    (hpayload : a.payload = b.payload) : a.malformed? = b.malformed? := by
  unfold malformed?
  rw [hkind, hpayload]

section

variable {ctx : Context} {cancelled : Bool} {n : Nat} {stage after : Stage} {e : Event}
  {acts : List Act} {log : Log} {s : State}

theorem arriveEarly_malformed {a b : Attempt} {own : Channel.Event}
    (hearly : State.arriveEarly a own = some b) : b.malformed? = a.malformed? := by
  cases own with
  | arrive _ | hangUp =>
      obtain rfl := Option.some.inj hearly
      exact Attempt.malformed_congr rfl rfl
  | _ => cases hearly

theorem Stage.Judged.own (hjudged : stage.Judged)
    (hstep : stage.Step ctx cancelled n e acts after) : after.Judged := by
  intro b hb
  cases hstep with
  | @accept a _ _ hverdict | @reject a _ _ _ _ hverdict =>
      obtain rfl := Option.some.inj hb
      rw [← fault_verdict, hverdict]
      rfl
  | @early _ a c own hattempt hearly =>
      obtain rfl := Option.some.inj ((Stage.attempt_setAttempt c hattempt).symm.trans hb)
      have hknown := hjudged a hattempt
      rw [← arriveEarly_malformed hearly] at hknown
      cases stage with
      | queued _ | ready _ => rfl
      | accepting _ _ | rejecting _ _ => exact hknown
      | _ => cases hattempt
  | _ => cases hb

theorem judged_of_run (hrun : Run State.step (State.fresh ctx cancelled) log s)
    (hstage : s.channels[n]? = some stage) : stage.Judged := by
  induction hrun generalizing stage with
  | nil => simp [State.fresh] at hstage
  | @snoc log s t e acts hbefore hstep ih =>
      have hchange := State.change_of_move (State.move_of_step hstep) n
      rw [hstage] at hchange
      generalize hbefore : s.channels[n]? = before at hchange
      cases hchange with
      | keep _ _ _ => exact ih hbefore
      | arrive | takeOpen =>
          intro a ha
          obtain rfl := Option.some.inj ha
          rfl
      | own hstep => exact (ih hbefore).own hstep
      | refuse | drop _ _ _ | cancel _ _ _ =>
          intro a ha
          cases ha

/-- What is known of the payload of an attempt that waits for its answer is what is wrong with the
payload that the peer has sent. -/
theorem fault_of_run (hrun : Run State.step (State.fresh ctx cancelled) log s) {a : Attempt}
    (hstage : s.channels[n]? = some stage) (hattempt : stage.attempt? = some a) :
    stage.fault? = malformed? log n := by
  have hlength := length_of_run hrun
  have hlt : n < (attempted (log.map (·.event))).length := by
    rw [← hlength]
    exact (List.getElem?_eq_some_iff.1 hstage).1
  have hrooted := (confined_of_run hrun n).1 stage _ hstage (List.getElem?_eq_getElem hlt)
  have hmatches := hrooted.of_attempt hattempt
  rw [judged_of_run hrun hstage a hattempt, malformed?, List.getElem?_eq_getElem hlt,
    Attempt.malformed_congr hmatches.kind hmatches.payload]
  rfl

/-! ## The channels -/

/-- A channel is in a state that a run of its own leads to, with the requests that have been taken on
the connection; before an attempt becomes a channel, none are. -/
def Tracks (ctx : Context) (taken : List ChannelRequest) : Option Stage → Prop
  | some (.serving h) => ∃ forwardOpen early ended own,
      Run (Channel.Handler.step ctx)
        (Channel.Handler.opened ctx (tableFor forwardOpen) forwardOpen false early ended) own h ∧
      Channel.processed own = taken
  | _ => taken = []

theorem Tracks.step {h t : Channel.Handler} {own : Channel.Event} {owns : List Channel.Act}
    {taken : List ChannelRequest} (htracks : Tracks ctx taken (some (.serving h)))
    (hstep : h.step ctx own = some (t, owns)) :
    Tracks ctx (taken ++ (h.takes? own).toList) (some (.serving t)) := by
  obtain ⟨forwardOpen, early, ended, log, hrun, rfl⟩ := htracks
  exact ⟨forwardOpen, early, ended, _, hrun.snoc hstep, by simp⟩

theorem State.takes_of_other (hevent : e.on? n = none) : s.takes? n e = none := by
  unfold takes?
  split
  · rw [hevent]
    rfl
  · rfl

theorem Tracks.own (htraced : Traced ctx n log (some stage))
    (htracks : Tracks ctx (takenOn n log) (some stage)) (hstage : s.channels[n]? = some stage)
    (hstep : stage.Step ctx cancelled n e acts after) :
    Tracks ctx (takenOn n log ++ (s.takes? n e).toList) (some after) := by
  cases hstep with
  | @serve a forwardOpen _ _ =>
      cases htraced with
      | waiting hattempt hinbox _ _ _ =>
          obtain rfl := Option.some.inj hattempt
          have hnone : takenOn n log = [] := htracks
          rw [opened_of_requests forwardOpen hinbox, State.takes_of_other rfl, hnone]
          exact ⟨forwardOpen, _, _, [], .nil, rfl⟩
  | @early _ a b own hattempt _ =>
      have hwaits : s.takes? n (.channel n own) = none := by
        rw [State.takes?, hstage]
        cases stage <;> first | rfl | cases hattempt
      rw [hwaits, Option.toList_none, List.append_nil]
      cases stage <;> exact htracks
  | @work h t own _ _ hwork =>
      have htakes : s.takes? n (.channel n own) = h.takes? own := by
        simp [State.takes?, hstage, Event.on?]
      rw [htakes]
      exact htracks.step hwork
  | _ =>
      rw [State.takes_of_other rfl, Option.toList_none, List.append_nil]
      exact htracks

/-- The runs of the channels go with what is taken on the connection. -/
theorem tracks_of_run (hrun : Run State.step (State.fresh ctx cancelled) log s) (n : Nat) :
    Tracks ctx (takenOn n log) s.channels[n]? := by
  induction hrun with
  | nil => rfl
  | @snoc log s t e acts hbefore hstep ih =>
      have hchange := State.change_of_move (State.move_of_step hstep) n
      obtain ⟨hcontext, htraced⟩ := traced_of_run hbefore n
      rw [hcontext] at hchange
      rw [takenOn_snoc]
      generalize hstage : s.channels[n]? = before at hchange ih htraced
      generalize t.channels[n]? = after at hchange
      cases hchange with
      | keep hevent _ _ =>
          rw [State.takes_of_other hevent, Option.toList_none, List.append_nil]
          exact ih
      | arrive | refuse | takeOpen =>
          rw [State.takes_of_other rfl, Option.toList_none, List.append_nil]
          exact ih
      | drop hevent _ _ =>
          rw [State.takes_of_other hevent, Option.toList_none, List.append_nil]
          exact ih
      | own hown => exact ih.own htraced hstage hown
      | @cancel _ _ h hevent _ _ =>
          have hown : h.step ctx .cancel = some (h.mapScratch Channel.Scratch.close, []) := rfl
          rw [State.takes_of_other hevent]
          exact ih.step hown

/-! ## What one step records -/

theorem records_of_keepalive {k l : Keepalive.State} {now : Nat} {own : Keepalive.Event}
    {owns : List Keepalive.Act} (request : String)
    (hstep : k.step cancelled now own = some (l, owns)) :
    records (owns.map (State.probing request)) =
      (k.exhausted? own).toList.map fun failures => .warn (Keepalive.exhaustedWarning failures) := by
  have hgives := Keepalive.gives_of_step hstep
  cases hexhausted : k.exhausted? own with
  | some failures =>
      rw [((hgives failures).1 hexhausted).1]
      rfl
  | none =>
      apply records_eq_nil
      intro a ha
      obtain ⟨act, hact, rfl⟩ := List.mem_map.1 ha
      cases act with
      | probe => rfl
      | exhausted failures =>
          rw [(hgives failures).2 hact] at hexhausted
          cases hexhausted

/-- What is recorded of an attempt is what goes wrong with it. -/
theorem records_of_attempt {t : State} (who : Identity) (hstage : s.channels[n]? = some stage)
    (hfault : ∀ a, stage.attempt? = some a → stage.fault? = malformed? log n)
    (htracks : Tracks s.context (takenOn n log) (some stage))
    (hstep : stage.Step s.context s.cancelled n e acts after) :
    records acts = (incident? log ⟨s, e, acts, t⟩).toList.map (Incident.record who) := by
  have hdestroyed : ∀ (a : Attempt) (fault : Option Wire.Error), fault = malformed? log n →
      records (forgone n a ++ faultWarning fault) =
        ((malformed? log n).map fun e => Incident.unopened n (.wire e)).toList.map
          (Incident.record who) := by
    rintro a fault rfl
    rw [records_append, records_forgone, records_faultWarning, List.nil_append]
    cases malformed? log n <;> rfl
  cases hstep with
  | accept hlive _ | reject hlive _ => simp [incident?, hlive, Act.isRecord]
  | @abandon a hcancel =>
      have hown := hdestroyed a (verdict a).fault ((fault_verdict a).trans (hfault a rfl))
      simpa [incident?, hcancel, Act.isRecord] using hown
  | @withdrawAccept a _ hcancel =>
      have hown := hdestroyed a none (hfault a rfl)
      simpa [incident?, hcancel, Act.isRecord, faultWarning] using hown
  | @withdrawReject a fault hcancel =>
      have hown := hdestroyed a fault (hfault a rfl)
      simpa [incident?, hcancel, Act.isRecord] using hown
  | serve _ _ => rfl
  | crash _ _ => exact records_forgone n _
  | acceptFails _ | rejectFails _ =>
      rw [records_append, records_forgone]
      rfl
  | @rejected a fault _ => exact hdestroyed a fault (hfault a rfl)
  | @early _ a b own hattempt _ =>
      simp only [incident?, hstage]
      cases stage <;> first | rfl | cases hattempt
  | @work h t own acts _ hwork =>
      obtain ⟨forwardOpen, early, ended, runs, hrun, hprocessed⟩ := htracks
      have hwarnings := Channel.Handler.warnings_of_step hrun hwork
      rw [hprocessed] at hwarnings
      rw [records_map_channel, hwarnings]
      simp only [incident?, hstage]
      cases h.trouble? s.context.config (takenOn n log) own <;> rfl

/-- A step records what goes wrong with it, unless it finds that the probing has panicked. -/
theorem records_of_step (hrun : Run State.step (State.fresh ctx cancelled) log s) {t : State}
    (hsound : s.keepalive.crashed = false) (hstep : s.step e = some (t, acts)) :
    records acts =
      (incident? log ⟨s, e, acts, t⟩).toList.map (Incident.record ctx.identity) := by
  have hcontext := (traced_of_run hrun 0).1
  have hdropped : records s.leave.2 = [] := by
    apply records_eq_nil
    intro a ha
    rcases mem_dropQueued ha with ⟨m, rfl⟩ | ⟨m, i, rfl⟩ <;> rfl
  cases State.move_of_step hstep with
  | elapse _ | cancel | arrive _ _ _ | refuse _ _ _ | endOpens | globalRequest _ | endGlobals
  | provisioned _ | takeOpen _ _ _ => rfl
  | provision _ _ | join _ _ => rfl
  | leave hleaves =>
      rw [records_append, hdropped, List.append_nil]
      cases hleaves with
      | early _ _ | giveUpPod _ _ | done _ _ => rfl
      | noPod _ =>
          rw [hcontext]
          cases hcancel : s.cancelled <;> simp [incident?, hcancel, Act.isRecord, Incident.record]
  | close _ _ _ =>
      cases hphase : s.keepalive.phase with
      | crashed panic => simp [Keepalive.State.crashed, hphase] at hsound
      | _ => simp [incident?, hphase, State.crashReport, Act.isRecord]
  | @attempt n stage after _ _ hstage hown =>
      have htracks := tracks_of_run hrun n
      rw [hstage, ← hcontext] at htracks
      exact records_of_attempt ctx.identity hstage
        (fun a hattempt => fault_of_run hrun hstage hattempt) htracks hown
  | @keepalive own k owns _ hown =>
      rw [records_append, records_of_keepalive k.settings.request hown]
      cases hexhausted : s.keepalive.exhausted? own <;>
        cases hgives : State.givesUpProbe s.keepalive own <;>
        simp [incident?, hexhausted, Act.isRecord, Incident.record]
  | discard _ _ =>
      apply records_eq_nil
      simp [Act.isRecord]
  | @closed outcome report _ hreport =>
      rw [hreport]
      cases outcome <;> rfl

/-! ## What comes to a bad end only once -/

/-- What has come to its end, so that no incident comes of it any more. -/
def State.Spent (s : State) : Subject → Prop
  | .attempt n => s.channels[n]? = some .ended
  | .pod => s.phase.awaits = false
  | .probing => s.keepalive.phase = .stopped
  | .closing => s.phase = .returned

theorem Change.ended {before after : Option Stage}
    (hchange : Change ctx cancelled n e acts before after) (hbefore : before = some .ended) :
    after = some .ended := by
  cases hchange with
  | keep _ _ _ => exact hbefore
  | own hstep =>
      obtain rfl := Option.some.inj hbefore
      cases hstep with
      | early hattempt _ => cases hattempt
  | _ => cases hbefore

namespace State

variable {t : State}

theorem ended_of_spent (hspent : s.Spent .probing) : s.keepalive.ended = true := by
  have hphase : s.keepalive.phase = .stopped := hspent
  simp [Keepalive.State.ended, hphase]

theorem spent_of_move {x : Subject} (hmove : s.Move e acts t) (hspent : s.Spent x) : t.Spent x := by
  cases x with
  | attempt n => exact (change_of_move hmove n).ended hspent
  | pod =>
      have hnone : s.phase.awaits = false := hspent
      have hawaits := (phase_move hmove).2
      rw [hnone] at hawaits
      cases hlater : t.phase.awaits with
      | false => exact hlater
      | true => simp [hlater] at hawaits
  | probing =>
      have hkept : t.keepalive = s.keepalive := by
        refine (quiet_of_move hmove ?_).2
        rintro own rfl
        obtain ⟨k, owns, hstep, _⟩ := keepalive_of_move hmove
        rw [keepalive_ended (ended_of_spent hspent)] at hstep
        cases hstep
      simpa only [Spent, hkept] using hspent
  | closing =>
      have hphase : s.phase = .returned := hspent
      have hreturned := returned_of_move hmove
      rw [if_pos hphase] at hreturned
      by_contra hopen
      have hnot : t.phase ≠ .returned := hopen
      rw [if_neg hnot] at hreturned
      omega

theorem spends_of_attempt {i : Incident} {x : Subject} (hstage : s.channels[n]? = some stage)
    (hstep : stage.Step s.context s.cancelled n e acts after)
    (hincident : incident? log ⟨s, e, acts, t⟩ = some i) (hsubject : i.subject? = some x) :
    x = .attempt n ∧ (∃ a, stage.attempt? = some a) ∧ after = .ended := by
  cases hstep with
  | accept hlive _ | reject hlive _ => simp [incident?, hlive] at hincident
  | abandon hcancel | withdrawAccept hcancel | withdrawReject hcancel =>
      obtain ⟨w, _, rfl⟩ : ∃ w, malformed? log n = some w ∧ .unopened n (.wire w) = i := by
        simpa [incident?, hcancel] using hincident
      exact ⟨(Option.some.inj hsubject).symm, ⟨_, rfl⟩, rfl⟩
  | rejected _ =>
      obtain ⟨w, _, rfl⟩ : ∃ w, malformed? log n = some w ∧ .unopened n (.wire w) = i := by
        simpa [incident?] using hincident
      exact ⟨(Option.some.inj hsubject).symm, ⟨_, rfl⟩, rfl⟩
  | serve _ _ | crash _ _ => cases hincident
  | acceptFails _ | rejectFails _ =>
      obtain rfl := Option.some.inj hincident
      exact ⟨(Option.some.inj hsubject).symm, ⟨_, rfl⟩, rfl⟩
  | early hattempt _ =>
      simp only [incident?, hstage] at hincident
      cases stage <;> first | cases hincident | cases hattempt
  | work _ _ =>
      simp only [incident?, hstage] at hincident
      obtain ⟨trouble, _, rfl⟩ := Option.map_eq_some_iff.1 hincident
      cases hsubject

/-- What an incident comes of comes to its end with it. -/
theorem spends_of_move {i : Incident} {x : Subject} (hmove : s.Move e acts t)
    (hincident : incident? log ⟨s, e, acts, t⟩ = some i) (hsubject : i.subject? = some x) :
    ¬ s.Spent x ∧ t.Spent x := by
  cases hmove with
  | elapse _ | cancel | arrive _ _ _ | refuse _ _ _ | endOpens | globalRequest _ | endGlobals
  | provisioned _ | takeOpen _ _ _ | discard _ _ => cases hincident
  | provision _ _ | join _ _ | close _ _ _ => cases hincident
  | leave hleaves =>
      cases hleaves with
      | early _ _ | giveUpPod _ _ | done _ _ => cases hincident
      | @noPod c hphase =>
          obtain ⟨_, rfl⟩ : s.cancelled = false ∧ Incident.noPod c = i := by
            simpa [incident?] using hincident
          obtain rfl := Option.some.inj hsubject
          exact ⟨by simp [Spent, hphase, Phase.awaits], rfl⟩
  | @attempt n stage after _ _ hstage hstep =>
      obtain ⟨rfl, ⟨a, hattempt⟩, rfl⟩ := spends_of_attempt hstage hstep hincident hsubject
      have hlt := (List.getElem?_eq_some_iff.1 hstage).1
      refine ⟨fun hspent => ?_, by simp [Spent, setStage, hlt]⟩
      obtain rfl := Option.some.inj (hstage.symm.trans hspent)
      cases hattempt
  | @keepalive own k owns _ hstep =>
      obtain ⟨failures, hexhausted, rfl⟩ : ∃ failures,
          s.keepalive.exhausted? own = some failures ∧ Incident.exhausted failures = i := by
        simpa [incident?] using hincident
      obtain rfl := Option.some.inj hsubject
      have hphase := ((Keepalive.gives_of_step hstep failures).1 hexhausted).2
      refine ⟨fun hspent => ?_, ?_⟩
      · rw [keepalive_ended (ended_of_spent hspent)] at hstep
        cases hstep
      · split <;> exact hphase
  | @closed outcome report hphase _ =>
      cases outcome with
      | ok _ => cases hincident
      | error c =>
          obtain rfl := Option.some.inj hincident
          obtain rfl := Option.some.inj hsubject
          exact ⟨by simp [Spent, hphase], rfl⟩

end State

/-- At most one incident comes of an attempt, of the pod, of the probing, and of the closing. -/
theorem once_of_run (hrun : Run State.step (State.fresh ctx cancelled) log s) (x : Subject) :
    (incidents log).countP (·.subject? = some x) ≤ 1 ∧
      (0 < (incidents log).countP (·.subject? = some x) → s.Spent x) := by
  induction hrun with
  | nil => exact ⟨Nat.zero_le _, fun h => absurd h (Nat.lt_irrefl 0)⟩
  | @snoc log s t e acts _ hstep ih =>
      have hmove := State.move_of_step hstep
      obtain ⟨honce, hspent⟩ := ih
      rw [incidents_snoc, List.countP_append]
      by_cases hlast : ∃ i, incident? log ⟨s, e, acts, t⟩ = some i ∧ i.subject? = some x
      · obtain ⟨i, hincident, hsubject⟩ := hlast
        obtain ⟨hnot, hafter⟩ := State.spends_of_move hmove hincident hsubject
        have hnone : ¬ 0 < (incidents log).countP (·.subject? = some x) := fun h => hnot (hspent h)
        rw [hincident]
        refine ⟨?_, fun _ => hafter⟩
        simp only [Option.toList_some, List.countP_singleton]
        split <;> omega
      · have hnone : (incident? log ⟨s, e, acts, t⟩).toList.countP (·.subject? = some x) = 0 := by
          rw [List.countP_eq_zero]
          intro i hi hsubject
          exact hlast ⟨i, Option.mem_toList.1 hi, by simpa using hsubject⟩
        rw [hnone, Nat.add_zero]
        exact ⟨honce, fun h => State.spent_of_move hmove (hspent h)⟩

/-! ## Cancellation -/

/-- On a connection that is cancelled only those incidents come about that have nothing to do with
the token. -/
theorem outlasts_of_cancelled (hrun : Run State.step (State.fresh ctx cancelled) log s)
    (hcancel : s.cancelled = true) {t : State} {i : Incident} (hstep : s.step e = some (t, acts))
    (hincident : incident? log ⟨s, e, acts, t⟩ = some i) : i.outlasts = true := by
  cases e with
  | provisioned outcome => cases outcome <;> simp [incident?, hcancel] at hincident
  | runOpen n =>
      obtain ⟨w, _, rfl⟩ : ∃ w, malformed? log n = some w ∧ .unopened n (.wire w) = i := by
        simpa [incident?, hcancel] using hincident
      rfl
  | accepted n outcome => simp [State.step, State.accepted?, hcancel] at hstep
  | rejected n outcome => simp [State.step, State.rejected?, hcancel] at hstep
  | channel n own =>
      simp only [incident?] at hincident
      split at hincident
      · rename_i h hstage
        -- The tokens of the channel and of its tasks are cancelled with the one of the connection.
        have hclosed : h.scratch.closed = true :=
          (prompt_of_run hrun).severed hcancel _ (List.mem_of_getElem? hstage)
        have hstopped := (channels_sound hrun n h hstage).stopped_of_closed hclosed
        rw [Channel.Handler.trouble_of_closed hclosed hstopped] at hincident
        cases hincident
      · cases hincident
  | keepalive own =>
      obtain ⟨failures, _, rfl⟩ := Option.map_eq_some_iff.1 hincident
      rfl
  | connectionClosed outcome =>
      cases outcome with
      | ok _ => cases hincident
      | error c =>
          obtain rfl := Option.some.inj hincident
          rfl
  | _ => cases hincident

/-- Probing that has panicked stays so. -/
theorem crashed_of_run {s t : State} (hrun : Run State.step s log t)
    (hcrashed : s.keepalive.crashed = true) : t.keepalive.crashed = true := by
  refine hrun.invariant (P := fun s => s.keepalive.crashed = true) hcrashed ?_
  intro s t e acts hcrashed hstep
  have hended : s.keepalive.ended = true := by
    unfold Keepalive.State.crashed at hcrashed
    unfold Keepalive.State.ended
    split at hcrashed <;> simp_all
  have hmove := State.move_of_step hstep
  rw [(State.quiet_of_move hmove ?_).2]
  · exact hcrashed
  · rintro own rfl
    obtain ⟨k, owns, hown, _⟩ := State.keepalive_of_move hmove
    rw [State.keepalive_ended hended] at hown
    cases hown

theorem sound_before {s t : State} (hrun : Run State.step s log t)
    (hsound : t.keepalive.crashed = false) : s.keepalive.crashed = false := by
  rw [← Bool.not_eq_true] at hsound ⊢
  exact mt (crashed_of_run hrun) hsound

theorem records_of_run (hrun : Run State.step (State.fresh ctx cancelled) log s)
    (hsound : s.keepalive.crashed = false) :
    records (seen log) = (incidents log).map (Incident.record ctx.identity) := by
  induction hrun with
  | nil => rfl
  | snoc hbefore hstep ih =>
      have hsound := sound_before (.single hstep) hsound
      rw [seen_append, records_append, ih hsound, incidents_snoc, List.map_append, seen_cons,
        seen_nil, List.append_nil, records_of_step hbefore hsound hstep]

/-- Warnings and errors are fully accounted for, as long as the probing does not panic. In every run
of a connection they are those of the incidents, one for each and in their order; every step records
its own. Of an attempt, of the pod, of the probing and of the closing comes at most one. A step that
cancels the token records nothing, and on a connection that is cancelled only those incidents come
about that have nothing to do with the token. -/
theorem records_accounted_for (hrun : Run State.step (State.fresh ctx cancelled) log s)
    (hsound : s.keepalive.crashed = false) :
    records (seen log) = (incidents log).map (Incident.record ctx.identity) ∧
    (∀ pre τ post, log = pre ++ τ :: post →
      records τ.acts = (incident? pre τ).toList.map (Incident.record ctx.identity) ∧
      (τ.event = .cancel → records τ.acts = []) ∧
      (τ.source.cancelled = true → ∀ i, incident? pre τ = some i → i.outlasts = true)) ∧
    ∀ x, (incidents log).countP (·.subject? = some x) ≤ 1 := by
  refine ⟨records_of_run hrun hsound, ?_, fun x => (once_of_run hrun x).1⟩
  rintro pre τ post rfl
  obtain ⟨hpre, hstep, hpost⟩ := hrun.at_step
  have hrecords := records_of_step hpre
    (sound_before (.single hstep) (sound_before hpost hsound)) hstep
  refine ⟨hrecords, fun hevent => ?_,
    fun hcancel i hincident => outlasts_of_cancelled hpre hcancel hstep hincident⟩
  rw [hrecords, incident?, hevent]
  rfl

end

/-- Of four attempts one is accepted, one cannot be accepted, and two are pending when the token is
cancelled: one of them is malformed, the other is given up without a record. So is the command, which
fails after that; three requests on its channel have gone wrong before. -/
theorem records_accounted_for_cancelled :
    ∃ log s, Run State.step (State.fresh ⟨⟨"team", "ada"⟩, .standard⟩ false) log s ∧
      s.phase = .returned ∧
      records (seen log) = ([.unopened 2 (.accept (.single "gone")),
        .channel 0 (.malformed "pty-req" (.truncated "term" 4 1)),
        .channel 0 (.failed "subsystem" (.unknownSubsystem "x")),
        .channel 0 (.failed "shell" .alreadyRunning),
        .unopened 1 (.wire (.truncated "host" 4 1)),
        .notClosed (.single "reset")] : List Incident).map (Incident.record ⟨"team", "ada"⟩) := by
  have hcheck : ∃ log s, Run State.step (State.fresh ⟨⟨"team", "ada"⟩, .standard⟩ false) log s ∧
      s.keepalive.crashed = false ∧ s.phase = .returned ∧
      incidents log = [.unopened 2 (.accept (.single "gone")),
        .channel 0 (.malformed "pty-req" (.truncated "term" 4 1)),
        .channel 0 (.failed "subsystem" (.unknownSubsystem "x")),
        .channel 0 (.failed "shell" .alreadyRunning),
        .unopened 1 (.wire (.truncated "host" 4 1)),
        .notClosed (.single "reset")] :=
    exists_run_of_replay
      [.advance, .keepalive (.start ""), .provisioned (.ok ()), .openChannel "session" [],
        .openChannel "direct-tcpip" [7], .openChannel "session" [], .openChannel "session" [],
        .takeOpen, .takeOpen, .takeOpen, .takeOpen, .runOpen 0, .runOpen 1, .runOpen 2, .runOpen 3,
        .accepted 0 (.ok ()), .accepted 2 (.error (.single "gone")), .channel 0 .advance,
        .channel 0 (.arrive ⟨"pty-req", [7], true⟩),
        .channel 0 (.arrive ⟨"subsystem", [0, 0, 0, 1, 120], true⟩),
        .channel 0 (.arrive ⟨"shell", [], true⟩), .channel 0 (.arrive ⟨"shell", [], true⟩),
        .channel 0 .advance, .channel 0 .advance, .channel 0 .advance, .channel 0 .advance,
        .channel 0 (.run 0), .cancel, .channel 0 (.returned 0 (.error (.single "killed"))),
        .runOpen 1, .runOpen 3, .channel 0 .advance, .advance, .channel 0 .advance,
        .channel 0 .streamClosed, .advance, .keepalive .stop, .discard .stop, .advance,
        .connectionClosed (.error (.single "reset"))]
      (by decide +kernel)
  obtain ⟨log, s, hrun, hsound, hreturned, hincidents⟩ := hcheck
  refine ⟨log, s, hrun, hreturned, ?_⟩
  rw [(records_accounted_for hrun hsound).1, hincidents]

/-- While the rejection of a malformed attempt is pending nothing is recorded of it; once the token is
cancelled the rejection is given up and the warning is recorded. And settings that pass their check
lead to an error that is the record of no incident. -/
theorem records_of_cancelling_and_panic :
    (∃ log s, Run State.step (State.fresh ⟨⟨"team", "ada"⟩, .standard⟩ false) log s ∧
      s.cancelled = false ∧ s.step (.runOpen 0) = none ∧ records (seen log) = [] ∧
      ((s.step .cancel).bind fun (t, _) => t.step (.runOpen 0)).map (fun (_, acts) => records acts) =
        some [failed (.wire (.truncated "host" 4 1))]) ∧
    ∃ c : Config, c.problem? = none ∧
      ∃ log s, Run State.step (State.fresh ⟨⟨"team", "ada"⟩, c⟩ false) log s ∧ incidents log = [] ∧
        records (seen log) =
          [.error "keepalive task panicked: overflow when adding duration to instant"] := by
  constructor
  · exact exists_run_of_replay
      [.advance, .keepalive (.start ""), .provisioned (.ok ()), .openChannel "direct-tcpip" [1],
        .takeOpen, .runOpen 0]
      (by decide +kernel)
  · exact ⟨{ Config.standard with keepaliveInterval := .ofSeconds 18446744073709551615 },
      by decide +kernel,
      exists_run_of_replay
        [.advance, .keepalive (.start "overflow when adding duration to instant"),
          .provisioned (.ok ()), .endOpens, .advance, .advance, .discard .stop, .advance]
        (by decide +kernel)⟩

end Connection

end SessionGateway
