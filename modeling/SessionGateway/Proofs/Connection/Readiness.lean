import SessionGateway.Proofs.Connection.Fates
import SessionGateway.Proofs.Connection.Shutdown

/-!
# Waiting for the pod

A connection serves its peer only after the user's pod has become ready while the token was not
cancelled. As long as this has not happened, attempts wait; those that are taken all the same find
the token cancelled and are destroyed. If the pod cannot be made ready, or the token is cancelled
while the connection waits for it, this never happens: every attempt is destroyed without an answer,
and the connection is torn down and closed.
-/

namespace SessionGateway.Connection

/-- Whether an act serves the peer: it answers an attempt, or asks for a command or a forward. -/
def Act.serves : Act → Bool
  | .accept _ | .reject _ _ _ | .channel _ (.exec _ _) | .channel _ (.forward _ _) => true
  | _ => false

def Act.isProvision : Act → Bool
  | .provision _ => true
  | _ => false

def Event.isProvisioned : Event → Bool
  | .provisioned _ => true
  | _ => false

def Event.isReady : Event → Bool
  | .provisioned (.ok ()) => true
  | _ => false

theorem Event.eq_of_isReady {e : Event} (hready : e.isReady = true) :
    e = .provisioned (.ok ()) := by
  unfold isReady at hready
  split at hready
  · rfl
  · cases hready

/-- Whether the user's pod becomes ready with a step, for a connection that is not cancelled. -/
def grants (τ : Transition State Event Act) : Bool :=
  τ.event.isReady && !τ.source.cancelled

/-- In a run the pod cannot be made ready, or the token is cancelled before this is known. -/
inductive Barring (ctx : Context) (cancelled : Bool) (log : Log) (s : State) : Prop
  | failed {τ : Transition State Event Act} {c : Cause} (hmem : τ ∈ log)
      (hevent : τ.event = .provisioned (.error c))
  | cancelled {pre post : Log} {u : State} (hlog : log = pre ++ post)
      (hpre : Run State.step (State.fresh ctx cancelled) pre u) (hcancel : u.cancelled = true)
      (hpost : Run State.step u post s) (hwaiting : ∀ τ ∈ pre, τ.event.isProvisioned = false)

/-- Whether an attempt of a connection that serves nobody can be at a stage. -/
def Stage.barred (cancelled : Bool) : Stage → Bool
  | .queued _ | .ended => true
  | .ready _ => cancelled
  | _ => false

/-- A connection that serves nobody: it takes attempts only once it is cancelled. -/
structure State.Barred (s : State) : Prop where
  stages : ∀ stage ∈ s.channels, stage.barred s.cancelled = true
  taking : s.phase = .accepting → s.cancelled = true

def Phase.awaits : Phase → Bool
  | .ready | .provisioning => true
  | _ => false

theorem forgone_serves (n : Nat) (b : Attempt) : ∀ a ∈ forgone n b, a.serves = false := by
  intro a ha
  obtain ⟨own, hmem, rfl⟩ := List.mem_map.1 ha
  obtain ⟨i, rfl⟩ := forgoFrom_forgo own hmem
  rfl

theorem faultWarning_serves (fault : Option Wire.Error) :
    ∀ a ∈ faultWarning fault, a.serves = false := by
  cases fault <;> simp [faultWarning, failed, Act.serves]

namespace Stage

theorem barred_cancel {stage : Stage} {cancelled : Bool} (h : stage.barred cancelled = true) :
    stage.cancel.barred true = true := by
  cases stage <;> simp_all [barred, Stage.cancel]

theorem barred_drop {stage : Stage} {cancelled : Bool} (h : stage.barred cancelled = true) :
    stage.drop.barred cancelled = true := by
  cases stage <;> simp_all [barred, Stage.drop]

theorem Step.barred {ctx : Context} {cancelled : Bool} {n : Nat} {stage after : Stage} {e : Event}
    {acts : List Act} (hstep : stage.Step ctx cancelled n e acts after)
    (hbarred : stage.barred cancelled = true) :
    after.barred cancelled = true ∧ ∀ a ∈ acts, a.serves = false := by
  cases hstep with
  | accept hlive _ | reject hlive _ => simp [Stage.barred, hlive] at hbarred
  | @abandon b _ =>
      refine ⟨rfl, fun a ha => ?_⟩
      simp only [List.cons_append, List.mem_cons, List.mem_append] at ha
      rcases ha with rfl | ha | ha
      · rfl
      · exact forgone_serves n b a ha
      · exact faultWarning_serves _ a ha
  | early hattempt _ =>
      refine ⟨?_, by simp⟩
      cases stage with
      | queued _ | ready _ => exact hbarred
      | ended => cases hattempt
      | _ => cases hbarred
  | _ => cases hbarred

end Stage

namespace State

variable {s t : State} {e : Event} {acts : List Act}

theorem barred_fresh (ctx : Context) (cancelled : Bool) : (fresh ctx cancelled).Barred where
  stages := by simp [fresh]
  taking h := by cases h

theorem Barred.cancel (hbarred : s.Barred) : s.cancel.Barred where
  stages stage hstage := by
    obtain ⟨before, hbefore, rfl⟩ := List.mem_map.1 hstage
    exact Stage.barred_cancel (hbarred.stages before hbefore)
  taking _ := rfl

theorem Barred.push (hbarred : s.Barred) {stage : Stage} (hstage : stage.barred s.cancelled = true) :
    State.Barred { s with channels := s.channels ++ [stage] } where
  stages other hother := by
    rcases List.mem_append.1 hother with hold | hnew
    · exact hbarred.stages other hold
    · rw [List.mem_singleton.1 hnew]
      exact hstage
  taking := hbarred.taking

theorem Barred.setStage (hbarred : s.Barred) {n : Nat} {after : Stage}
    (hafter : after.barred s.cancelled = true) : (s.setStage n after).Barred where
  stages other hother := by
    rcases List.mem_or_eq_of_mem_set hother with hold | rfl
    · exact hbarred.stages other hold
    · exact hafter
  taking := hbarred.taking

theorem Leaves.serves {report : List Act} (hleaves : s.Leaves e report) :
    ∀ a ∈ report, a.serves = false := by
  cases hleaves with
  | noPod _ => split <;> simp [Act.serves]
  | _ => simp [Act.serves]

/-- A connection that serves nobody goes on so, unless its pod becomes ready before it is
cancelled. -/
theorem Barred.move (hbarred : s.Barred) (hmove : s.Move e acts t)
    (hgate : e.isReady = true → s.cancelled = true) :
    t.Barred ∧ ∀ a ∈ acts, a.serves = false := by
  cases hmove with
  | elapse _ | endOpens | globalRequest _ | endGlobals =>
      exact ⟨⟨hbarred.stages, hbarred.taking⟩, by simp⟩
  | cancel => exact ⟨hbarred.cancel, by simp⟩
  | arrive kind payload _ => exact ⟨hbarred.push rfl, by simp⟩
  | refuse kind payload _ => exact ⟨hbarred.push rfl, by simp [Act.serves]⟩
  | provision _ _ => exact ⟨⟨hbarred.stages, fun h => by cases h⟩, by simp [Act.serves]⟩
  | provisioned _ => exact ⟨⟨hbarred.stages, fun _ => hgate rfl⟩, by simp⟩
  | leave hleaves =>
      refine ⟨⟨fun stage hstage => ?_, fun h => by cases h⟩, fun a ha => ?_⟩
      · rw [leave_channels] at hstage
        obtain ⟨before, hbefore, rfl⟩ := List.mem_map.1 hstage
        exact Stage.barred_drop (hbarred.stages before hbefore)
      · rcases List.mem_append.1 ha with hreport | hdropped
        · exact hleaves.serves a hreport
        · rcases mem_dropQueued hdropped with ⟨m, rfl⟩ | ⟨m, i, rfl⟩ <;> rfl
  | join hphase _ =>
      have hstopping : State.Barred { s with phase := .stopping } :=
        ⟨hbarred.stages, fun h => by cases h⟩
      exact ⟨hstopping.cancel, by simp⟩
  | close _ _ _ =>
      refine ⟨⟨hbarred.stages, fun h => by cases h⟩, ?_⟩
      simp only [crashReport]
      split <;> simp [Act.serves]
  | takeOpen hphase _ _ => exact ⟨hbarred.setStage (hbarred.taking hphase), by simp⟩
  | attempt hstage hstep =>
      have hown := hstep.barred (hbarred.stages _ (List.mem_of_getElem? hstage))
      exact ⟨hbarred.setStage hown.1, hown.2⟩
  | @keepalive e k own _ _ =>
      have hkept : State.Barred { s with keepalive := k } := ⟨hbarred.stages, hbarred.taking⟩
      refine ⟨?_, fun a ha => ?_⟩
      · split
        · exact hkept.cancel
        · exact hkept
      · rcases List.mem_append.1 ha with hgive | hprobe
        · split at hgive
          · rw [List.mem_singleton.1 hgive]
            rfl
          · cases hgive
        · obtain ⟨act, _, rfl⟩ := List.mem_map.1 hprobe
          cases act <;> rfl
  | discard _ _ =>
      refine ⟨⟨hbarred.stages, hbarred.taking⟩, fun a ha => ?_⟩
      obtain ⟨act, _, rfl⟩ := List.mem_map.1 ha
      rfl
  | @closed outcome _ _ hreport =>
      refine ⟨⟨hbarred.stages, fun h => by cases h⟩, ?_⟩
      rw [hreport]
      cases outcome <;> simp [Act.serves]

theorem quiet_of_ready (hmove : s.Move e acts t) (hready : e.isReady = true) : acts = [] := by
  cases hmove with
  | provisioned _ => rfl
  | leave hleaves => cases hleaves <;> cases hready
  | attempt _ hstep => cases hstep <;> cases hready
  | _ => cases hready

theorem cancelled_move (hmove : s.Move e acts t) (hcancel : s.cancelled = true) :
    t.cancelled = true := by
  cases hmove with
  | cancel | join _ _ => rfl
  | keepalive _ _ =>
      split
      · rfl
      · exact hcancel
  | _ => exact hcancel

/-- The pod is asked for by the step that begins the wait for it. -/
theorem provision_move (hmove : s.Move e acts t) {who : Identity} (hask : .provision who ∈ acts) :
    s.phase = .ready ∧ s.cancelled = false ∧ acts = [.provision s.context.identity] ∧
      t.phase = .provisioning := by
  cases hmove with
  | provision hphase hlive => exact ⟨hphase, hlive, rfl, rfl⟩
  | leave hleaves =>
      rcases List.mem_append.1 hask with hreport | hdropped
      · cases hleaves with
        | noPod _ => split at hreport <;> simp at hreport
        | _ => simp at hreport
      · rcases mem_dropQueued hdropped with ⟨m, hm⟩ | ⟨m, i, hm⟩ <;> cases hm
  | close _ _ _ =>
      simp only [crashReport] at hask
      split at hask <;> simp at hask
  | attempt _ hstep =>
      have hfault : ∀ fault, Act.provision who ∉ faultWarning fault := by
        intro fault
        cases fault <;> simp [faultWarning, failed]
      cases hstep <;> simp [forgone, failed, hfault] at hask
  | keepalive _ _ =>
      rcases List.mem_append.1 hask with hgive | hprobe
      · split at hgive <;> simp at hgive
      · obtain ⟨act, _, hact⟩ := List.mem_map.1 hprobe
        cases act <;> cases hact
  | discard _ _ => simp at hask
  | @closed outcome _ _ hreport =>
      rw [hreport] at hask
      cases outcome <;> simp at hask
  | _ => simp at hask

/-- A connection does not come back to its beginning, and waits for its pod until it is told of it
at the latest. -/
theorem phase_move (hmove : s.Move e acts t) :
    (t.phase = .ready → s.phase = .ready) ∧
      e.isProvisioned.toNat + t.phase.awaits.toNat ≤ s.phase.awaits.toNat := by
  cases hmove with
  | provision hphase _ | provisioned hphase | join hphase _ | close hphase _ _ | closed hphase _ =>
      rw [hphase]
      exact ⟨by simp [cancel], by simp [cancel, Event.isProvisioned, Phase.awaits]⟩
  | leave hleaves =>
      refine ⟨(by intro h; cases h), ?_⟩
      cases hleaves with
      | noPod hphase =>
          rw [hphase]
          exact Nat.le_refl _
      | _ => exact Nat.zero_le _
  | attempt _ hstep =>
      cases hstep <;> exact ⟨id, by simp [Event.isProvisioned, setStage]⟩
  | keepalive _ _ => split <;> exact ⟨id, by simp [Event.isProvisioned, cancel]⟩
  | _ => exact ⟨id, by simp [Event.isProvisioned, cancel, setStage]⟩

theorem countP_provision_move (hmove : s.Move e acts t) :
    acts.countP Act.isProvision + (if t.phase = .ready then 1 else 0) ≤
      if s.phase = .ready then 1 else 0 := by
  by_cases hask : acts.any Act.isProvision = true
  · obtain ⟨a, ha, hkind⟩ := List.any_eq_true.1 hask
    cases a with
    | provision who =>
        obtain ⟨hphase, _, rfl, htarget⟩ := provision_move hmove ha
        rw [hphase, htarget]
        exact Nat.le_refl _
    | _ => cases hkind
  · have hnone : acts.countP Act.isProvision = 0 := by simpa using hask
    have hback := (phase_move hmove).1
    rw [hnone, Nat.zero_add]
    by_cases hready : t.phase = .ready
    · exact Nat.le_of_eq (by rw [if_pos hready, if_pos (hback hready)])
    · rw [if_neg hready]
      exact Nat.zero_le _

end State

section

variable {ctx : Context} {cancelled : Bool} {log pre post : Log} {s t u : State}

theorem cancelled_of_run (hrun : Run State.step u log s) (hcancel : u.cancelled = true) :
    s.cancelled = true :=
  hrun.invariant hcancel fun h hstep => State.cancelled_move (State.move_of_step hstep) h

/-- The pod is asked for at most once, and told of at most once. -/
theorem awaits_of_run (hrun : Run State.step (State.fresh ctx cancelled) log s) :
    (seen log).countP Act.isProvision + (if s.phase = .ready then 1 else 0) ≤ 1 ∧
      log.countP (fun τ => τ.event.isProvisioned) + s.phase.awaits.toNat ≤ 1 := by
  induction hrun with
  | nil => exact ⟨Nat.le_refl _, Nat.le_refl _⟩
  | @snoc log s t e acts _ hstep ih =>
      have hmove := State.move_of_step hstep
      have hasks := State.countP_provision_move hmove
      have htells := (State.phase_move hmove).2
      have hone : (if e.isProvisioned = true then 1 else 0) = e.isProvisioned.toNat := by
        cases e.isProvisioned <;> rfl
      rw [seen_append, List.countP_append, List.countP_append, seen_cons, seen_nil, List.append_nil,
        List.countP_singleton, hone]
      dsimp only
      omega

theorem barred_of_run (hrun : Run State.step (State.fresh ctx cancelled) log s)
    (hgate : ∀ τ ∈ log, grants τ = false) : s.Barred ∧ ∀ a ∈ seen log, a.serves = false := by
  induction hrun with
  | nil => exact ⟨State.barred_fresh ctx cancelled, by simp⟩
  | @snoc log s t e acts _ hstep ih =>
      obtain ⟨hbarred, hquiet⟩ := ih fun τ hτ => hgate τ (List.mem_append_left _ hτ)
      have hshut : grants ⟨s, e, acts, t⟩ = false := hgate _ (by simp)
      have hlast := hbarred.move (State.move_of_step hstep) fun hready => by
        simpa [grants, hready] using hshut
      refine ⟨hlast.1, fun a ha => ?_⟩
      rw [seen_append, List.mem_append] at ha
      rcases ha with ha | ha
      · exact hquiet a ha
      · exact hlast.2 a (by simpa using ha)

theorem Act.serves_of_answers {n : Nat} {a : Act} (hanswer : a.answers n = true) :
    a.serves = true := by
  cases a <;> simp_all [answers, serves]

/-- An attempt of a connection that has not served its peer is destroyed if anything. -/
theorem Fate.of_unserved {n : Nat} {acts : List Act} {stage : Option Stage}
    (hfate : Fate n stage (fate n acts)) (hquiet : ∀ a ∈ acts, a.serves = false) :
    fate n acts = [] ∨ stage = some .ended ∧ fate n acts = [.drop n] := by
  have hnone : ∀ {answer : Act} {rest : List Act}, fate n acts = answer :: rest →
      answer.answers n = true → False := by
    intro answer rest hacts hanswer
    have hmem : answer ∈ acts := by
      have hfirst : answer ∈ fate n acts := by simp [hacts]
      exact (List.mem_filter.1 hfirst).1
    have hserves := hquiet answer hmem
    rw [Act.serves_of_answers hanswer] at hserves
    cases hserves
  generalize hdone : fate n acts = done at hfate hnone
  cases hfate with
  | absent | waiting _ => exact .inl rfl
  | dropped => exact .inr ⟨rfl, rfl⟩
  | answered _ hanswer | failed hanswer | withdrawn hanswer => exact (hnone rfl hanswer).elim

namespace Barring

theorem awaits (hbarring : Barring ctx cancelled log s)
    (hrun : Run State.step (State.fresh ctx cancelled) log s) (hawaits : s.phase.awaits = true) :
    s.cancelled = true := by
  cases hbarring with
  | @failed τ c hmem hevent =>
      have htold := (awaits_of_run hrun).2
      have hpos : 0 < log.countP fun τ => τ.event.isProvisioned :=
        List.countP_pos_iff.2 ⟨τ, hmem, by rw [hevent]; rfl⟩
      rw [hawaits] at htold
      simp only [Bool.toNat_true] at htold
      omega
  | cancelled _ _ hcancel hpost _ => exact cancelled_of_run hpost hcancel

/-- The pod does not become ready after it has been told that it cannot, or that nobody waits for
it. -/
theorem not_grants (hbarring : Barring ctx cancelled log s)
    (hrun : Run State.step (State.fresh ctx cancelled) log s) : ∀ τ ∈ log, grants τ = false := by
  intro σ hσ
  rw [Bool.eq_false_iff]
  intro hgrants
  obtain ⟨hready, hlive⟩ : σ.event.isReady = true ∧ σ.source.cancelled = false := by
    simpa [grants] using hgrants
  have htells : σ.event.isProvisioned = true := by
    rw [Event.eq_of_isReady hready]
    rfl
  cases hbarring with
  | @failed τ c hmem hevent =>
      -- Both steps would tell of the pod, and only one step does.
      have hother : 0 < log.countP fun τ => τ.event.isProvisioned && !τ.event.isReady :=
        List.countP_pos_iff.2 ⟨τ, hmem, by rw [hevent]; rfl⟩
      have hthis : 0 < log.countP fun τ => τ.event.isProvisioned && τ.event.isReady :=
        List.countP_pos_iff.2 ⟨σ, hσ, by simp [htells, hready]⟩
      have htold := (awaits_of_run hrun).2
      rw [List.countP_eq_countP_filter_add log _ fun τ => τ.event.isReady] at htold
      simp only [List.countP_filter] at htold
      omega
  | @cancelled pre post u hlog _ hcancel hpost hwaiting =>
      subst hlog
      rcases List.mem_append.1 hσ with hpre | hafter
      · rw [hwaiting σ hpre] at htells
        cases htells
      · obtain ⟨first, last, rfl⟩ := List.append_of_mem hafter
        have hcancelled := cancelled_of_run hpost.at_step.1 hcancel
        rw [hlive] at hcancelled
        cases hcancelled

end Barring

/-- A settled connection that serves nobody has told its peer's side to close. -/
theorem closed_of_settled (hrun : Run State.step (State.fresh ctx cancelled) log s)
    (hbarred : s.Barred) (hawaits : s.phase.awaits = true → s.cancelled = true)
    (hsettled : s.Settled) : s.phase.closed = true := by
  have hadvance : s.advance? = none := hsettled .advance rfl
  cases hphase : s.phase with
  | ready | provisioning =>
      have hcancel := hawaits (by rw [hphase]; rfl)
      simp [State.advance?, hphase, hcancel] at hadvance
  | accepting =>
      have hcancel := hbarred.taking hphase
      simp [State.advance?, hphase, hcancel] at hadvance
  | draining =>
      have hfinished : s.channels.all Stage.finished = true := by
        rw [List.all_eq_true]
        intro stage hmem
        obtain ⟨n, hlt, hat⟩ := List.getElem_of_mem hmem
        have hstage : s.channels[n]? = some stage := by rw [List.getElem?_eq_getElem hlt, hat]
        have hstays := hbarred.stages stage hmem
        cases stage with
        | queued a => cases (prompt_of_run hrun).taken (by rw [hphase]; rfl) _ hmem
        | ready a =>
            -- A taken attempt of a cancelled connection could go on by itself.
            have hcancel : s.cancelled = true := hstays
            have hopen : s.runOpen? n = none := hsettled (.runOpen n) rfl
            cases hverdict : verdict a <;> simp [State.runOpen?, hstage, hcancel, hverdict] at hopen
        | ended => rfl
        | _ => cases hstays
      simp [State.advance?, hphase, hfinished] at hadvance
  | stopping =>
      have hcancel := (sound_of_run hrun).cancelled (by rw [hphase]; rfl)
      have hrunning : s.phase ≠ .ready := by simp [hphase]
      have hkeepalive := keepalive_of_settled hcancel hsettled hrunning
      have hdiscard := discard_of_settled hcancel hsettled hrunning
      simp [State.advance?, hphase, hkeepalive, hdiscard] at hadvance
  | closing | returned => rfl

/-- In a connection that has served nobody and is told to close, every attempt is destroyed. -/
theorem dropped_of_closed (hrun : Run State.step (State.fresh ctx cancelled) log s)
    (hbarred : s.Barred) (hquiet : ∀ a ∈ seen log, a.serves = false)
    (hclosed : s.phase.closed = true) {n : Nat} (hn : n < (attempted (log.map (·.event))).length) :
    fate n (seen log) = [.drop n] := by
  rw [← length_of_run hrun] at hn
  have hstage := List.getElem?_eq_getElem hn
  have hmem := List.mem_of_getElem? hstage
  have hfinished := (sound_of_run hrun).finished (Phase.joined_of_closed hclosed)
  have hdone := List.all_eq_true.1 hfinished _ hmem
  have hstays := hbarred.stages _ hmem
  have hfate := fate_of_run hrun n
  rw [hstage] at hfate
  cases hcase : s.channels[n] with
  | ended =>
      rw [hcase] at hfate
      rcases hfate.of_unserved hquiet with hnone | ⟨_, hdropped⟩
      · rw [hnone] at hfate
        cases hfate with
        | waiting hwaits => cases hwaits
      · exact hdropped
  | queued a | ready a =>
      rw [hcase] at hdone
      cases hdone
  | _ =>
      rw [hcase] at hstays
      cases hstays

/-- What waiting for the pod decides. An answer to an attempt, a command and a forward come after a
step by which the pod has become ready while the token was not cancelled. If the pod cannot be made
ready, or the token is cancelled before that is known, nothing of this is ever seen, attempts are
destroyed if anything, and once the connection is settled it has been closed, once, and every attempt
has been destroyed. The pod is asked for at most once, for the connection's own identity, and not
once the token is cancelled. -/
theorem serves_only_when_ready (hrun : Run State.step (State.fresh ctx cancelled) log s) :
    (∀ pre τ post, log = pre ++ τ :: post → (∃ a ∈ τ.acts, a.serves = true) →
      ∃ σ ∈ pre, σ.event = .provisioned (.ok ()) ∧ σ.source.cancelled = false) ∧
    (Barring ctx cancelled log s →
      (∀ a ∈ seen log, a.serves = false) ∧
      (∀ n, fate n (seen log) = [] ∨ fate n (seen log) = [.drop n]) ∧
      (seen log).count .closeConnection ≤ 1 ∧
      (s.Settled → s.phase.closed = true) ∧
      (s.phase.closed = true → (seen log).count .closeConnection = 1 ∧
        ∀ n < (attempted (log.map (·.event))).length, fate n (seen log) = [.drop n])) ∧
    (seen log).countP Act.isProvision ≤ 1 ∧
    ∀ τ ∈ log, ∀ who, .provision who ∈ τ.acts →
      who = ctx.identity ∧ τ.source.cancelled = false := by
  refine ⟨?_, fun hbarring => ?_, ?_, ?_⟩
  · rintro pre τ post rfl ⟨a, ha, hserves⟩
    obtain ⟨hpre, hstep, _⟩ := hrun.at_step
    have hmove := State.move_of_step hstep
    by_cases hgate : pre.any grants = true
    · obtain ⟨σ, hσ, hgrants⟩ := List.any_eq_true.1 hgate
      obtain ⟨hready, hlive⟩ : σ.event.isReady = true ∧ σ.source.cancelled = false := by
        simpa [grants] using hgrants
      exact ⟨σ, hσ, Event.eq_of_isReady hready, hlive⟩
    · have hbarred := (barred_of_run hpre (by simpa using hgate)).1
      have hlast := hbarred.move hmove fun hready => by
        rw [State.quiet_of_ready hmove hready] at ha
        cases ha
      rw [hlast.2 a ha] at hserves
      cases hserves
  · obtain ⟨hbarred, hquiet⟩ := barred_of_run hrun (hbarring.not_grants hrun)
    have hcount := count_close_of_run hrun
    refine ⟨hquiet, fun n => ?_, ?_, closed_of_settled hrun hbarred (hbarring.awaits hrun),
      fun hclosed => ⟨?_, fun n hn => dropped_of_closed hrun hbarred hquiet hclosed hn⟩⟩
    · exact ((fate_of_run hrun n).of_unserved hquiet).imp id And.right
    · rw [hcount]
      exact Bool.toNat_le _
    · rw [hcount, hclosed]
      rfl
  · have hasked := (awaits_of_run hrun).1
    omega
  · intro τ hτ who hask
    obtain ⟨pre, post, rfl⟩ := List.append_of_mem hτ
    obtain ⟨hpre, hstep, _⟩ := hrun.at_step
    obtain ⟨_, hlive, hacts, _⟩ := State.provision_move (State.move_of_step hstep) hask
    rw [hacts, (traced_of_run hpre 0).1] at hask
    exact ⟨by simpa using hask, hlive⟩

/-- A connection whose pod cannot be made ready destroys the attempt that has arrived before and the
one that comes after, and is closed. -/
theorem serves_only_when_ready_failed :
    ∃ log s, Run State.step (State.fresh ⟨⟨"team", "ada"⟩, .standard⟩ false) log s ∧
      (∃ τ ∈ log, ∃ c, τ.event = .provisioned (.error c)) ∧ s.Settled ∧
      (seen log).count .closeConnection = 1 ∧
      fate 0 (seen log) = [.drop 0] ∧ fate 1 (seen log) = [.drop 1] := by
  have hcheck : ∃ log s, Run State.step (State.fresh ⟨⟨"team", "ada"⟩, .standard⟩ false) log s ∧
      log.any (fun τ => τ.event.isProvisioned && !τ.event.isReady) = true ∧ s.Settled ∧
      (attempted (log.map (·.event))).length = 2 :=
    exists_run_of_replay
      [.openChannel "session" [], .advance, .keepalive (.start ""),
        .provisioned (.error (.single "no quota")), .openChannel "session" [], .advance,
        .keepalive .stop, .discard .stop, .advance]
      (by decide +kernel)
  obtain ⟨log, s, hrun, hfailed, hsettled, hattempts⟩ := hcheck
  obtain ⟨τ, hmem, hevent⟩ := List.any_eq_true.1 hfailed
  obtain ⟨c, hc⟩ : ∃ c, τ.event = .provisioned (.error c) := by
    unfold Event.isProvisioned at hevent
    split at hevent
    · rename_i outcome heq
      cases outcome with
      | ok _ => rw [heq] at hevent; cases hevent
      | error c => exact ⟨c, heq⟩
    · cases hevent
  obtain ⟨_, _, _, hclosed, hdropped⟩ := (serves_only_when_ready hrun).2.1 (.failed hmem hc)
  obtain ⟨hcount, hfates⟩ := hdropped (hclosed hsettled)
  exact ⟨log, s, hrun, ⟨τ, hmem, c, hc⟩, hsettled, hcount, hfates 0 (by omega), hfates 1 (by omega)⟩

end

end SessionGateway.Connection
