import SessionGateway.Proofs.Connection.Readiness

/-!
# The outlook of an attempt

What one attempt to open a channel can know of its connection: whether it is received at all, and
its own stage from then on. As long as the token of the connection is not cancelled before the
attempt has come to its end, the outlook is a machine of its own. The events that concern the
attempt decide the next outlook and what is seen of the attempt, and every other event of the
connection leaves the outlook as it is.
-/

namespace SessionGateway

namespace Channel.Handler

/-- Once a channel is closed, it does not matter any more whether its token is cancelled. -/
theorem Sound.step_mapScratch_close {ctx : Context} {h t : Handler} {e : Event} {acts : List Act}
    (hsound : h.Sound) (hphase : h.phase = .closed) (hstep : h.step ctx e = some (t, acts)) :
    (h.mapScratch Scratch.close).step ctx e = some (t.mapScratch Scratch.close, acts) := by
  have hmove := move_of_step hstep
  have houtside := hsound.outside_of_closed hphase hmove
  cases hmove with
  | arrive _ | hangUp | cancel | awaitSize _ | abandonSize _ => rfl
  | pollSize hpoll =>
      show h.scratch.sizes.poll.map _ = _
      rw [hpoll]
      rfl
  | serveSize hserve =>
      show h.scratch.sizes.serve?.map _ = _
      rw [hserve]
      rfl
  | _ => cases houtside

end Channel.Handler

namespace Connection

/-! ## Numbers of attempts -/

def Event.renumber (m : Nat) : Event → Event
  | .runOpen _ => .runOpen m
  | .accepted _ outcome => .accepted m outcome
  | .rejected _ outcome => .rejected m outcome
  | .channel _ e => .channel m e
  | e => e

def Act.renumber (m : Nat) : Act → Act
  | .accept _ => .accept m
  | .reject _ reason message => .reject m reason message
  | .withdraw _ => .withdraw m
  | .drop _ => .drop m
  | .channel _ a => .channel m a
  | a => a

/-- An act that is about an attempt, without the number of the attempt. -/
def Act.about? (n : Nat) (a : Act) : Option Act :=
  if a.number? = some n then some (a.renumber 0) else none

def about (n : Nat) (acts : List Act) : List Act :=
  acts.filterMap (Act.about? n)

section

variable {n m : Nat} {acts rest : List Act} {a : Act} {ctx : Context} {cancelled : Bool}
  {stage after : Stage} {e : Event}

@[simp] theorem about_append : about n (acts ++ rest) = about n acts ++ about n rest :=
  List.filterMap_append

theorem about_cons : about n (a :: rest) = (a.about? n).toList ++ about n rest := by
  cases h : a.about? n <;> simp [about, h]

theorem about_of_other (h : ∀ a ∈ acts, a.number? ≠ some n) : about n acts = [] := by
  rw [about, List.filterMap_eq_nil_iff]
  intro a ha
  exact if_neg (h a ha)

theorem about_renumber (h : ∀ a ∈ acts, a.number? = some n ∨ ∃ text, a = .warn text) :
    about 0 (acts.map (Act.renumber 0)) = about n acts := by
  rw [about, List.filterMap_map]
  apply List.filterMap_congr
  intro a ha
  rcases h a ha with hnumber | ⟨text, rfl⟩
  · cases a <;> simp_all [Act.about?, Act.number?, Act.renumber]
  · rfl

theorem about_numbered : about n (numbered n acts) = about n acts := by
  rw [about, about, numbered, List.filterMap_filter]
  congr 1
  funext a
  by_cases h : a.number? = some n <;> simp [Act.about?, h]

theorem renumber_forgone (b : Attempt) : (forgone n b).map (Act.renumber m) = forgone m b := by
  simp [forgone, Act.renumber]

theorem renumber_faultWarning (fault : Option Wire.Error) :
    (faultWarning fault).map (Act.renumber m) = faultWarning fault := by
  cases fault <;> rfl

theorem about_channel (own : List Channel.Act) :
    about n (own.map (.channel m)) = if m = n then own.map (.channel 0) else [] := by
  induction own with
  | nil => simp [about]
  | cons a rest ih =>
      rw [List.map_cons, about_cons, ih]
      by_cases hm : m = n <;> simp [Act.about?, Act.number?, Act.renumber, hm]

theorem about_forgone (b : Attempt) :
    about n (forgone m b) = if m = n then forgone 0 b else [] :=
  about_channel _

/-- What happens to an attempt does not depend on its number. -/
theorem Stage.Step.renumber (hstep : stage.Step ctx cancelled n e acts after) (m : Nat) :
    stage.Step ctx cancelled m (e.renumber m) (acts.map (Act.renumber m)) after := by
  cases hstep with
  | accept hlive hverdict => exact .accept hlive hverdict
  | reject hlive hverdict => exact .reject hlive hverdict
  | abandon hcancel =>
      simp only [List.cons_append, List.map_cons, List.map_append, renumber_forgone,
        renumber_faultWarning]
      exact .abandon hcancel
  | withdrawAccept hcancel =>
      simp only [List.map_cons, renumber_forgone]
      exact .withdrawAccept hcancel
  | withdrawReject hcancel =>
      simp only [List.cons_append, List.map_cons, List.map_append, renumber_forgone,
        renumber_faultWarning]
      exact .withdrawReject hcancel
  | serve hlive hcapacity => exact .serve hlive hcapacity
  | crash hlive hcapacity =>
      rw [renumber_forgone]
      exact .crash hlive hcapacity
  | acceptFails hlive =>
      rw [List.map_append, renumber_forgone]
      exact .acceptFails hlive
  | rejected hlive =>
      rw [List.map_append, renumber_forgone, renumber_faultWarning]
      exact .rejected hlive
  | rejectFails hlive =>
      rw [List.map_append, renumber_forgone]
      exact .rejectFails hlive
  | early hattempt hearly => exact .early hattempt hearly
  | work hown hwork =>
      rw [List.map_map]
      exact .work hown hwork

end

/-! ## What an attempt knows -/

def State.finished (s : State) (n : Nat) : Bool :=
  s.channels[n]?.any Stage.finished

/-- A stage in normal form: once the attempt has come to its end, its token counts as cancelled. -/
def Stage.normalize (stage : Stage) : Stage :=
  if stage.finished then stage.cancel else stage

/-- What an attempt knows of its connection. -/
inductive Outlook where
  /-- It has not arrived; the flag tells whether it would be received. -/
  | absent (receives : Bool)
  | present (stage : Stage)

def State.outlook (n : Nat) (s : State) : Outlook :=
  match s.channels[n]? with
  | none => .absent s.receivesOpens
  | some stage => .present stage.normalize

/-- What an event means to an attempt, without the number of the attempt. Besides its own events
these are the end of all attempts before its arrival, and the failure to get the pod before it is
taken. -/
def State.own? (n : Nat) (s : State) : Event → Option Event
  | .openChannel kind payload =>
    if s.channels.length = n then some (.openChannel kind payload) else none
  | .takeOpen => if s.channels.findIdx? Stage.isQueued = some n then some .takeOpen else none
  | .endOpens => if s.channels.length ≤ n then some .endOpens else none
  | .provisioned (.error c) =>
    if s.channels[n]?.all Stage.isQueued then some (.provisioned (.error c)) else none
  | e => if e.number? = some n then some (e.renumber 0) else none

def State.alone (ctx : Context) (stage : Stage) : State :=
  { State.fresh ctx false with channels := [stage] }

def Outlook.step (ctx : Context) : Outlook → Event → Option (Outlook × List Act)
  | .absent true, .openChannel kind payload =>
    some (.present (.queued ⟨kind, payload, .fresh⟩), [])
  | .absent false, .openChannel _ _ => some (.present .ended, [.drop 0])
  | .absent _, .endOpens | .absent _, .provisioned _ => some (.absent false, [])
  | .absent _, _ => none
  | .present (.queued a), .takeOpen => some (.present (.ready a), [])
  | .present (.queued a), .provisioned _ => some (.present .ended, .drop 0 :: forgone 0 a)
  | .present stage, e =>
    ((State.alone ctx stage).step e).map fun (t, acts) => (t.outlook 0, about 0 acts)

theorem Outlook.step_present {ctx : Context} {stage : Stage} {e : Event} {n : Nat}
    (hnumber : e.number? = some n) : Outlook.step ctx (.present stage) e =
      ((State.alone ctx stage).step e).map fun (t, acts) => (t.outlook 0, about 0 acts) := by
  cases e <;> cases hnumber <;> cases stage <;> rfl

namespace Stage

variable {ctx : Context} {cancelled : Bool} {n : Nat} {stage after : Stage} {e : Event}
  {acts : List Act}

theorem cancel_cancel (stage : Stage) : stage.cancel.cancel = stage.cancel := by
  cases stage <;> rfl

theorem normalize_cancel (hfinished : stage.finished = true) :
    stage.cancel.normalize = stage.normalize := by
  rw [normalize, normalize, finished_cancel, if_pos hfinished, if_pos hfinished, cancel_cancel]

theorem normalize_of_running (hrunning : stage.finished = false) : stage.normalize = stage := by
  rw [normalize, hrunning]
  rfl

theorem not_queued_of_finished (hfinished : stage.finished = true) : stage.isQueued = false := by
  cases stage with
  | queued a => cases hfinished
  | _ => rfl

/-- Bringing an attempt to normal form changes nothing in what happens to it. -/
theorem Step.normalize (hstep : stage.Step ctx cancelled n e acts after)
    (hquiet : cancelled = true → stage.finished = true)
    (hsound : ∀ h, stage = .serving h → h.Sound) :
    ∃ other, stage.normalize.Step ctx false n e acts other ∧ other.normalize = after.normalize := by
  cases hfinished : stage.finished with
  | false =>
      have hlive : cancelled = false := by
        cases cancelled
        · rfl
        · rw [hfinished] at hquiet
          cases hquiet rfl
      rw [normalize_of_running hfinished]
      exact ⟨after, hlive ▸ hstep, rfl⟩
  | true =>
      have hafter := (hstep.of_finished hfinished hsound).1
      rw [Stage.normalize, hfinished, if_pos rfl]
      cases hstep with
      | early hattempt _ =>
          rw [not_finished hattempt] at hfinished
          cases hfinished
      | @work h t _ _ hown hwork =>
          -- What can still happen to a closed channel does not ask for its token.
          have hphase : h.phase = .closed := by simpa [finished] using hfinished
          exact ⟨cancel (.serving t),
            .work hown ((hsound h rfl).step_mapScratch_close hphase hwork), normalize_cancel hafter⟩
      | _ => cases hfinished

end Stage

namespace State

variable {ctx : Context} {n : Nat} {s t : State} {e : Event} {acts : List Act}

theorem outlook_eq (hstage : t.channels[n]? = s.channels[n]?)
    (hreceives : s.channels[n]? = none → t.receivesOpens = s.receivesOpens) :
    t.outlook n = s.outlook n := by
  simp only [outlook, hstage]
  cases hbefore : s.channels[n]? with
  | none => rw [hreceives hbefore]
  | some stage => rfl

theorem outlook_cancel (hover : s.finished n = true) : s.cancel.outlook n = s.outlook n := by
  obtain ⟨stage, hstage, hfinished⟩ := (Option.any_eq_true _ _).1 hover
  have hcancel : s.cancel.channels[n]? = some stage.cancel := by simp [cancel, hstage]
  simp only [outlook, hstage, hcancel, Stage.normalize_cancel hfinished]

/-- The step is one of the attempt's own machine, or one that the attempt does not notice. -/
structure Follows (n : Nat) (s : State) (e : Event) (acts : List Act) (t : State) : Prop where
  take : ∀ b, s.own? n e = some b →
    (s.outlook n).step s.context b = some (t.outlook n, about n acts)
  skip : s.own? n e = none → t.outlook n = s.outlook n ∧ about n acts = []

theorem Follows.own {b : Event} (hown : s.own? n e = some b)
    (hstep : (s.outlook n).step s.context b = some (t.outlook n, about n acts)) :
    Follows n s e acts t where
  take c hother := by
    obtain rfl := Option.some.inj (hown.symm.trans hother)
    exact hstep
  skip hnone := by
    rw [hown] at hnone
    cases hnone

theorem Follows.keep (hown : s.own? n e = none) (houtlook : t.outlook n = s.outlook n)
    (hacts : about n acts = []) : Follows n s e acts t where
  take b hother := by
    rw [hown] at hother
    cases hother
  skip _ := ⟨houtlook, hacts⟩

theorem outlook_push {stage : Stage} (hn : ¬ s.channels.length = n)
    (hchannels : t.channels = s.channels ++ [stage]) (hreceives : t.receivesOpens = s.receivesOpens) :
    t.outlook n = s.outlook n := by
  apply outlook_eq
  · rw [hchannels, getElem?_push_of_ne (Ne.symm hn)]
  · intro _
    exact hreceives

theorem outlook_setStage {m : Nat} {after : Stage} (hm : ¬ m = n) :
    (s.setStage m after).outlook n = s.outlook n :=
  outlook_eq (by simp [setStage, hm]) fun _ => rfl

theorem outlook_setStage_self {stage after : Stage} (hstage : s.channels[n]? = some stage) :
    (s.setStage n after).outlook n = .present after.normalize := by
  have hafter : (s.setStage n after).channels[n]? = some after := by
    rw [getElem?_setStage hstage, if_pos rfl]
  rw [outlook, hafter]

theorem about_leave (s : State) (n : Nat) : about n s.leave.2 = match s.channels[n]? with
    | some (.queued a) => .drop 0 :: forgone 0 a
    | _ => [] := by
  rw [← about_numbered, numbered_leave]
  cases s.channels[n]? with
  | none => rfl
  | some stage =>
      cases stage <;> simp [about_cons, about_forgone, Act.about?, Act.number?, Act.renumber] <;> rfl

/-- When the connection stops taking attempts, an attempt that is there and not queued notices
nothing, and neither does one that has not arrived and would not have been received. -/
theorem outlook_leave
    (hqueued : ∀ stage, s.channels[n]? = some stage → stage.isQueued = false)
    (hreceives : s.channels[n]? = none → s.receivesOpens = false) :
    s.leave.1.outlook n = s.outlook n ∧ about n s.leave.2 = [] := by
  constructor
  · apply outlook_eq
    · rw [leave_channels, List.getElem?_map]
      cases hstage : s.channels[n]? with
      | none => rfl
      | some stage =>
          have hnot := hqueued stage hstage
          cases stage with
          | queued a => cases hnot
          | _ => rfl
    · intro hnone
      rw [hreceives hnone]
      simp [leave, receivesOpens]
  · rw [about_leave]
    split
    · rename_i a hstage
      cases hqueued _ hstage
    · rfl

theorem outlook_leave_of_present {stage : Stage} (hstage : s.channels[n]? = some stage)
    (hqueued : stage.isQueued = false) :
    s.leave.1.outlook n = s.outlook n ∧ about n s.leave.2 = [] := by
  apply outlook_leave
  · intro other hother
    obtain rfl := Option.some.inj (hstage.symm.trans hother)
    exact hqueued
  · intro hnone
    rw [hstage] at hnone
    cases hnone

theorem outlook_leave_of_finished (hfinished : s.finished n = true) :
    s.leave.1.outlook n = s.outlook n ∧ about n s.leave.2 = [] := by
  obtain ⟨stage, hstage, hover⟩ := (Option.any_eq_true _ _).1 hfinished
  exact outlook_leave_of_present hstage (Stage.not_queued_of_finished hover)

theorem Follows.noPod {report : List Act} {c : Cause} (hreport : about n report = []) :
    Follows n s (.provisioned (.error c)) (report ++ s.leave.2) s.leave.1 := by
  have hacts : about n (report ++ s.leave.2) = about n s.leave.2 := by
    rw [about_append, hreport, List.nil_append]
  have hleft : s.leave.1.channels[n]? = s.channels[n]?.map Stage.drop := by
    rw [leave_channels, List.getElem?_map]
  have hdropped := about_leave s n
  cases hstage : s.channels[n]? with
  | none =>
      rw [hstage] at hleft hdropped
      apply Follows.own (b := .provisioned (.error c)) (by simp [own?, hstage])
      rw [outlook, outlook, hstage, hleft, hacts, hdropped]
      simp [Outlook.step, State.leave, receivesOpens]
  | some stage =>
      cases hqueued : stage.isQueued with
      | false =>
          obtain ⟨houtlook, hquiet⟩ := outlook_leave_of_present hstage hqueued
          exact .keep (by simp [own?, hstage, hqueued]) houtlook (hacts.trans hquiet)
      | true =>
          rw [hstage] at hleft hdropped
          cases stage with
          | queued a =>
              apply Follows.own (b := .provisioned (.error c)) (by simp [own?, hstage, hqueued])
              rw [outlook, outlook, hstage, hleft, hacts, hdropped]
              rfl
          | _ => cases hqueued

theorem Follows.leave {report : List Act} (hleaves : s.Leaves e report)
    (hquiet : s.cancelled = true → s.finished n = true) :
    Follows n s e (report ++ s.leave.2) s.leave.1 := by
  cases hleaves with
  | early _ hcancel | giveUpPod _ hcancel =>
      obtain ⟨houtlook, hacts⟩ := outlook_leave_of_finished (hquiet hcancel)
      exact .keep rfl houtlook (by simpa [about, Act.about?, Act.number?] using hacts)
  | noPod _ =>
      apply Follows.noPod
      split <;> rfl
  | done _ hend =>
      have hkept : s.leave.1.outlook n = s.outlook n ∧ about n s.leave.2 = [] := by
        rcases hend with hcancel | ⟨hended, hnone⟩
        · exact outlook_leave_of_finished (hquiet hcancel)
        · apply outlook_leave
          · intro stage hstage
            simpa using List.any_eq_false.1 hnone stage (List.mem_of_getElem? hstage)
          · intro _
            simp [receivesOpens, hended]
      exact .keep rfl hkept.1 (by simpa using hkept.2)

theorem Follows.attempt {m : Nat} {stage after : Stage} (hstage : s.channels[m]? = some stage)
    (hstep : stage.Step s.context s.cancelled m e acts after)
    (hsound : ∀ h, s.channels[n]? = some (.serving h) → h.Sound)
    (hquiet : s.cancelled = true → s.finished n = true) :
    Follows n s e acts (s.setStage m after) := by
  have hacts := hstep.own_or_warn
  have hown : s.own? n e = if m = n then some (e.renumber 0) else none := by
    cases hstep <;> simp [own?, Event.number?]
  by_cases hm : m = n
  · subst hm
    rw [if_pos rfl] at hown
    apply Follows.own hown
    -- Under the number 0 and without any other attempt the same step can be made.
    obtain ⟨other, hnormal, hother⟩ := hstep.normalize
      (fun hcancel => by simpa [finished, hstage] using hquiet hcancel)
      (fun h hserving => hsound h (hserving ▸ hstage))
    have halone := step_of_attempt (s := alone s.context stage.normalize) (n := 0) rfl
      (hnormal.renumber 0)
    rw [outlook_setStage_self hstage, outlook, hstage, ← about_renumber hacts, ← hother,
      Outlook.step_present (hnormal.renumber 0).number, halone]
    rfl
  · rw [if_neg hm] at hown
    apply Follows.keep hown (outlook_setStage hm)
    apply about_of_other
    intro a ha
    rcases hacts a ha with hnumber | ⟨text, rfl⟩
    · simp [hnumber, hm]
    · simp [Act.number?]

/-- Every step of a connection is one of an attempt's own machine, or one that the attempt does not
notice, unless the token is cancelled before the attempt has come to its end. -/
theorem follows_of_move (hmove : s.Move e acts t)
    (hsound : ∀ h, s.channels[n]? = some (.serving h) → h.Sound)
    (hquiet : t.cancelled = true → s.finished n = true) : Follows n s e acts t := by
  have hbefore : s.cancelled = true → s.finished n = true :=
    fun hcancel => hquiet (cancelled_move hmove hcancel)
  cases hmove with
  | elapse _ | globalRequest _ | endGlobals | provision _ _ | provisioned _ =>
      exact .keep rfl rfl rfl
  | cancel => exact .keep rfl (outlook_cancel (hquiet rfl)) rfl
  | join _ _ => exact .keep rfl (outlook_cancel (hquiet rfl)) rfl
  | arrive kind payload hreceives =>
      by_cases hn : s.channels.length = n
      · subst hn
        apply Follows.own (b := .openChannel kind payload) (by simp [own?])
        rw [outlook, outlook, List.getElem?_eq_none (Nat.le_refl _), List.getElem?_concat_length,
          hreceives]
        rfl
      · exact .keep (by simp [own?, hn]) (outlook_push hn rfl rfl) rfl
  | refuse kind payload hrefuses =>
      by_cases hn : s.channels.length = n
      · subst hn
        apply Follows.own (b := .openChannel kind payload) (by simp [own?])
        rw [outlook, outlook, List.getElem?_eq_none (Nat.le_refl _), List.getElem?_concat_length,
          hrefuses, about_cons]
        simp [Outlook.step, Act.about?, Act.number?, Act.renumber, about, Stage.normalize,
          Stage.cancel]
      · exact .keep (by simp [own?, hn]) (outlook_push hn rfl rfl)
          (about_of_other (by simp [Act.number?, hn]))
  | endOpens =>
      by_cases hn : s.channels.length ≤ n
      · apply Follows.own (b := .endOpens) (by simp [own?, hn])
        rw [outlook, outlook, List.getElem?_eq_none hn]
        simp [Outlook.step, receivesOpens, about]
      · refine .keep (by simp [own?, hn]) (outlook_eq rfl fun hnone => ?_) rfl
        exact absurd (List.getElem?_eq_none_iff.1 hnone) hn
  | leave hleaves => exact .leave hleaves hbefore
  | close _ _ _ =>
      refine .keep rfl rfl (about_of_other ?_)
      simp only [crashReport]
      split <;> simp [Act.number?]
  | @takeOpen m a _ hfirst hqueued =>
      by_cases hm : m = n
      · subst hm
        apply Follows.own (b := .takeOpen) (by simp [own?, hfirst])
        rw [outlook_setStage_self hqueued, outlook, hqueued]
        rfl
      · exact .keep (by simp [own?, hfirst, hm]) (outlook_setStage hm) rfl
  | attempt hstage hstep => exact .attempt hstage hstep hsound hbefore
  | @keepalive e k own _ _ =>
      have hacts : about n ((if givesUpProbe s.keepalive e then [.giveUpProbe] else []) ++
          own.map (probing k.settings.request)) = [] := by
        rw [← about_numbered, numbered_append, numbered_probing]
        split <;> rfl
      by_cases hexhausts : exhausts own = true
      · rw [if_pos hexhausts] at hquiet ⊢
        exact .keep rfl (outlook_cancel (s := { s with keepalive := k }) (hquiet rfl)) hacts
      · rw [if_neg hexhausts]
        exact .keep rfl rfl hacts
  | discard _ _ => exact .keep rfl rfl (by rw [← about_numbered, numbered_discards]; rfl)
  | @closed outcome _ _ hreport =>
      refine .keep rfl rfl (about_of_other ?_)
      rw [hreport]
      cases outcome <;> simp [Act.number?]

end State

end Connection

end SessionGateway
