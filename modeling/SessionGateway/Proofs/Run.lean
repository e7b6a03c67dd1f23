import Mathlib.Data.List.Forall2

/-!
# Runs of a machine

Channels, connections and gateways are machines: in a state an event gives the next state and what
can be seen of the step, or nothing if the event cannot happen there. A run is any sequence of
steps. What every run keeps follows from what one step keeps, and what a run has begun and not
ended is told by a balance that every step keeps.
-/

namespace SessionGateway

/-- One step of a machine. -/
structure Transition (σ ε α : Type) where
  source : σ
  event : ε
  acts : List α
  target : σ

def seen {σ ε α : Type} (log : List (Transition σ ε α)) : List α :=
  log.flatMap Transition.acts

/-- A machine goes from a state to another by a sequence of steps. -/
inductive Run {σ ε α : Type} (step : σ → ε → Option (σ × List α)) (start : σ) :
    List (Transition σ ε α) → σ → Prop
  | nil : Run step start [] start
  | snoc {log : List (Transition σ ε α)} {s t : σ} {e : ε} {acts : List α} :
      Run step start log s → step s e = some (t, acts) →
      Run step start (log ++ [⟨s, e, acts, t⟩]) t

section

variable {σ ε α : Type} {step : σ → ε → Option (σ × List α)} {start s t u : σ}
  {log pre post : List (Transition σ ε α)} {τ : Transition σ ε α}

@[simp] theorem seen_nil : seen ([] : List (Transition σ ε α)) = [] := rfl

@[simp] theorem seen_append : seen (pre ++ post) = seen pre ++ seen post := by
  simp [seen]

@[simp] theorem seen_cons : seen (τ :: log) = τ.acts ++ seen log := by
  simp [seen]

namespace Run

theorem single {e : ε} {acts : List α} (hstep : step s e = some (t, acts)) :
    Run step s [⟨s, e, acts, t⟩] t :=
  .snoc .nil hstep

theorem trans (hpre : Run step s pre t) (hpost : Run step t post u) :
    Run step s (pre ++ post) u := by
  induction hpost with
  | nil => simpa using hpre
  | snoc _ hstep ih =>
      rw [← List.append_assoc]
      exact .snoc ih hstep

theorem split (h : Run step s (pre ++ post) u) :
    ∃ t, Run step s pre t ∧ Run step t post u := by
  -- The last step of the run is the last of `post`, unless `post` is empty.
  generalize hlog : pre ++ post = log at h
  induction h generalizing post with
  | nil =>
      obtain ⟨rfl, rfl⟩ := List.append_eq_nil_iff.1 hlog
      exact ⟨s, .nil, .nil⟩
  | snoc hrun hstep ih =>
      rcases List.eq_nil_or_concat post with rfl | ⟨rest, τ, rfl⟩
      · refine ⟨_, ?_, .nil⟩
        rw [List.append_nil] at hlog
        exact hlog ▸ .snoc hrun hstep
      · rw [List.concat_eq_append, ← List.append_assoc] at hlog
        obtain ⟨hpre, hlast⟩ := List.append_inj' hlog rfl
        obtain ⟨middle, hleft, hright⟩ := ih hpre
        refine ⟨middle, hleft, ?_⟩
        rw [List.concat_eq_append, hlast]
        exact .snoc hright hstep

theorem eq_of_empty (h : Run step s log t) (hlog : log = []) : t = s := by
  cases h with
  | nil => rfl
  | snoc _ _ => simp at hlog

theorem uncons (h : Run step s (τ :: log) u) :
    τ.source = s ∧ step s τ.event = some (τ.target, τ.acts) ∧ Run step τ.target log u := by
  have hsplit : Run step s ([τ] ++ log) u := h
  obtain ⟨t, hfirst, hrest⟩ := split hsplit
  generalize hlog : [τ] = first at hfirst
  cases hfirst with
  | nil => simp at hlog
  | snoc hrun hstep =>
      rw [← List.nil_append [τ]] at hlog
      obtain ⟨hnil, hlast⟩ := List.append_inj' hlog rfl
      obtain rfl : τ = _ := by simpa using hlast
      obtain rfl := hrun.eq_of_empty hnil.symm
      exact ⟨rfl, hstep, hrest⟩

/-- A step of a run: the run before it, the step itself, and the run after it. -/
theorem at_step (h : Run step s (pre ++ τ :: post) u) :
    Run step s pre τ.source ∧ step τ.source τ.event = some (τ.target, τ.acts) ∧
      Run step τ.target post u := by
  obtain ⟨t, hpre, hrest⟩ := split h
  obtain ⟨rfl, hstep, hpost⟩ := uncons hrest
  exact ⟨hpre, hstep, hpost⟩

theorem step_of_mem (h : Run step s log t) (hmem : τ ∈ log) :
    step τ.source τ.event = some (τ.target, τ.acts) := by
  obtain ⟨pre, post, rfl⟩ := List.append_of_mem hmem
  exact h.at_step.2.1

theorem invariant {P : σ → Prop} (h : Run step s log t) (hstart : P s)
    (hkeep : ∀ {s t : σ} {e : ε} {acts : List α}, P s → step s e = some (t, acts) → P t) :
    P t := by
  induction h with
  | nil => exact hstart
  | snoc _ hstep ih => exact hkeep ih hstep

/-- If every step adds as much as it begins and takes away as much as it ends, then so does a
run. -/
theorem balance {P : σ → Prop} {held : σ → Nat} {begins : α → Bool} {ends : ε → Bool}
    (h : Run step s log t) (hstart : P s)
    (hkeep : ∀ {s t : σ} {e : ε} {acts : List α}, P s → step s e = some (t, acts) → P t)
    (heach : ∀ {s t : σ} {e : ε} {acts : List α}, P s → step s e = some (t, acts) →
      held s + acts.countP begins = held t + (ends e).toNat) :
    held s + (seen log).countP begins = held t + log.countP fun τ => ends τ.event := by
  induction h with
  | nil => simp
  | snoc hrun hstep ih =>
      have hlast := heach (hrun.invariant hstart hkeep) hstep
      rw [seen_append, List.countP_append, List.countP_append, ← Nat.add_assoc, ih]
      simp only [seen_cons, seen_nil, List.append_nil, List.countP_cons, List.countP_nil]
      cases he : ends _ <;> simp [he] at hlast ⊢ <;> omega

section

variable (count : σ → Nat) (raises : Transition σ ε α → Prop)

/-- A count that some steps raise and no other step does never rises along a run iff none of them is
taken. -/
theorem never_rises_iff (hraise : ∀ τ ∈ log, raises τ → count τ.source < count τ.target)
    (hother : ∀ τ ∈ log, ¬raises τ → count τ.target ≤ count τ.source) :
    (∀ τ ∈ log, count τ.target ≤ count τ.source) ↔ ∀ τ ∈ log, ¬raises τ := by
  constructor
  · intro hnever τ hmem hraises
    exact absurd (hnever τ hmem) (Nat.not_le_of_lt (hraise τ hmem hraises))
  · exact fun hnone τ hmem => hother τ hmem (hnone τ hmem)

theorem count_le (h : Run step s log t) (hnever : ∀ τ ∈ log, count τ.target ≤ count τ.source) :
    count t ≤ count s := by
  induction h with
  | nil => exact Nat.le_refl _
  | @snoc log s t e acts _ _ ih =>
      have hlast : count t ≤ count s := hnever ⟨s, e, acts, t⟩ (by simp)
      exact Nat.le_trans hlast (ih fun τ hτ => hnever τ (List.mem_append_left _ hτ))

/-- A count that never rises and is zero after some step is so at the end. -/
theorem zero_of_never_rises (h : Run step s log t) (hzero : ∃ τ ∈ log, count τ.target = 0)
    (hnever : ∀ τ ∈ log, count τ.target ≤ count τ.source) : count t = 0 := by
  obtain ⟨τ, hmem, hzero⟩ := hzero
  obtain ⟨pre, post, rfl⟩ := List.append_of_mem hmem
  have hafter := h.at_step.2.2.count_le count fun ρ hρ =>
    hnever ρ (List.mem_append_right _ (List.mem_cons_of_mem _ hρ))
  exact Nat.eq_zero_of_le_zero (hzero ▸ hafter)

/-- If it is zero at the start, then it is zero all along the run iff none of them is taken. -/
theorem stays_zero_iff (h : Run step s log t) (hstart : count s = 0)
    (hraise : ∀ τ ∈ log, raises τ → count τ.source < count τ.target)
    (hother : ∀ τ ∈ log, ¬raises τ → count τ.target ≤ count τ.source) :
    (∀ τ ∈ log, count τ.target = 0) ↔ ∀ τ ∈ log, ¬raises τ := by
  constructor
  · intro hzero τ hmem hraises
    have hrise := hraise τ hmem hraises
    have hnone := hzero τ hmem
    omega
  · intro hnever τ hmem
    obtain ⟨pre, post, rfl⟩ := List.append_of_mem hmem
    obtain ⟨hpre, hstep, _⟩ := h.at_step
    -- Each step up to this one leaves at most what was there.
    have hle := (hpre.snoc hstep).count_le count fun ρ hρ =>
      have hearlier : ρ ∈ pre ++ τ :: post := by
        rcases List.mem_append.1 hρ with hρ | hρ
        · exact List.mem_append_left _ hρ
        · obtain rfl := List.mem_singleton.1 hρ
          exact hmem
      hother ρ hearlier (hnever ρ hearlier)
    exact Nat.eq_zero_of_le_zero (hstart ▸ hle)

end

/-- What happens decides a run. -/
theorem unique {log' : List (Transition σ ε α)} {t' : σ} (h : Run step s log t)
    (h' : Run step s log' t') (hevents : log.map (·.event) = log'.map (·.event)) : log = log' := by
  induction log generalizing s log' with
  | nil => simpa using hevents
  | cons τ rest ih =>
      cases log' with
      | nil => simp at hevents
      | cons τ' rest' =>
          obtain ⟨hevent, hlater⟩ : τ.event = τ'.event ∧ _ := List.cons.inj hevents
          obtain ⟨hsource, hfirst, hrest⟩ := h.uncons
          obtain ⟨hsource', hfirst', hrest'⟩ := h'.uncons
          rw [hevent, hfirst'] at hfirst
          obtain ⟨htarget, hacts⟩ := Prod.mk.inj (Option.some.inj hfirst)
          have hτ : τ = τ' := by
            cases τ
            cases τ'
            simp_all
          rw [hτ, ih (htarget ▸ hrest) hrest' hlater]

theorem target_unique {t' : σ} (h : Run step s log t) (h' : Run step s log t') : t = t' := by
  rcases List.eq_nil_or_concat log with rfl | ⟨rest, τ, rfl⟩
  · rw [h.eq_of_empty rfl, h'.eq_of_empty rfl]
  · rw [List.concat_eq_append] at h h'
    rw [h.at_step.2.2.eq_of_empty rfl, h'.at_step.2.2.eq_of_empty rfl]

/-- If events that are alike take states that are alike to such states, and `view` tells no
difference between what is seen of the two steps, then all that happens in a run can be replaced by
what is alike, and `view` tells no difference between the two runs. -/
theorem exists_alike {β : Type} {R : σ → σ → Prop} {E : ε → ε → Prop} {view : List α → β}
    {events : List ε} {s' : σ}
    (hstep : ∀ {s s' t : σ} {e e' : ε} {acts : List α}, R s s' → E e e' →
      step s e = some (t, acts) →
      ∃ t' acts', step s' e' = some (t', acts') ∧ R t t' ∧ view acts = view acts')
    (h : Run step s log t) (hstart : R s s')
    (hevents : List.Forall₂ E (log.map (·.event)) events) :
    ∃ log' t', Run step s' log' t' ∧ log'.map (·.event) = events ∧
      log.map (fun τ => view τ.acts) = log'.map fun τ => view τ.acts := by
  induction log generalizing s s' events with
  | nil =>
      cases hevents
      exact ⟨[], s', .nil, rfl, rfl⟩
  | cons τ rest ih =>
      obtain ⟨e, later, hevent, hlater, rfl⟩ := List.forall₂_cons_left_iff.1 hevents
      obtain ⟨rfl, hfirst, hrest⟩ := h.uncons
      obtain ⟨u, acts, htaken, halike, hview⟩ := hstep hstart hevent hfirst
      obtain ⟨log', t', hrun, hsame, hviews⟩ := ih hrest halike hlater
      refine ⟨⟨s', e, acts, u⟩ :: log', t', (single htaken).trans hrun, ?_, ?_⟩
      · rw [List.map_cons, hsame]
      · rw [List.map_cons, List.map_cons, hview, hviews]

end Run

/-- What `view` tells of a run does not depend on anything in which events that are alike differ: all
that happens in a run can be replaced by what is alike, and then `view` tells the same of each
step. -/
def Indifferent {β : Type} (step : σ → ε → Option (σ × List α)) (start : σ) (E : ε → ε → Prop)
    (view : List α → β) : Prop :=
  ∀ log t, Run step start log t →
    (∀ events, List.Forall₂ E (log.map (·.event)) events →
      ∃ log' t', Run step start log' t' ∧ log'.map (·.event) = events) ∧
    ∀ log' t', Run step start log' t' →
      List.Forall₂ E (log.map (·.event)) (log'.map (·.event)) →
      log.map (fun τ => view τ.acts) = log'.map fun τ => view τ.acts

theorem indifferent_of_step {β : Type} {R : σ → σ → Prop} {E : ε → ε → Prop} {view : List α → β}
    (hstart : R start start)
    (hstep : ∀ {s s' t : σ} {e e' : ε} {acts : List α}, R s s' → E e e' →
      step s e = some (t, acts) →
      ∃ t' acts', step s' e' = some (t', acts') ∧ R t t' ∧ view acts = view acts') :
    Indifferent step start E view := by
  intro log t hrun
  refine ⟨fun events hevents => ?_, fun log' t' hrun' hevents => ?_⟩
  · obtain ⟨log', t', hrun', hsame, _⟩ := hrun.exists_alike hstep hstart hevents
    exact ⟨log', t', hrun', hsame⟩
  · obtain ⟨other, u, hother, hsame, hviews⟩ := hrun.exists_alike hstep hstart hevents
    rw [hviews, hother.unique hrun' hsame]

/-- A step as another machine takes it, which knows a part of the state and of what is seen; or
nothing, if the event means nothing to that machine. -/
def Transition.project {σ' ε' α' : Type} (part : σ → σ') (own : σ → ε → Option ε')
    (view : α → Option α') (τ : Transition σ ε α) : Option (Transition σ' ε' α') :=
  (own τ.source τ.event).map fun e => ⟨part τ.source, e, τ.acts.filterMap view, part τ.target⟩

/-- If every step is one of the other machine, or one that this machine does not notice, then a run
is a run of the other machine. -/
theorem Run.project {σ' ε' α' : Type} {other : σ' → ε' → Option (σ' × List α')} (part : σ → σ')
    (own : σ → ε → Option ε') (view : α → Option α') (h : Run step s log t)
    (htake : ∀ τ ∈ log, ∀ e, own τ.source τ.event = some e →
      other (part τ.source) e = some (part τ.target, τ.acts.filterMap view))
    (hskip : ∀ τ ∈ log, own τ.source τ.event = none →
      part τ.target = part τ.source ∧ τ.acts.filterMap view = []) :
    Run other (part s) (log.filterMap (Transition.project part own view)) (part t) ∧
      seen (log.filterMap (Transition.project part own view)) = (seen log).filterMap view := by
  induction h with
  | nil => exact ⟨.nil, rfl⟩
  | @snoc log s t e acts _ _ ih =>
      obtain ⟨hrun, hseen⟩ := ih (fun τ hτ => htake τ (List.mem_append_left _ hτ))
        fun τ hτ => hskip τ (List.mem_append_left _ hτ)
      have hmem : ⟨s, e, acts, t⟩ ∈ log ++ [⟨s, e, acts, t⟩] := by simp
      rw [List.filterMap_append, seen_append, seen_append, List.filterMap_append, hseen]
      cases hown : own s e with
      | none =>
          obtain ⟨hpart, hacts⟩ := hskip _ hmem hown
          simpa [Transition.project, hown, hpart, hacts] using hrun
      | some b =>
          have hlast := htake _ hmem b hown
          exact ⟨by simpa [Transition.project, hown] using hrun.snoc hlast,
            by simp [Transition.project, hown]⟩

/-- The steps that a sequence of events makes, if every event can happen in its turn. -/
def replay (step : σ → ε → Option (σ × List α)) (s : σ) :
    List ε → Option (List (Transition σ ε α) × σ)
  | [] => some ([], s)
  | e :: rest =>
    match step s e with
    | some (t, acts) => (replay step t rest).map fun (log, u) => (⟨s, e, acts, t⟩ :: log, u)
    | none => none

theorem run_of_replay {events : List ε} (h : replay step s events = some (log, t)) :
    Run step s log t := by
  induction events generalizing s log with
  | nil =>
      obtain ⟨rfl, rfl⟩ : [] = log ∧ s = t := by simpa [replay] using h
      exact .nil
  | cons e rest ih =>
      rw [replay] at h
      split at h
      · rename_i t acts hstep
        obtain ⟨⟨log, u⟩, hrest, heq⟩ := Option.map_eq_some_iff.1 h
        obtain ⟨rfl, rfl⟩ := Prod.mk.inj heq
        exact (Run.single hstep).trans (ih hrest)
      · simp at h

/-- Events that can happen one after the other make a run, and what is checked of the replay holds
of the run. -/
theorem exists_run_of_replay {P : List (Transition σ ε α) → σ → Prop}
    [∀ log t, Decidable (P log t)] (events : List ε)
    (h : (replay step s events).any (fun r => decide (P r.1 r.2)) = true) :
    ∃ log t, Run step s log t ∧ P log t := by
  cases hreplay : replay step s events with
  | none => simp [hreplay] at h
  | some r =>
      rw [hreplay, Option.any_some, decide_eq_true_eq] at h
      exact ⟨r.1, r.2, run_of_replay hreplay, h⟩

end

end SessionGateway
