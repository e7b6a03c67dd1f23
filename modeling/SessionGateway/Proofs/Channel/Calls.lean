import SessionGateway.Proofs.Channel.Cleanup

/-!
# The calls of tasks

A task that runs a command or a forward calls the cluster when it runs for the first time, with
the request that it was started with, and never again. So what a channel has asked of the cluster
can be told from its tasks.
-/

namespace SessionGateway.Channel

def Act.calledBy (i : Nat) : Act → Bool
  | .exec j _ | .forward j _ => i = j
  | _ => false

def Work.called? (i : Nat) (w : Work) : Option Act :=
  if w.stage = .ready then none else w.job.callAct? i

theorem Act.calledBy_of_not_isCall {i : Nat} {a : Act} (h : a.isCall = false) :
    a.calledBy i = false := by
  cases a <;> simp_all [calledBy, isCall]

theorem filter_calledBy {i : Nat} {acts : List Act} (h : ∀ a ∈ acts, a.isCall = false) :
    acts.filter (Act.calledBy i) = [] :=
  List.filter_eq_nil_iff.2 fun a ha => by simp [Act.calledBy_of_not_isCall (h a ha)]

theorem Job.calledBy_callAct {i j : Nat} {job : Job} {act : Act} (hact : job.callAct? j = some act) :
    act.calledBy i = decide (i = j) := by
  cases job <;> simp only [callAct?, Option.some.injEq, reduceCtorEq] at hact <;> subst hact <;> rfl

namespace Scratch

def called? (s : Scratch) (i : Nat) : Option Act :=
  s.works[i]?.bind (·.called? i)

theorem called_setStage {s : Scratch} {i j : Nat} {job : Job} {before : Job.Stage}
    (after : Job.Stage) (hwork : s.works[j]? = some ⟨job, before⟩) :
    (s.setStage j after).called? i =
      if i = j then Work.called? i ⟨job, after⟩ else s.called? i := by
  by_cases hij : i = j
  · subst hij
    simp [called?, setStage, hwork]
  · have hji : ¬ j = i := fun h => hij h.symm
    simp [called?, setStage, hij, hji]

theorem called_setStage_of_same {s : Scratch} {i j : Nat} {job : Job} {before after : Job.Stage}
    (hwork : s.works[j]? = some ⟨job, before⟩)
    (hsame : Work.called? j ⟨job, after⟩ = Work.called? j ⟨job, before⟩) :
    (s.setStage j after).called? i = s.called? i := by
  rw [called_setStage after hwork]
  split
  · rename_i hij
    subst hij
    rw [hsame, called?, hwork, Option.bind_some]
  · rfl

theorem Grows.called {s t : Scratch} (hgrows : s.Grows t) (i : Nat) : t.called? i = s.called? i := by
  obtain ⟨jobs, hworks⟩ := hgrows.works
  simp only [called?, hworks]
  by_cases hold : i < s.works.length
  · rw [List.getElem?_append_left hold]
  · have hnew : s.works.length ≤ i := by omega
    rw [List.getElem?_append_right hnew, List.getElem?_eq_none hnew, List.getElem?_map]
    cases jobs[i - s.works.length]? <;> rfl

end Scratch

namespace Handler

variable {ctx : Context} {h t : Handler} {e : Event} {acts : List Act}

theorem called_finishWork {i j : Nat} {job : Job} {before : Job.Stage} (closes : Bool)
    (hwork : h.scratch.works[j]? = some ⟨job, before⟩)
    (hsame : Work.called? j ⟨job, .done⟩ = Work.called? j ⟨job, before⟩) :
    (h.finishWork j closes).scratch.called? i = h.scratch.called? i := by
  have hdone : (h.scratch.setStage j .done).called? i = h.scratch.called? i :=
    Scratch.called_setStage_of_same hwork hsame
  cases closes <;> exact hdone

theorem warnings_calledBy (i : Nat) (outcome : Except Cause Unit) :
    (execWarning outcome).filter (Act.calledBy i) = [] ∧
      (forwardWarning outcome).filter (Act.calledBy i) = [] := by
  cases outcome <;> exact ⟨rfl, rfl⟩

/-- The calls of a step are those that its tasks have made after it and had not made before. -/
theorem Sound.calls (hsound : h.Sound) (hmove : Move ctx h e acts t) (i : Nat) :
    (h.scratch.called? i).toList ++ acts.filter (Act.calledBy i) =
      (t.scratch.called? i).toList := by
  cases hmove with
  | start _ =>
      have hgrows : h.scratch.Grows (Table.runStartup ctx h.table.startup h.scratch).1 :=
        Table.runStartup_grows hsound.orderly.startup
      rw [filter_calledBy Table.runStartup_isCall, List.append_nil]
      simp only [hgrows.called]
  | @take raw _ _ _ _ =>
      have hgrows : h.scratch.Grows (h.table.dispatch ctx h.taken raw h.scratch).1 :=
        hsound.orderly.dispatch_grows h.taken raw
      rw [filter_calledBy Table.dispatch_isCall, List.append_nil]
      simp only [hgrows.called]
  | leave _ _ =>
      rw [filter_calledBy forgoFrom_isCall, List.append_nil]
      rfl
  | @call j job act hwork hact =>
      have hby : act.calledBy i = decide (i = j) := Job.calledBy_callAct hact
      rw [mapScratch_scratch, Scratch.called_setStage _ hwork]
      by_cases hij : i = j
      · subst hij
        simp [Scratch.called?, hwork, Work.called?, hact, hby]
      · simp [hij, hby]
  | @brief _ _ closes hwork =>
      rw [called_finishWork closes hwork rfl, List.filter_nil, List.append_nil]
  | join hwork _ =>
      rw [called_finishWork false hwork rfl]
      exact List.append_nil _
  | @execEnds j request interactive outcome hwork _ =>
      have hsilent := (warnings_calledBy i outcome).1
      rw [called_finishWork true hwork rfl]
      split
      · exact List.append_nil _
      · rw [hsilent, List.append_nil]
  | @write j request interactive outcome hwork _ _ =>
      have hsilent := (warnings_calledBy i outcome).1
      have hkept : (h.scratch.setStage j (.writing (closingLine ctx outcome))).called? i =
          h.scratch.called? i := Scratch.called_setStage_of_same hwork rfl
      rw [mapScratch_scratch, hkept, List.filter_append, hsilent]
      exact List.append_nil _
  | @forwardEnds j request outcome hwork =>
      have hsilent := (warnings_calledBy i outcome).2
      rw [called_finishWork true hwork rfl]
      split
      · exact List.append_nil _
      · rw [hsilent, List.append_nil]
  | written hwork =>
      rw [called_finishWork true hwork rfl, List.filter_nil, List.append_nil]
  | _ => exact List.append_nil _

/-- What a channel has asked of the cluster in a run is what its tasks have called for. -/
theorem Sound.calls_of_run {log : List (Transition Handler Event Act)} (hsound : h.Sound)
    (hstart : h.scratch.works = []) (hrun : Run (Handler.step ctx) h log t) (i : Nat) :
    (seen log).filter (Act.calledBy i) = (t.scratch.called? i).toList := by
  induction hrun with
  | nil => simp [Scratch.called?, hstart]
  | snoc hbefore hstep ih =>
      have hkept := hbefore.invariant hsound fun hsound hstep => Sound.step hsound hstep
      rw [seen_append, List.filter_append, ih, seen_cons, seen_nil, List.append_nil]
      exact Sound.calls hkept (move_of_step hstep) i

/-- A channel that has at most one task has asked of the cluster what this task has called for. -/
theorem Sound.calls_of_single {log : List (Transition Handler Event Act)} (hsound : h.Sound)
    (hstart : h.scratch.works = []) (hrun : Run (Handler.step ctx) h log t)
    (hsingle : t.scratch.works.length ≤ 1) :
    (seen log).filter Operation.call.begins = (t.scratch.called? 0).toList := by
  have hcalls := hsound.calls_of_run hstart hrun
  have hfirst : ∀ {i : Nat} {a : Act}, a ∈ seen log → a.calledBy i = true → i = 0 := by
    intro i a ha hcalled
    have hmem : a ∈ (seen log).filter (Act.calledBy i) := List.mem_filter.2 ⟨ha, hcalled⟩
    rw [hcalls i, Option.mem_toList] at hmem
    obtain ⟨w, hwork, _⟩ := Option.bind_eq_some_iff.1 hmem
    have hlt := (List.getElem?_eq_some_iff.1 hwork).1
    omega
  rw [← hcalls 0]
  apply List.filter_congr
  intro a ha
  cases a with
  | exec i _ | forward i _ =>
      obtain rfl := hfirst ha (i := i) (by simp [Act.calledBy])
      simp [Operation.begins, Act.calledBy]
  | _ => rfl

end Handler

end SessionGateway.Channel
