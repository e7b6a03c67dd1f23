import SessionGateway.Proofs.Connection.Attempts

/-!
# What becomes of an attempt

An attempt to open a channel is answered at most once. It is destroyed if it is not answered, and
its answer can be given up while it is under way; after that nothing is done with it any more. What
has been done with an attempt so far can be told from its stage.
-/

namespace SessionGateway

theorem getElem?_push_of_ne {α : Type} {xs : List α} {x : α} {i : Nat} (hi : ¬ i = xs.length) :
    (xs ++ [x])[i]? = xs[i]? := by
  rw [List.getElem?_append]
  split
  · rfl
  · rw [List.getElem?_eq_none (l := [x]) (by simp; omega), List.getElem?_eq_none (by omega)]

namespace Connection

def Event.attempt? : Event → Option Attempt
  | .openChannel kind payload => some ⟨kind, payload, .fresh⟩
  | _ => none

def attempted (events : List Event) : List Attempt :=
  events.filterMap Event.attempt?

def Act.answers (n : Nat) : Act → Bool
  | .accept m | .reject m _ _ => m = n
  | _ => false

/-- Whether an act answers an attempt, gives its answer up, or destroys it. -/
def Act.settles (n : Nat) : Act → Bool
  | .withdraw m | .drop m => m = n
  | a => a.answers n

def fate (n : Nat) (acts : List Act) : List Act :=
  acts.filter (Act.settles n)

def Stage.waits : Stage → Bool
  | .queued _ | .ready _ => true
  | _ => false

/-- Whether an attempt is being answered, or has been accepted. -/
def Stage.answered : Stage → Bool
  | .accepting _ _ | .rejecting _ _ | .serving _ | .crashed => true
  | _ => false

/-- What has been done with an attempt that has got to a stage. -/
inductive Fate (n : Nat) : Option Stage → List Act → Prop
  | absent : Fate n none []
  | waiting {stage : Stage} (hwaits : stage.waits = true) : Fate n (some stage) []
  | answered {stage : Stage} {answer : Act} (hanswered : stage.answered = true)
      (hanswer : answer.answers n = true) : Fate n (some stage) [answer]
  | dropped : Fate n (some .ended) [.drop n]
  | failed {answer : Act} (hanswer : answer.answers n = true) : Fate n (some .ended) [answer]
  | withdrawn {answer : Act} (hanswer : answer.answers n = true) :
      Fate n (some .ended) [answer, .withdraw n]

section

variable {n m : Nat} {acts rest : List Act} {stage after : Stage} {e : Event} {ctx : Context}
  {cancelled : Bool}

@[simp] theorem fate_nil : fate n [] = [] := rfl

@[simp] theorem fate_append : fate n (acts ++ rest) = fate n acts ++ fate n rest := by
  simp [fate]

@[simp] theorem fate_cons (a : Act) :
    fate n (a :: acts) = (if a.settles n then [a] else []) ++ fate n acts := by
  cases h : a.settles n <;> simp [fate, h]

@[simp] theorem fate_channel (own : List Channel.Act) : fate n (own.map (.channel m)) = [] := by
  rw [fate, List.filter_eq_nil_iff]
  intro a ha
  obtain ⟨_, _, rfl⟩ := List.mem_map.1 ha
  simp [Act.settles, Act.answers]

@[simp] theorem fate_forgone (a : Attempt) : fate n (forgone m a) = [] :=
  fate_channel _

@[simp] theorem fate_faultWarning (fault : Option Wire.Error) : fate n (faultWarning fault) = [] := by
  cases fault <;> rfl

theorem mem_dropQueued {stages : List Stage} {a : Act}
    (ha : a ∈ (State.dropQueued n stages).2) :
    (∃ m, a = .drop m) ∨ ∃ m i, a = .channel m (.forgo i) := by
  induction stages generalizing n with
  | nil => simp [State.dropQueued] at ha
  | cons stage rest ih =>
      cases stage with
      | queued b =>
          simp only [State.dropQueued, List.cons_append, List.mem_cons, List.mem_append] at ha
          rcases ha with rfl | ha | ha
          · exact .inl ⟨n, rfl⟩
          · obtain ⟨own, hmem, rfl⟩ := List.mem_map.1 ha
            obtain ⟨i, rfl⟩ := forgoFrom_forgo own hmem
            exact .inr ⟨n, i, rfl⟩
          · exact ih ha
      | _ => exact ih ha

theorem fate_numbered : fate n (numbered n acts) = fate n acts := by
  rw [fate, fate, numbered, List.filter_filter]
  congr 1
  funext a
  cases a <;> simp [Act.number?, Act.settles, Act.answers]

/-! ## One step -/

theorem Stage.Step.fate_other (hstep : stage.Step ctx cancelled m e acts after) (hne : ¬ m = n) :
    fate n acts = [] := by
  cases hstep <;> simp [hne, Act.settles, Act.answers, Connection.failed]

namespace Fate

variable {before : Option Stage} {done : List Act}

theorem of_quiet (hfate : Fate n before done) (hquiet : fate n acts = []) :
    Fate n before (done ++ fate n acts) := by
  rw [hquiet, List.append_nil]
  exact hfate

theorem of_waiting (hfate : Fate n (some stage) done) (hwaits : stage.waits = true) :
    done = [] := by
  cases hfate with
  | waiting _ => rfl
  | answered hanswered _ => cases stage <;> simp_all [Stage.waits, Stage.answered]
  | _ => cases hwaits

theorem of_answered (hfate : Fate n (some stage) done) (hanswered : stage.answered = true) :
    ∃ answer : Act, answer.answers n = true ∧ done = [answer] := by
  cases hfate with
  | waiting hwaits => cases stage <;> simp_all [Stage.waits, Stage.answered]
  | answered _ hanswer => exact ⟨_, hanswer, rfl⟩
  | _ => cases hanswered

theorem of_same (hfate : Fate n (some stage) done) (hwaits : stage.waits = after.waits)
    (hanswered : stage.answered = after.answered) (hended : stage = .ended → after = .ended) :
    Fate n (some after) done := by
  cases hfate with
  | waiting h => exact .waiting (hwaits ▸ h)
  | answered h hanswer => exact .answered (hanswered ▸ h) hanswer
  | dropped => exact hended rfl ▸ .dropped
  | failed hanswer => exact hended rfl ▸ .failed hanswer
  | withdrawn hanswer => exact hended rfl ▸ .withdrawn hanswer

theorem cancel (hfate : Fate n before done) : Fate n (before.map Stage.cancel) done := by
  cases before with
  | none => exact hfate
  | some stage =>
      refine hfate.of_same ?_ ?_ (by rintro rfl; rfl)
      · cases stage <;> rfl
      · cases stage <;> rfl

theorem own (hfate : Fate n (some stage) done) (hstep : stage.Step ctx cancelled n e acts after) :
    Fate n (some after) (done ++ fate n acts) := by
  cases hstep with
  | accept _ _ | reject _ _ =>
      obtain rfl := hfate.of_waiting rfl
      simpa [Act.settles, Act.answers] using Fate.answered rfl (by simp [Act.answers])
  | abandon _ =>
      obtain rfl := hfate.of_waiting rfl
      simpa [Act.settles] using Fate.dropped
  | withdrawAccept _ | withdrawReject _ =>
      obtain ⟨answer, hanswer, rfl⟩ := hfate.of_answered rfl
      simpa [Act.settles] using Fate.withdrawn hanswer
  | serve _ _ | crash _ _ =>
      obtain ⟨answer, hanswer, rfl⟩ := hfate.of_answered rfl
      simpa using Fate.answered rfl hanswer
  | acceptFails _ | rejected _ | rejectFails _ =>
      obtain ⟨answer, hanswer, rfl⟩ := hfate.of_answered rfl
      simpa [Connection.failed, Act.settles, Act.answers] using Fate.failed hanswer
  | early hattempt _ =>
      refine of_quiet ?_ rfl
      cases stage with
      | queued _ | ready _ | accepting _ _ | rejecting _ _ => exact hfate.of_same rfl rfl (by simp)
      | _ => cases hattempt
  | work _ _ =>
      refine of_quiet ?_ (fate_channel _)
      exact hfate.of_same rfl rfl (by simp)

end Fate

namespace State

variable {s t : State} {done : List Act}

theorem getElem?_setStage (hstage : s.channels[m]? = some stage) :
    (s.setStage m after).channels[n]? = if m = n then some after else s.channels[n]? := by
  have hlt : m < s.channels.length := (List.getElem?_eq_some_iff.1 hstage).1
  by_cases hm : m = n
  · subst hm
    simp [setStage, hlt]
  · simp [setStage, hm]

theorem fate_setStage (hfate : Fate n s.channels[n]? done) (hstage : s.channels[m]? = some stage)
    (hown : m = n → Fate n (some stage) done → Fate n (some after) (done ++ fate n acts))
    (hother : ¬ m = n → fate n acts = []) :
    Fate n (s.setStage m after).channels[n]? (done ++ fate n acts) := by
  rw [getElem?_setStage hstage]
  split
  · rename_i hm
    subst hm
    rw [hstage] at hfate
    exact hown rfl hfate
  · rename_i hm
    exact hfate.of_quiet (hother hm)

theorem fate_push (hfate : Fate n s.channels[n]? done)
    (hnew : n = s.channels.length → Fate n (some stage) (fate n acts))
    (hother : ¬ n = s.channels.length → fate n acts = []) :
    Fate n (s.channels ++ [stage])[n]? (done ++ fate n acts) := by
  by_cases hn : n = s.channels.length
  · subst hn
    rw [List.getElem?_eq_none (Nat.le_refl _)] at hfate
    cases hfate with
    | absent =>
        rw [List.getElem?_concat_length]
        exact hnew rfl
  · rw [getElem?_push_of_ne hn]
    exact hfate.of_quiet (hother hn)

theorem fate_leave {report : List Act} (hfate : Fate n s.channels[n]? done)
    (hreport : fate n report = []) :
    Fate n s.leave.1.channels[n]? (done ++ fate n (report ++ s.leave.2)) := by
  rw [leave_channels, List.getElem?_map, fate_append, hreport, List.nil_append, ← fate_numbered,
    numbered_leave]
  cases hstage : s.channels[n]? with
  | none =>
      rw [hstage] at hfate
      simpa using hfate
  | some stage =>
      rw [hstage] at hfate
      cases stage with
      | queued a =>
          obtain rfl := hfate.of_waiting rfl
          simpa [Stage.drop, Act.settles] using Fate.dropped
      | _ => simpa [Stage.drop] using hfate

/-- A step does with an attempt what its stage tells. -/
theorem fate_move (hfate : Fate n s.channels[n]? done) (hmove : s.Move e acts t) :
    Fate n t.channels[n]? (done ++ fate n acts) := by
  cases hmove with
  | elapse _ | endOpens | globalRequest _ | endGlobals | provision _ _ | provisioned _ =>
      exact hfate.of_quiet rfl
  | cancel =>
      rw [State.cancel, List.getElem?_map]
      exact hfate.cancel.of_quiet rfl
  | arrive kind payload _ =>
      exact fate_push hfate (fun _ => .waiting rfl) fun _ => rfl
  | refuse kind payload _ =>
      refine fate_push hfate (fun hn => ?_) fun hn => ?_
      · simpa [Act.settles, hn] using Fate.dropped (n := n)
      · have hne : ¬ s.channels.length = n := fun h => hn h.symm
        simp [Act.settles, hne]
  | leave hleaves =>
      refine fate_leave hfate ?_
      cases hleaves with
      | noPod _ => split <;> rfl
      | _ => rfl
  | join _ _ =>
      rw [State.cancel, List.getElem?_map]
      exact hfate.cancel.of_quiet rfl
  | close _ _ _ =>
      refine hfate.of_quiet ?_
      simp only [crashReport]
      split <;> rfl
  | takeOpen _ _ hqueued =>
      have hquiet : fate n [] = [] := rfl
      refine fate_setStage hfate hqueued (fun _ hown => ?_) fun _ => hquiet
      refine Fate.of_quiet ?_ hquiet
      exact hown.of_same rfl rfl (by simp)
  | attempt hstage hstep =>
      refine fate_setStage hfate hstage (fun hm hown => ?_) hstep.fate_other
      subst hm
      exact hown.own hstep
  | @keepalive e k own _ _ =>
      have hquiet : fate n ((if givesUpProbe s.keepalive e then [.giveUpProbe] else []) ++
          own.map (probing k.settings.request)) = [] := by
        rw [← fate_numbered, numbered_append, numbered_probing]
        split <;> rfl
      split
      · rw [State.cancel, List.getElem?_map]
        exact hfate.cancel.of_quiet hquiet
      · exact hfate.of_quiet hquiet
  | discard _ _ => exact hfate.of_quiet (by rw [← fate_numbered, numbered_discards, fate_nil])
  | @closed outcome report _ hreport =>
      refine hfate.of_quiet ?_
      rw [hreport]
      cases outcome <;> rfl

theorem length_move (hmove : s.Move e acts t) :
    t.channels.length = s.channels.length + e.attempt?.toList.length := by
  cases hmove with
  | arrive _ _ _ | refuse _ _ _ => simp [Event.attempt?]
  | cancel | join _ _ => simp [State.cancel, Event.attempt?]
  | leave hleaves =>
      rw [leave_channels, List.length_map]
      cases hleaves <;> rfl
  | takeOpen _ _ _ => simp [setStage, Event.attempt?]
  | attempt _ hstep =>
      simp only [setStage, List.length_set]
      cases hstep <;> rfl
  | keepalive _ _ => split <;> simp [State.cancel, Event.attempt?]
  | _ => rfl

end State

end

/-! ## A whole run -/

section

variable {ctx : Context} {cancelled : Bool} {log : Log} {s : State}

theorem fate_of_run (hrun : Run State.step (State.fresh ctx cancelled) log s) (n : Nat) :
    Fate n s.channels[n]? (fate n (seen log)) := by
  induction hrun with
  | nil => exact .absent
  | snoc _ hstep ih =>
      rw [seen_append, fate_append, seen_cons, seen_nil, List.append_nil]
      exact State.fate_move ih (State.move_of_step hstep)

theorem length_of_run (hrun : Run State.step (State.fresh ctx cancelled) log s) :
    s.channels.length = (attempted (log.map (·.event))).length := by
  induction hrun with
  | nil => rfl
  | @snoc log s t e acts _ hstep ih =>
      rw [State.length_move (State.move_of_step hstep), ih]
      cases hattempt : e.attempt? <;> simp [attempted, hattempt]

end

end Connection

end SessionGateway
