import Mathlib.Algebra.Group.Nat.Defs
import Mathlib.Data.List.Infix
import SessionGateway.Connection.Watch
import SessionGateway.Proofs.Connection.Probing
import SessionGateway.Proofs.Run

/-!
# When a watch gives a peer up

The token is cancelled by the end of the first probe that completes one failure in a row more than
are tolerated, and by nothing else that the probing does; until then every probe is followed by the
next one. `Move` lists what one step can do, and `Stands` tells where the probing is from what has
become of its probes.
-/

namespace SessionGateway.Keepalive

/-- How many of some outcomes have been failures in a row at the end. -/
def failing (os : List Outcome) : Nat :=
  (os.reverse.takeWhile Outcome.fails).length

/-- More failures in a row than are tolerated stand at the end of some outcomes. -/
def Spent (k : Keepalive) (os : List Outcome) : Prop :=
  k.maxRetries.toNat < failing os

/-- The count of failures once a probe has come to an end. -/
def State.failuresAfter (s : State) (o : Outcome) : UInt32 :=
  if o.fails then s.failures + 1 else 0

@[simp] theorem failing_nil : failing [] = 0 := rfl

@[simp] theorem failing_append_singleton (os : List Outcome) (o : Outcome) :
    failing (os ++ [o]) = if o.fails then failing os + 1 else 0 := by
  cases h : o.fails <;> simp [failing, h]

theorem failing_le_length (os : List Outcome) : failing os ≤ os.length := by
  simpa [failing] using (List.takeWhile_sublist (p := Outcome.fails) (l := os.reverse)).length_le

namespace Watch

abbrev Log := List (Transition Watch Event Act)

def outcomes (log : Log) : List Outcome :=
  log.filterMap fun τ => match τ.event with
    | .settle o => some o
    | _ => none

/-- The time once for each probe that is sent at it. -/
def probesAt (now : Nat) (acts : List Act) : List Nat :=
  acts.filterMap fun
    | .probe => some now
    | .exhausted _ => none

def sent (log : Log) : List Nat :=
  log.flatMap fun τ => probesAt τ.source.clock τ.acts

/-- When the task began, if it has. -/
def begun? (log : Log) : Option Nat :=
  log.findSome? fun τ => match τ.event with
    | .start _ => some τ.source.clock
    | _ => none

def interrupted (log : Log) : Bool :=
  log.any (·.event = .cancel)

def moveTo (w : Watch) (phase : Phase) : Watch :=
  { w with probing := { w.probing with phase := phase } }

@[simp] theorem moveTo_settings (w : Watch) (phase : Phase) :
    (w.moveTo phase).probing.settings = w.probing.settings := rfl

@[simp] theorem moveTo_phase (w : Watch) (phase : Phase) :
    (w.moveTo phase).probing.phase = phase := rfl

@[simp] theorem moveTo_failures (w : Watch) (phase : Phase) :
    (w.moveTo phase).probing.failures = w.probing.failures := rfl

@[simp] theorem moveTo_clock (w : Watch) (phase : Phase) : (w.moveTo phase).clock = w.clock := rfl

@[simp] theorem moveTo_cancelled (w : Watch) (phase : Phase) :
    (w.moveTo phase).cancelled = w.cancelled := rfl

/-- When the next tick after one that was due is due. -/
def nextTick (w : Watch) (due : Nat) : Nat :=
  (if due + tolerance < w.clock then w.clock else due) + w.probing.settings.period

/-- What one step does to a watch. -/
inductive Move (w : Watch) : Event → List Act → Watch → Prop
  | elapse (time : Nat) : Move w (.elapse time) [] { w with clock := w.clock + time }
  | cancel : Move w .cancel [] { w with cancelled := true }
  | start {panic : String} (hphase : w.probing.phase = .ready)
      (hfit : ¬ w.probing.settings.Unfit w.clock) :
      Move w (.start panic) [] (w.moveTo (.waiting (w.clock + w.probing.settings.interval)))
  | crash {panic : String} (hphase : w.probing.phase = .ready)
      (hunfit : w.probing.settings.Unfit w.clock) :
      Move w (.start panic) [] (w.moveTo (.crashed panic))
  | send {due : Nat} (hphase : w.probing.phase = .waiting due) (hdue : due ≤ w.clock) :
      Move w .tick [.probe]
        (w.moveTo (.probing (w.nextTick due) (w.clock + w.probing.settings.interval)))
  | settle {due deadline : Nat} {o : Outcome} (hphase : w.probing.phase = .probing due deadline)
      (hover : o = .unanswered → deadline ≤ w.clock)
      (hspared : ¬ w.probing.settings.maxRetries < w.probing.failuresAfter o) :
      Move w (.settle o) []
        { w with probing := ⟨w.probing.settings, .waiting due, w.probing.failuresAfter o⟩ }
  | exhaust {due deadline : Nat} {o : Outcome} (hphase : w.probing.phase = .probing due deadline)
      (hover : o = .unanswered → deadline ≤ w.clock)
      (hspent : w.probing.settings.maxRetries < w.probing.failuresAfter o) :
      Move w (.settle o) [.exhausted (w.probing.failuresAfter o)]
        ⟨⟨w.probing.settings, .stopped, w.probing.failuresAfter o⟩, w.clock, true⟩
  | stop (hphase : (∃ due, w.probing.phase = .waiting due) ∨
        ∃ due deadline, w.probing.phase = .probing due deadline) (hcancel : w.cancelled = true) :
      Move w .stop [] (w.moveTo .stopped)

variable {k : Keepalive} {cancelled : Bool} {w t : Watch} {e : Event} {acts : List Act}
  {log later : Log} {s u : Watch} {o : Outcome} {due deadline : Nat}

/-! ## What a step can do -/

theorem act_eq_some {own : Keepalive.Event} (h : w.act own = some (t, acts)) :
    ∃ p, w.probing.step w.cancelled w.clock own = some (p, acts) ∧
      t = { w with probing := p, cancelled := w.cancelled || acts.any Act.cancels } := by
  obtain ⟨⟨p, own⟩, hstep, heq⟩ := Option.map_eq_some_iff.1 h
  obtain ⟨rfl, rfl⟩ := Prod.mk.inj heq
  exact ⟨p, hstep, rfl⟩

/-- A probe comes to an end only while it is on its way, and for want of an answer only when its
time is over. -/
theorem step_outcome (hphase : w.probing.phase = .probing due deadline)
    (hover : o = .unanswered → deadline ≤ w.clock) :
    w.probing.step w.cancelled w.clock o.event = some (w.probing.settle due (!o.fails)) := by
  cases o with
  | unanswered => simp [State.step, Outcome.event, Outcome.fails, hphase, hover rfl]
  | _ => simp [State.step, Outcome.event, Outcome.fails, hphase]

theorem probing_of_outcome {p : State}
    (h : w.probing.step w.cancelled w.clock o.event = some (p, acts)) :
    ∃ due deadline, w.probing.phase = .probing due deadline ∧
      (o = .unanswered → deadline ≤ w.clock) := by
  cases hphase : w.probing.phase with
  | probing due deadline =>
      refine ⟨due, deadline, rfl, ?_⟩
      rintro rfl
      by_contra hearly
      simp [State.step, Outcome.event, hphase, hearly] at h
  | _ => cases o <;> simp [State.step, Outcome.event, hphase] at h

theorem settle_spared {p : State}
    (hspared : ¬ p.settings.maxRetries < p.failuresAfter o) :
    p.settle due (!o.fails) = (⟨p.settings, .waiting due, p.failuresAfter o⟩, []) := by
  cases hfails : o.fails <;> simp_all [State.settle, State.failuresAfter]

theorem settle_spent {p : State} (hspent : p.settings.maxRetries < p.failuresAfter o) :
    p.settle due (!o.fails) =
      (⟨p.settings, .stopped, p.failuresAfter o⟩, [.exhausted (p.failuresAfter o)]) := by
  cases hfails : o.fails <;> simp_all [State.settle, State.failuresAfter]

theorem move_of_settle (h : w.act o.event = some (t, acts)) : Move w (.settle o) acts t := by
  obtain ⟨p, hstep, rfl⟩ := act_eq_some h
  obtain ⟨due, deadline, hphase, hover⟩ := probing_of_outcome hstep
  rw [step_outcome hphase hover] at hstep
  by_cases hspent : w.probing.settings.maxRetries < w.probing.failuresAfter o
  · rw [settle_spent hspent] at hstep
    obtain ⟨rfl, rfl⟩ := Prod.mk.inj (Option.some.inj hstep)
    simpa [Act.cancels] using Move.exhaust hphase hover hspent
  · rw [settle_spared hspent] at hstep
    obtain ⟨rfl, rfl⟩ := Prod.mk.inj (Option.some.inj hstep)
    simpa using Move.settle hphase hover hspent

theorem move_of_step (h : w.step e = some (t, acts)) : Move w e acts t := by
  cases e with
  | elapse time =>
      obtain ⟨rfl, rfl⟩ := Prod.mk.inj (Option.some.inj h)
      exact .elapse time
  | cancel =>
      obtain ⟨rfl, rfl⟩ := Prod.mk.inj (Option.some.inj h)
      exact .cancel
  | start panic =>
      obtain ⟨p, hstep, rfl⟩ := act_eq_some h
      cases State.move_of_step hstep with
      | start hphase hfit => simpa [moveTo] using Move.start hphase hfit
      | crash hphase hunfit => simpa [moveTo] using Move.crash hphase hunfit
  | tick =>
      obtain ⟨p, hstep, rfl⟩ := act_eq_some h
      cases State.move_of_step hstep with
      | send hphase hdue => simpa [nextTick, moveTo, Act.cancels] using Move.send hphase hdue
  | settle o => exact move_of_settle h
  | stop =>
      obtain ⟨p, hstep, rfl⟩ := act_eq_some h
      cases State.move_of_step hstep with
      | stop hphase hcancel => simpa [moveTo] using Move.stop hphase hcancel

theorem clock_le_of_run (hrun : Run Watch.step w log s) : w.clock ≤ s.clock := by
  induction hrun with
  | nil => exact Nat.le_refl _
  | snoc _ hstep ih =>
      refine ih.trans ?_
      cases move_of_step hstep with
      | elapse time => exact Nat.le_add_right _ _
      | _ => exact Nat.le_refl _

/-! ## What is known from the history -/

section

variable (pre post : Log) (τ : Transition Watch Event Act)

@[simp] theorem outcomes_append : outcomes (pre ++ post) = outcomes pre ++ outcomes post :=
  List.filterMap_append

@[simp] theorem outcomes_singleton :
    outcomes [τ] = match τ.event with
      | .settle o => [o]
      | _ => [] := by
  unfold outcomes
  cases h : τ.event <;> simp [h]

@[simp] theorem sent_append : sent (pre ++ post) = sent pre ++ sent post :=
  List.flatMap_append

@[simp] theorem probesAt_nil (now : Nat) : probesAt now [] = [] := rfl

@[simp] theorem probesAt_probe (now : Nat) : probesAt now [.probe] = [now] := rfl

@[simp] theorem probesAt_exhausted (now : Nat) (failures : UInt32) :
    probesAt now [.exhausted failures] = [] := rfl

@[simp] theorem sent_singleton : sent [τ] = probesAt τ.source.clock τ.acts :=
  List.flatMap_singleton _ _

@[simp] theorem begun?_append : begun? (pre ++ post) = (begun? pre).or (begun? post) :=
  List.findSome?_append

@[simp] theorem begun?_singleton :
    begun? [τ] = match τ.event with
      | .start _ => some τ.source.clock
      | _ => none := by
  unfold begun?
  cases h : τ.event <;> simp [h]

@[simp] theorem interrupted_append :
    interrupted (pre ++ post) = (interrupted pre || interrupted post) :=
  List.any_append

@[simp] theorem interrupted_singleton : interrupted [τ] = (τ.event = .cancel : Bool) := by
  simp [interrupted]

end

/-- What a state keeps of the outcomes: how many have been failures in a row, counted with 32 bits,
and that none but the last may have been one too many. -/
structure Tally (k : Keepalive) (os : List Outcome) (p : State) : Prop where
  settings : p.settings = k
  failures : p.failures = UInt32.ofNat (failing os)
  spared : ∀ pre, pre <+: os → pre ≠ os → ¬ k.maxRetries < UInt32.ofNat (failing pre)

/-- Where the probing stands, from when it has begun, how many probes it has sent, what has become of
them, and whether the token has been cancelled from outside. -/
inductive Stands (k : Keepalive) (begun : Option Nat) (probes : Nat) (os : List Outcome)
    (outside : Bool) (p : State) (cancelled : Bool) : Prop
  | ready (hphase : p.phase = .ready) (hcancelled : cancelled = outside) (hbegun : begun = none)
      (hprobes : probes = 0) (hos : os = [])
  | crashed {b : Nat} {panic : String} (hphase : p.phase = .crashed panic)
      (hcancelled : cancelled = outside) (hbegun : begun = some b) (hunfit : k.Unfit b)
      (hprobes : probes = 0) (hos : os = [])
  | waiting {due : Nat} (hphase : p.phase = .waiting due) (hcancelled : cancelled = outside)
      (hbegun : ∃ b ∈ begun, ¬ k.Unfit b) (hprobes : probes = os.length)
      (hspared : ¬ k.maxRetries < p.failures)
  | probing {due deadline : Nat} (hphase : p.phase = .probing due deadline)
      (hcancelled : cancelled = outside) (hbegun : ∃ b ∈ begun, ¬ k.Unfit b)
      (hprobes : probes = os.length + 1) (hspared : ¬ k.maxRetries < p.failures)
  | exhausted (hphase : p.phase = .stopped) (hcancelled : cancelled = true)
      (hbegun : ∃ b ∈ begun, ¬ k.Unfit b) (hprobes : probes = os.length)
      (hspent : k.maxRetries < p.failures)
  | stopped (hphase : p.phase = .stopped) (hcancelled : cancelled = true) (houtside : outside = true)
      (hbegun : ∃ b ∈ begun, ¬ k.Unfit b) (hprobes : os.length ≤ probes ∧ probes ≤ os.length + 1)
      (hspared : ¬ k.maxRetries < p.failures)

section

variable {begun : Option Nat} {probes : Nat} {os : List Outcome} {outside : Bool} {p : State}

theorem Tally.moveTo {phase : Phase} (h : Tally k os w.probing) :
    Tally k os (w.moveTo phase).probing :=
  ⟨h.settings, h.failures, h.spared⟩

/-- One more outcome, as long as the probing has not given up. -/
theorem Tally.snoc (h : Tally k os p) (hspared : ¬ k.maxRetries < p.failures) (phase : Phase) :
    Tally k (os ++ [o]) ⟨p.settings, phase, p.failuresAfter o⟩ where
  settings := h.settings
  failures := by
    cases hfails : o.fails <;> simp [State.failuresAfter, hfails, h.failures, UInt32.ofNat_add]
  spared pre hpart hproper := by
    rcases List.prefix_concat_iff.1 hpart with rfl | hearlier
    · exact absurd rfl hproper
    · by_cases hwhole : pre = os
      · rwa [hwhole, ← h.failures]
      · exact h.spared pre hearlier hwhole

theorem Stands.of_ready (h : Stands k begun probes os outside p cancelled)
    (hphase : p.phase = .ready) :
    cancelled = outside ∧ begun = none ∧ probes = 0 ∧ os = [] := by
  cases h <;> simp_all

theorem Stands.of_waiting (h : Stands k begun probes os outside p cancelled)
    (hphase : p.phase = .waiting due) :
    cancelled = outside ∧ (∃ b ∈ begun, ¬ k.Unfit b) ∧ probes = os.length ∧
      ¬ k.maxRetries < p.failures := by
  cases h <;> simp_all

theorem Stands.of_probing (h : Stands k begun probes os outside p cancelled)
    (hphase : p.phase = .probing due deadline) :
    cancelled = outside ∧ (∃ b ∈ begun, ¬ k.Unfit b) ∧ probes = os.length + 1 ∧
      ¬ k.maxRetries < p.failures := by
  cases h <;> simp_all

/-- At most one probe is on its way. -/
theorem Stands.in_flight (h : Stands k begun probes os outside p cancelled) :
    os.length ≤ probes ∧ probes ≤ os.length + 1 := by
  cases h <;> simp_all

theorem Stands.cancel (h : Stands k begun probes os outside p cancelled) :
    Stands k begun probes os true p true := by
  cases h with
  | ready hphase _ hbegun hprobes hos => exact .ready hphase rfl hbegun hprobes hos
  | crashed hphase _ hbegun hunfit hprobes hos =>
      exact .crashed hphase rfl hbegun hunfit hprobes hos
  | waiting hphase _ hbegun hprobes hspared => exact .waiting hphase rfl hbegun hprobes hspared
  | probing hphase _ hbegun hprobes hspared => exact .probing hphase rfl hbegun hprobes hspared
  | exhausted hphase _ hbegun hprobes hspent => exact .exhausted hphase rfl hbegun hprobes hspent
  | stopped hphase _ _ hbegun hprobes hspared =>
      exact .stopped hphase rfl rfl hbegun hprobes hspared

end

theorem stands_of_run (hrun : Run Watch.step (Watch.fresh k cancelled) log s) :
    Tally k (outcomes log) s.probing ∧
      Stands k (begun? log) (sent log).length (outcomes log) (cancelled || interrupted log)
        s.probing s.cancelled := by
  induction hrun with
  | nil =>
      refine ⟨⟨rfl, rfl, fun pre hpart hproper => ?_⟩, .ready rfl ?_ rfl rfl rfl⟩
      · exact absurd (List.prefix_nil.1 hpart) hproper
      · simp [interrupted, Watch.fresh]
  | @snoc log s t e acts _ hstep ih =>
      obtain ⟨htally, hstands⟩ := ih
      simp only [outcomes_append, outcomes_singleton, sent_append, sent_singleton, begun?_append,
        begun?_singleton, interrupted_append, interrupted_singleton]
      cases move_of_step hstep with
      | elapse time => simpa using ⟨htally, hstands⟩
      | cancel => simpa using ⟨htally, hstands.cancel⟩
      | start hphase hfit =>
          obtain ⟨hcancelled, hbegun, hprobes, hos⟩ := hstands.of_ready hphase
          have hfailures : s.probing.failures = 0 := by rw [htally.failures, hos]; rfl
          rw [htally.settings] at hfit
          refine ⟨by simpa using htally.moveTo, .waiting rfl (by simpa using hcancelled)
            ⟨s.clock, by simp [hbegun], hfit⟩ (by simpa [hos] using hprobes) ?_⟩
          simp [hfailures]
      | crash hphase hunfit =>
          obtain ⟨hcancelled, hbegun, hprobes, hos⟩ := hstands.of_ready hphase
          rw [htally.settings] at hunfit
          exact ⟨by simpa using htally.moveTo, .crashed rfl (by simpa using hcancelled)
            (by simp [hbegun]) hunfit (by simpa using hprobes) (by simpa using hos)⟩
      | send hphase hdue =>
          obtain ⟨hcancelled, hbegun, hprobes, hspared⟩ := hstands.of_waiting hphase
          exact ⟨by simpa using htally.moveTo, .probing rfl (by simpa using hcancelled)
            (by simpa using hbegun) (by simpa using hprobes) hspared⟩
      | @settle due deadline o hphase hover hstays =>
          obtain ⟨hcancelled, hbegun, hprobes, hspared⟩ := hstands.of_probing hphase
          rw [htally.settings] at hstays
          exact ⟨htally.snoc hspared _, .waiting rfl (by simpa using hcancelled)
            (by simpa using hbegun) (by simpa using hprobes) hstays⟩
      | @exhaust due deadline o hphase hover hspent =>
          obtain ⟨hcancelled, hbegun, hprobes, hspared⟩ := hstands.of_probing hphase
          rw [htally.settings] at hspent
          exact ⟨htally.snoc hspared _, .exhausted rfl rfl (by simpa using hbegun)
            (by simpa using hprobes) hspent⟩
      | stop hphase hcancel =>
          refine ⟨by simpa using htally.moveTo, ?_⟩
          rcases hphase with ⟨due, hphase⟩ | ⟨due, deadline, hphase⟩
          · obtain ⟨hcancelled, hbegun, hprobes, hspared⟩ := hstands.of_waiting hphase
            refine .stopped rfl hcancel ?_ (by simpa using hbegun) (by simp [hprobes]) hspared
            simpa [hcancelled] using hcancel
          · obtain ⟨hcancelled, hbegun, hprobes, hspared⟩ := hstands.of_probing hphase
            refine .stopped rfl hcancel ?_ (by simpa using hbegun) (by simp [hprobes]) hspared
            simpa [hcancelled] using hcancel

/-! ## The budget -/

theorem failing_prefix_le {R : UInt32} {os : List Outcome}
    (hspared : ∀ pre, pre <+: os → pre ≠ os → ¬ R < UInt32.ofNat (failing pre))
    (hcount : R.toNat + 1 < 2 ^ 32 ∨ os.length < 2 ^ 32) {pre : List Outcome}
    (hpart : pre <+: os) (hproper : pre ≠ os) : failing pre ≤ R.toNat := by
  induction pre using List.reverseRecOn with
  | nil => exact Nat.zero_le _
  | append_singleton front o ih =>
      have hfront : front <+: os := (List.prefix_append front [o]).trans hpart
      have hshorter : front.length < os.length := by
        have hlength := hpart.length_le
        simp only [List.length_append, List.length_singleton] at hlength
        omega
      have hbefore := ih hfront fun heq => by simp [heq] at hshorter
      have hstep : failing (front ++ [o]) ≤ failing front + 1 := by
        rw [failing_append_singleton]
        split <;> omega
      have hlength := (failing_le_length (front ++ [o])).trans hpart.length_le
      have hkept := hspared _ hpart hproper
      -- The count has not wrapped around, so it tells the number of failures.
      rw [UInt32.lt_iff_toNat_lt, UInt32.toNat_ofNat', Nat.mod_eq_of_lt (by omega)] at hkept
      omega

theorem failing_le {R : UInt32} {os : List Outcome}
    (hspared : ∀ pre, pre <+: os → pre ≠ os → ¬ R < UInt32.ofNat (failing pre))
    (hcount : R.toNat + 1 < 2 ^ 32 ∨ os.length < 2 ^ 32) : failing os ≤ R.toNat + 1 := by
  rcases List.eq_nil_or_concat os with rfl | ⟨front, o, rfl⟩
  · exact Nat.zero_le _
  · rw [List.concat_eq_append] at hspared hcount ⊢
    have hbefore := failing_prefix_le hspared hcount (List.prefix_append front [o]) (by simp)
    rw [failing_append_singleton]
    split <;> omega

/-- As long as the count of failures cannot wrap around, it is above the budget exactly if the
budget is spent. -/
theorem Tally.spent_iff {os : List Outcome} {p : State} (h : Tally k os p)
    (hcount : k.maxRetries.toNat + 1 < 2 ^ 32 ∨ os.length < 2 ^ 32) :
    k.maxRetries < p.failures ↔ k.Spent os := by
  have hsmall : failing os < 2 ^ 32 := by
    rcases hcount with hbudget | hshort
    · exact (failing_le h.spared (.inl hbudget)).trans_lt hbudget
    · exact (failing_le_length os).trans_lt hshort
  rw [h.failures, UInt32.lt_iff_toNat_lt, UInt32.toNat_ofNat', Nat.mod_eq_of_lt hsmall, Spent]

/-! ## What comes next -/

/-- All that the task does next is to send a probe, once the time for it has come. -/
structure SendsNext (w : Watch) : Prop where
  sends : ∃ due, ∀ now, due ≤ now → ∃ t, { w with clock := now }.step .tick = some (t, [.probe])
  noOther : ∀ e t acts, w.step e = some (t, acts) → e = .tick ∨ e = .cancel ∨ ∃ time, e = .elapse time

/-- All that the task waits for is the end of the probe that is on its way, which may be any; for
want of an answer it comes when the time for the answer is over. -/
structure AwaitsOutcome (w : Watch) : Prop where
  ends : ∃ deadline, ∀ o now, (o = .unanswered → deadline ≤ now) →
    ∃ t acts, { w with clock := now }.step (.settle o) = some (t, acts)
  noOther : ∀ e t acts, w.step e = some (t, acts) →
    (∃ o, e = .settle o) ∨ e = .cancel ∨ ∃ time, e = .elapse time

theorem sendsNext_of_waiting (hphase : w.probing.phase = .waiting due) (hlive : w.cancelled = false) :
    SendsNext w where
  sends := ⟨due, fun now hdue => by simp [Watch.step, act, State.step, hphase, hdue]⟩
  noOther e t acts hstep := by
    cases move_of_step hstep <;> simp_all

theorem awaitsOutcome_of_probing (hphase : w.probing.phase = .probing due deadline)
    (hlive : w.cancelled = false) : AwaitsOutcome w where
  ends := by
    refine ⟨deadline, fun o now hover => ?_⟩
    have hstep := step_outcome (w := { w with clock := now }) hphase hover
    simp only [Watch.step, act]
    rw [hstep]
    exact ⟨_, _, rfl⟩
  noOther e t acts hstep := by
    cases move_of_step hstep <;> simp_all

/-- Once the task has come to its end nothing is seen of it. -/
theorem ended_stays (hended : s.probing.ended = true) (hrun : Run Watch.step s later u) :
    u.probing.ended = true ∧ seen later = [] := by
  induction hrun with
  | nil => exact ⟨hended, rfl⟩
  | snoc _ hstep ih =>
      obtain ⟨hended, hquiet⟩ := ih
      cases move_of_step hstep with
      | elapse time => exact ⟨hended, by simpa using hquiet⟩
      | cancel => exact ⟨hended, by simpa using hquiet⟩
      | start hphase _ | crash hphase _ | send hphase _ | settle hphase _ _
      | exhaust hphase _ _ => simp [State.ended, hphase] at hended
      | stop hphase _ =>
          rcases hphase with ⟨_, hphase⟩ | ⟨_, _, hphase⟩ <;> simp [State.ended, hphase] at hended

/-! ## Cancellation from outside -/

/-- While no time passes and no timer is due, a cancelled token lets no probe out. -/
theorem silent_of_cancelled (hcancelled : s.cancelled = true) (htimer : s.timerDue = false)
    (hrun : Run Watch.step s later u) (hnow : ∀ τ ∈ later, ∀ time, τ.event ≠ .elapse time) :
    u.cancelled = true ∧ u.timerDue = false ∧ .probe ∉ seen later := by
  induction hrun with
  | nil => exact ⟨hcancelled, htimer, by simp⟩
  | @snoc before v t e acts _ hstep ih =>
      obtain ⟨hcancelled, htimer, hsilent⟩ :=
        ih fun τ hτ => hnow τ (List.mem_append_left _ hτ)
      have hstays : ∀ time, e ≠ .elapse time := hnow ⟨v, e, acts, t⟩ (by simp)
      simp only [seen_append, seen_cons, seen_nil, List.append_nil, List.mem_append, not_or]
      cases move_of_step hstep with
      | elapse time => exact absurd rfl (hstays time)
      | cancel => exact ⟨rfl, htimer, hsilent, by simp⟩
      | start _ hfit =>
          have hlater : ¬ v.clock + v.probing.settings.interval ≤ v.clock := by
            rw [not_unfit_iff] at hfit
            omega
          exact ⟨hcancelled, decide_eq_false hlater, hsilent, by simp⟩
      | crash _ _ => exact ⟨hcancelled, rfl, hsilent, by simp⟩
      | send hphase hdue => simp [timerDue, hphase, hdue] at htimer
      | settle hphase _ _ =>
          simp only [timerDue, hphase, decide_eq_false_iff_not, not_or] at htimer
          exact ⟨hcancelled, decide_eq_false htimer.1, hsilent, by simp⟩
      | exhaust _ _ _ => exact ⟨rfl, rfl, hsilent, by simp⟩
      | stop _ _ => exact ⟨hcancelled, rfl, hsilent, by simp⟩

theorem step_stop (hdeadline : w.probing.deadline? ≠ none) (hcancelled : w.cancelled = true) :
    w.step .stop = some (w.moveTo .stopped, []) := by
  cases hphase : w.probing.phase <;>
    simp_all [State.deadline?, Watch.step, act, State.step, moveTo]

theorem ended_of_settled (hcancelled : w.cancelled = true) (hsettled : w.settled = true) :
    w.probing.ended = true := by
  simp only [settled, List.all_cons, List.all_nil, Bool.and_true, Bool.and_eq_true,
    Option.isNone_iff_eq_none] at hsettled
  obtain ⟨hstart, -, -, hstop⟩ := hsettled
  cases hphase : w.probing.phase with
  | ready =>
      simp only [Watch.step, act, Option.map_eq_none_iff, State.step_start_eq_none_iff] at hstart
      exact absurd hphase hstart
  | waiting due =>
      rw [step_stop (by simp [State.deadline?, hphase]) hcancelled] at hstop
      cases hstop
  | probing due deadline =>
      rw [step_stop (by simp [State.deadline?, hphase]) hcancelled] at hstop
      cases hstop
  | stopped => simp [State.ended, hphase]
  | crashed panic => simp [State.ended, hphase]

/-! ## Giving up -/

/-- Where a watch is whose budget is not spent: not begun; about to send the next probe; or waiting
for the end of the one it has sent. -/
inductive GoesOn (log : Log) (s : Watch) : Prop
  | ready (hphase : s.probing.phase = .ready) (hbegun : begun? log = none) (hsent : sent log = [])
  | sends (hnext : s.SendsNext) (hsent : (sent log).length = (outcomes log).length)
  | awaits (hnext : s.AwaitsOutcome) (hsent : (sent log).length = (outcomes log).length + 1)

theorem goesOn_of_spared (hrun : Run Watch.step (Watch.fresh k false) log s)
    (hown : interrupted log = false) (hfit : ∀ b ∈ begun? log, ¬ k.Unfit b)
    (hspared : ¬ k.maxRetries < s.probing.failures) : s.cancelled = false ∧ GoesOn log s := by
  have hstands := (stands_of_run hrun).2
  rw [hown, Bool.or_false] at hstands
  cases hstands with
  | ready hphase hlive hbegun hprobes _ =>
      exact ⟨hlive, .ready hphase hbegun (List.eq_nil_of_length_eq_zero hprobes)⟩
  | crashed _ _ hbegun hunfit _ _ => exact absurd hunfit (hfit _ hbegun)
  | waiting hphase hlive _ hprobes _ =>
      exact ⟨hlive, .sends (sendsNext_of_waiting hphase hlive) hprobes⟩
  | probing hphase hlive _ hprobes _ =>
      exact ⟨hlive, .awaits (awaitsOutcome_of_probing hphase hlive) hprobes⟩
  | exhausted _ _ _ _ hspent => exact absurd hspent hspared
  | stopped _ _ houtside _ _ _ => cases houtside

theorem givenUp_of_spent (hrun : Run Watch.step (Watch.fresh k cancelled) log s)
    (hspent : k.maxRetries < s.probing.failures) :
    s.probing.phase = .stopped ∧ s.cancelled = true ∧
      (sent log).length = (outcomes log).length := by
  obtain ⟨htally, hstands⟩ := stands_of_run hrun
  cases hstands with
  | ready _ _ _ _ hos | crashed _ _ _ _ _ hos =>
      have hfailures : s.probing.failures = 0 := by rw [htally.failures, hos]; rfl
      rw [hfailures] at hspent
      exact absurd hspent (UInt32.not_lt.2 (UInt32.zero_le))
  | exhausted hphase hcancelled _ hprobes _ => exact ⟨hphase, hcancelled, hprobes⟩
  | waiting _ _ _ _ hspared | probing _ _ _ _ hspared | stopped _ _ _ _ _ hspared =>
      exact absurd hspent hspared

/-- A task that cannot begin is dead with its start: it probes nothing, cancels nothing, and nothing
is seen of it. -/
theorem dead_of_unfit (hrun : Run Watch.step (Watch.fresh k false) log s) {b : Nat}
    (hbegun : b ∈ begun? log) (hunfit : k.Unfit b) :
    (∃ panic, s.probing.phase = .crashed panic) ∧ s.cancelled = interrupted log ∧ sent log = [] ∧
      outcomes log = [] := by
  have hnot : ¬ ∃ b ∈ begun? log, ¬ k.Unfit b := by
    rintro ⟨b', hbegun', hfit⟩
    exact hfit (Option.mem_unique hbegun hbegun' ▸ hunfit)
  have hstands := (stands_of_run hrun).2
  rw [Bool.false_or] at hstands
  cases hstands with
  | ready _ _ hbegun' _ _ => rw [hbegun'] at hbegun; cases hbegun
  | crashed hphase hcancelled _ _ hprobes hos =>
      exact ⟨⟨_, hphase⟩, hcancelled, List.eq_nil_of_length_eq_zero hprobes, hos⟩
  | waiting _ _ hfit _ _ | probing _ _ hfit _ _ | exhausted _ _ hfit _ _
  | stopped _ _ _ hfit _ _ => exact absurd hfit hnot

/-- A task that can begin and whose token is not cancelled from outside cancels it with the end of
the first probe that completes one failure in a row more than are tolerated, and then does nothing
more; until then every end of a probe is followed by the next probe. If the token is cancelled from
outside when no timer is due, then the task sends no further probe, gives up the one that is on its
way, and comes to its end before time passes. A task that cannot begin has ended without a probe, and
has cancelled nothing. -/
theorem gives_up_when_budget_spent (hrun : Run Watch.step (Watch.fresh k false) log s) :
    (∀ b ∈ begun? log, k.Unfit b → s.probing.ended = true ∧ s.cancelled = interrupted log ∧
      sent log = [] ∧ outcomes log = [] ∧ ∀ later u, Run Watch.step s later u → seen later = []) ∧
    (interrupted log = false → (∀ b ∈ begun? log, ¬ k.Unfit b) →
      k.maxRetries.toNat + 1 < 2 ^ 32 ∨ (sent log).length < 2 ^ 32 →
      (∀ pre, pre <+: outcomes log → pre ≠ outcomes log → ¬ k.Spent pre) ∧
      (k.Spent (outcomes log) → failing (outcomes log) = k.maxRetries.toNat + 1 ∧
        s.cancelled = true ∧ (sent log).length = (outcomes log).length ∧
        ∀ later u, Run Watch.step s later u → seen later = []) ∧
      (¬ k.Spent (outcomes log) → s.cancelled = false ∧ GoesOn log s)) ∧
    (s.timerDue = false → ∀ t acts, s.step .cancel = some (t, acts) →
      (s.probing.deadline? ≠ none →
        ∃ u, t.step .stop = some (u, []) ∧ u.probing.phase = .stopped) ∧
      ∀ later u, Run Watch.step t later u → (∀ τ ∈ later, ∀ time, τ.event ≠ .elapse time) →
        .probe ∉ seen later ∧
        (u.settled = true → u.probing.ended = true ∧
          ∀ rest v, Run Watch.step u rest v → seen rest = [])) := by
  obtain ⟨htally, hstands⟩ := stands_of_run hrun
  refine ⟨fun b hbegun hunfit => ?_, fun hown hfit hcount => ?_, fun htimer t acts hcancel => ?_⟩
  · obtain ⟨⟨panic, hphase⟩, hcancelled, hsent, hos⟩ := dead_of_unfit hrun hbegun hunfit
    have hended : s.probing.ended = true := by simp [State.ended, hphase]
    exact ⟨hended, hcancelled, hsent, hos, fun later u hlater => (ended_stays hended hlater).2⟩
  · have hcount : k.maxRetries.toNat + 1 < 2 ^ 32 ∨ (outcomes log).length < 2 ^ 32 :=
      hcount.imp_right hstands.in_flight.1.trans_lt
    rw [← htally.spent_iff hcount]
    refine ⟨fun pre hpart hproper => ?_, fun hspent => ?_, goesOn_of_spared hrun hown hfit⟩
    · exact Nat.not_lt.2 (failing_prefix_le htally.spared hcount hpart hproper)
    · obtain ⟨hphase, hcancelled, hprobes⟩ := givenUp_of_spent hrun hspent
      have hmore : k.maxRetries.toNat < failing (outcomes log) := (htally.spent_iff hcount).1 hspent
      exact ⟨Nat.le_antisymm (failing_le htally.spared hcount) hmore, hcancelled, hprobes,
        fun later u hlater => (ended_stays (by simp [State.ended, hphase]) hlater).2⟩
  · obtain ⟨rfl, rfl⟩ := Prod.mk.inj (Option.some.inj hcancel)
    refine ⟨fun hdeadline => ⟨_, step_stop hdeadline rfl, rfl⟩, fun later u hlater hnow => ?_⟩
    obtain ⟨hcancelled, _, hsilent⟩ :=
      silent_of_cancelled (s := { s with cancelled := true }) rfl htimer hlater hnow
    refine ⟨hsilent, fun hsettled => ?_⟩
    have hended := ended_of_settled hcancelled hsettled
    exact ⟨hended, fun rest v hrest => (ended_stays hended hrest).2⟩

/-- A peer that refuses a probe between two failures is given up after two more, one of them an
answer that has not come in time; another is cancelled from outside while it is probed. -/
theorem gives_up_when_budget_spent_twice :
    ∃ log s, Run Watch.step (Watch.fresh (.withInterval 10 1) false) log s ∧
      outcomes log = [.failed, .answered false, .unanswered, .failed] ∧ s.cancelled = true ∧
      ∃ log' s' t u, Run Watch.step (Watch.fresh (.withInterval 10 1) false) log' s' ∧
        s'.step .cancel = some (t, []) ∧ t.step .stop = some (u, []) ∧
        u.probing.phase = .stopped := by
  have hspend : ∃ log s, Run Watch.step (Watch.fresh (.withInterval 10 1) false) log s ∧
      interrupted log = false ∧ begun? log = some 0 ∧
      outcomes log = [.failed, .answered false, .unanswered, .failed] ∧
      (sent log).length < 2 ^ 32 ∧
      (Keepalive.withInterval 10 1).maxRetries.toNat < failing (outcomes log) :=
    exists_run_of_replay
      [.start "", .elapse 10, .tick, .settle .failed, .elapse 10, .tick, .settle (.answered false),
        .elapse 10, .tick, .elapse 10, .settle .unanswered, .tick, .settle .failed]
      (by decide +kernel)
  obtain ⟨log, s, hrun, hown, hbegun, hos, hsent, hspent⟩ := hspend
  have hfit : ∀ b ∈ begun? log, ¬ (Keepalive.withInterval 10 1).Unfit b := by
    rw [hbegun]
    decide +kernel
  obtain ⟨_, hgives, _⟩ := (gives_up_when_budget_spent hrun).2.1 hown hfit (.inr hsent)
  have hwait : ∃ log s, Run Watch.step (Watch.fresh (.withInterval 10 1) false) log s ∧
      s.timerDue = false ∧ s.probing.deadline? ≠ none :=
    exists_run_of_replay [.start "", .elapse 10, .tick, .elapse 5] (by decide +kernel)
  obtain ⟨log', s', hrun', htimer, hdeadline⟩ := hwait
  obtain ⟨hstops, _⟩ := (gives_up_when_budget_spent hrun').2.2 htimer _ _ rfl
  obtain ⟨u, hstop, hphase⟩ := hstops hdeadline
  exact ⟨log, s, hrun, hos, (hgives hspent).2.1, log', s', _, u, hrun', rfl, hstop, hphase⟩

/-- Settings with the longest interval pass their check, and the task of their probing ends as soon
as it begins: no probe is sent, and no budget is spent. -/
theorem ended_with_budget_unspent :
    ∃ c : Config, c.problem? = none ∧ c.keepaliveInterval = .ofSeconds 18446744073709551615 ∧
      ∃ log s, Run Watch.step (Watch.fresh (.ofConfig c) false) log s ∧ interrupted log = false ∧
        sent log = [] ∧ outcomes log = [] ∧ s.cancelled = false ∧ s.probing.ended = true :=
  ⟨{ Config.standard with keepaliveInterval := .ofSeconds 18446744073709551615 },
    by decide +kernel, rfl,
    exists_run_of_replay [.start "overflow when adding duration to instant"] (by decide +kernel)⟩

end Watch

end SessionGateway.Keepalive
