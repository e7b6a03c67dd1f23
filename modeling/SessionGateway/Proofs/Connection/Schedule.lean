import SessionGateway.Proofs.Connection.Watch

/-!
# When probes are sent and how soon a dead peer is noticed

As long as time does not pass a moment that the probing waits for, every probe is sent a whole number
of intervals after the task has begun, however long the peer takes to answer. A probe that is not
answered is over when the next one is due, so that a peer that no longer answers is given up within a
fixed time. All this holds as long as the interval is one by which the clock can tick.
-/

namespace SessionGateway.Keepalive.Watch

variable {k : Keepalive} {cancelled : Bool} {log : Log} {s w : Watch} {b n T due deadline : Nat}

/-- Whether a step lets no time pass beyond a moment that the probing waits for. -/
def punctual (τ : Transition Watch Event Act) : Bool :=
  match τ.event, τ.source.probing.deadline? with
  | .elapse time, some due => τ.source.clock + time ≤ due
  | _, _ => true

/-- A whole number of intervals after the begin, from the first one to the `n`-th. -/
def schedule (b interval n : Nat) : List Nat :=
  (List.range n).map fun i => b + (i + 1) * interval

theorem schedule_succ (b interval n : Nat) :
    schedule b interval (n + 1) = schedule b interval n ++ [b + (n + 1) * interval] := by
  simp [schedule, List.range_succ]

theorem getElem?_schedule {b interval n i p : Nat} (h : (schedule b interval n)[i]? = some p) :
    p = b + (i + 1) * interval := by
  obtain ⟨j, hj, rfl⟩ := List.mem_map.1 (List.mem_of_getElem? h)
  have hlt : i < n := by
    by_contra hge
    rw [List.getElem?_eq_none (by simpa [schedule] using hge)] at h
    cases h
  simpa [schedule, hlt] using h.symm

/-- Where the timers of a punctual watch stand that began at `b` and has sent `n` probes. -/
inductive OnTime (k : Keepalive) (b n : Nat) (w : Watch) : Prop
  | waiting (hphase : w.probing.phase = .waiting (b + (n + 1) * k.interval))
      (hpast : b + n * k.interval ≤ w.clock) (hfuture : w.clock ≤ b + (n + 1) * k.interval)
  | probing (hphase : w.probing.phase =
        .probing (b + (n + 1) * k.interval) (b + (n + 1) * k.interval))
      (hpast : b + n * k.interval ≤ w.clock) (hfuture : w.clock ≤ b + (n + 1) * k.interval)
  | finished (hended : w.probing.ended = true)

theorem OnTime.of_waiting (h : OnTime k b n w) (hphase : w.probing.phase = .waiting due) :
    due = b + (n + 1) * k.interval ∧ b + n * k.interval ≤ w.clock ∧ w.clock ≤ due := by
  cases h <;> simp_all [State.ended]

theorem OnTime.of_probing (h : OnTime k b n w) (hphase : w.probing.phase = .probing due deadline) :
    due = b + (n + 1) * k.interval ∧ deadline = due ∧ b + n * k.interval ≤ w.clock ∧
      w.clock ≤ deadline := by
  cases h with
  | probing hphase' hpast hfuture =>
      obtain ⟨rfl, rfl⟩ := Phase.probing.inj (hphase'.symm.trans hphase)
      exact ⟨rfl, rfl, hpast, hfuture⟩
  | _ => simp_all [State.ended]

theorem OnTime.elapse {time : Nat} (h : OnTime k b n w)
    (hpunctual : ∀ due, w.probing.deadline? = some due → w.clock + time ≤ due) :
    OnTime k b n { w with clock := w.clock + time } := by
  cases h with
  | waiting hphase hpast _ =>
      exact .waiting hphase (by dsimp only; omega) (hpunctual _ (by simp [State.deadline?, hphase]))
  | probing hphase hpast _ =>
      exact .probing hphase (by dsimp only; omega) (hpunctual _ (by simp [State.deadline?, hphase]))
  | finished hended => exact .finished hended

theorem OnTime.cancel (h : OnTime k b n w) : OnTime k b n { w with cancelled := true } := by
  cases h with
  | waiting hphase hpast hfuture => exact .waiting hphase hpast hfuture
  | probing hphase hpast hfuture => exact .probing hphase hpast hfuture
  | finished hended => exact .finished hended

theorem period_eq (hperiod : k.interval ≤ longestPeriod) : k.period = k.interval :=
  Nat.min_eq_left hperiod

/-- The probes of a punctual watch are on schedule. -/
theorem onTime_of_run (hperiod : k.interval ≤ longestPeriod)
    (hrun : Run Watch.step (Watch.fresh k cancelled) log s)
    (hpunctual : ∀ τ ∈ log, punctual τ = true) (hbegun : begun? log = some b) :
    sent log = schedule b k.interval (sent log).length ∧ OnTime k b (sent log).length s := by
  induction hrun with
  | nil => cases hbegun
  | @snoc log s t e acts hbefore hstep ih =>
      obtain ⟨htally, hstands⟩ := stands_of_run hbefore
      have hlast : punctual ⟨s, e, acts, t⟩ = true := hpunctual _ (by simp)
      have hkept : begun? log = some b →
          sent log = schedule b k.interval (sent log).length ∧ OnTime k b (sent log).length s :=
        ih fun τ hτ => hpunctual τ (List.mem_append_left _ hτ)
      simp only [begun?_append, begun?_singleton, sent_append, sent_singleton] at hbegun ⊢
      cases move_of_step hstep with
      | elapse time =>
          obtain ⟨hsent, htime⟩ := hkept (by simpa using hbegun)
          refine ⟨by simpa using hsent, ?_⟩
          simpa using htime.elapse fun due hdue => by simpa [punctual, hdue] using hlast
      | cancel =>
          obtain ⟨hsent, htime⟩ := hkept (by simpa using hbegun)
          exact ⟨by simpa using hsent, by simpa using htime.cancel⟩
      | start hphase _ =>
          obtain ⟨_, hnone, hprobes, _⟩ := hstands.of_ready hphase
          have hsent := List.eq_nil_of_length_eq_zero hprobes
          obtain rfl : s.clock = b := by simpa [hnone] using hbegun
          refine ⟨by simp [hsent, schedule], .waiting ?_ ?_ ?_⟩ <;> simp [hsent, htally.settings]
      | crash hphase _ =>
          obtain ⟨_, _, hprobes, _⟩ := hstands.of_ready hphase
          have hsent := List.eq_nil_of_length_eq_zero hprobes
          exact ⟨by simp [hsent, schedule], .finished rfl⟩
      | @send due hphase hdue =>
          obtain ⟨hsent, htime⟩ := hkept (by simpa using hbegun)
          obtain ⟨hnext, _, hnot⟩ := htime.of_waiting hphase
          have hclock : s.clock = b + ((sent log).length + 1) * k.interval := by omega
          have htick : s.nextTick due = s.clock + k.interval := by
            rw [nextTick, if_neg (by omega), htally.settings, period_eq hperiod]
            omega
          have hmore : (b + ((sent log).length + 1) * k.interval) + k.interval =
              b + ((sent log).length + 1 + 1) * k.interval := by
            rw [Nat.succ_mul ((sent log).length + 1), Nat.add_assoc]
          simp only [probesAt_probe, List.length_append, List.length_singleton]
          refine ⟨by rw [schedule_succ, ← hsent, hclock], .probing ?_ (by simp [hclock]) ?_⟩
          · rw [moveTo_phase, htick, htally.settings, hclock, hmore]
          · rw [moveTo_clock, hclock, ← hmore]
            omega
      | settle hphase _ _ =>
          obtain ⟨hsent, htime⟩ := hkept (by simpa using hbegun)
          obtain ⟨hdue, hdeadline, hpast, hfuture⟩ := htime.of_probing hphase
          refine ⟨by simpa using hsent, .waiting ?_ (by simpa using hpast) ?_⟩
          · simp [hdue]
          · simp only [probesAt_nil, List.append_nil]
            omega
      | exhaust _ _ _ =>
          obtain ⟨hsent, _⟩ := hkept (by simpa using hbegun)
          exact ⟨by simpa using hsent, .finished rfl⟩
      | stop _ _ =>
          obtain ⟨hsent, _⟩ := hkept (by simpa using hbegun)
          exact ⟨by simpa using hsent, .finished rfl⟩

/-! ## Settled states -/

theorem clock_lt_of_settled (hsettled : s.settled = true) :
    (∀ due, s.probing.phase = .waiting due → s.clock < due) ∧
    ∀ due deadline, s.probing.phase = .probing due deadline → s.clock < deadline := by
  simp only [settled, List.all_cons, List.all_nil, Bool.and_true, Bool.and_eq_true,
    Option.isNone_iff_eq_none] at hsettled
  obtain ⟨-, htick, hsettle, -⟩ := hsettled
  refine ⟨fun due hphase => ?_, fun due deadline hphase => ?_⟩
  · by_contra hdue
    simp [Watch.step, act, State.step, hphase, Nat.le_of_not_lt hdue] at htick
  · by_contra hover
    simp [Watch.step, act, State.step, Outcome.event, hphase, Nat.le_of_not_lt hover] at hsettle

theorem OnTime.count_of_settled (h : OnTime k b n s) (hsettled : s.settled = true)
    (hlive : s.probing.ended = false) : n = (s.clock - b) / k.interval := by
  obtain ⟨hwaiting, hprobing⟩ := clock_lt_of_settled hsettled
  have hbetween : b + n * k.interval ≤ s.clock ∧ s.clock < b + (n + 1) * k.interval := by
    cases h with
    | waiting hphase hpast _ => exact ⟨hpast, hwaiting _ hphase⟩
    | probing hphase hpast _ => exact ⟨hpast, hprobing _ _ hphase⟩
    | finished hended => rw [hlive] at hended; cases hended
  symm
  apply Nat.div_eq_of_lt_le
  · omega
  · omega

/-! ## How soon a dead peer is noticed -/

def SilentAfter (T : Nat) (log : Log) : Prop :=
  ∀ τ ∈ log, T < τ.source.clock → ∀ granted, τ.event ≠ .settle (.answered granted)

/-- How far the timers of a punctual watch can lie ahead of a time after which no probe is answered,
from how many probes have failed in a row. -/
structure Nears (k : Keepalive) (T : Nat) (os : List Outcome) (w : Watch) : Prop where
  waiting : ∀ due, w.probing.phase = .waiting due → due ≤ T + (failing os + 1) * k.interval
  probing : ∀ due deadline, w.probing.phase = .probing due deadline →
    deadline ≤ T + (failing os + 2) * k.interval

theorem nears_of_ended {os : List Outcome} (hended : w.probing.ended = true) : Nears k T os w where
  waiting due hphase := by simp [State.ended, hphase] at hended
  probing due deadline hphase := by simp [State.ended, hphase] at hended

theorem nears_of_run (hperiod : k.interval ≤ longestPeriod)
    (hrun : Run Watch.step (Watch.fresh k cancelled) log s)
    (hpunctual : ∀ τ ∈ log, punctual τ = true) (hbegun : begun? log = some b) (hT : b ≤ T)
    (hsilent : SilentAfter T log) : Nears k T (outcomes log) s := by
  induction hrun with
  | nil => cases hbegun
  | @snoc log s t e acts hbefore hstep ih =>
      obtain ⟨htally, hstands⟩ := stands_of_run hbefore
      have hpunctual' := fun τ hτ => hpunctual τ (List.mem_append_left _ hτ)
      have hlast : T < s.clock → ∀ granted, e ≠ .settle (.answered granted) :=
        hsilent ⟨s, e, acts, t⟩ (by simp)
      have hnear : begun? log = some b → Nears k T (outcomes log) s := fun hbegun =>
        ih hpunctual' hbegun fun τ hτ => hsilent τ (List.mem_append_left _ hτ)
      have htime : begun? log = some b → OnTime k b (sent log).length s := fun hbegun =>
        (onTime_of_run hperiod hbefore hpunctual' hbegun).2
      simp only [begun?_append, begun?_singleton, outcomes_append, outcomes_singleton] at hbegun ⊢
      cases move_of_step hstep with
      | elapse time | cancel =>
          have hbefore := hnear (by simpa using hbegun)
          simpa using ⟨hbefore.waiting, hbefore.probing⟩
      | start hphase _ =>
          obtain ⟨_, hnone, _, hos⟩ := hstands.of_ready hphase
          obtain rfl : s.clock = b := by simpa [hnone] using hbegun
          refine ⟨fun due hdue => ?_, fun due deadline hnever => by simp at hnever⟩
          obtain rfl : s.clock + s.probing.settings.interval = due := by simpa using hdue
          simpa [hos, htally.settings] using hT
      | crash _ _ => exact nears_of_ended rfl
      | @send due hphase hdue =>
          obtain ⟨-, -, hnot⟩ := (htime (by simpa using hbegun)).of_waiting hphase
          have hbound := (hnear (by simpa using hbegun)).waiting due hphase
          refine ⟨fun due hnever => by simp at hnever, fun due' deadline hnext => ?_⟩
          obtain ⟨-, rfl⟩ : _ ∧ s.clock + s.probing.settings.interval = deadline := by
            simpa using hnext
          simp only [List.append_nil, htally.settings, Nat.add_mul] at hbound ⊢
          omega
      | @settle due deadline o hphase _ _ =>
          obtain ⟨hdue, hdeadline, hpast, _⟩ := (htime (by simpa using hbegun)).of_probing hphase
          have hbound := (hnear (by simpa using hbegun)).probing due deadline hphase
          refine ⟨fun due' hnext => ?_, fun due' deadline' hnever => by simp at hnever⟩
          obtain rfl : due = due' := by simpa using hnext
          rw [failing_append_singleton]
          cases o with
          | answered granted =>
              have hearly : s.clock ≤ T := by
                by_contra hlate
                exact hlast (Nat.lt_of_not_le hlate) granted rfl
              simp only [Outcome.fails, Bool.false_eq_true, if_false, Nat.add_mul] at hdue ⊢
              omega
          | _ =>
              simp only [Outcome.fails, if_true, Nat.add_mul] at hbound ⊢
              omega
      | exhaust _ _ _ => exact nears_of_ended rfl
      | stop _ _ => exact nears_of_ended rfl

/-! ## How soon a peer is given up at the earliest -/

/-- The failures in a row at the end come after every outcome that is none. -/
theorem failing_add_index_lt {os : List Outcome} {i : Nat} {o : Outcome} (h : os[i]? = some o)
    (halive : o.fails = false) : failing os + i < os.length := by
  induction os using List.reverseRecOn with
  | nil => cases h
  | append_singleton front last ih =>
      rw [failing_append_singleton, List.length_append, List.length_singleton]
      rcases Nat.lt_or_ge i front.length with hlt | hge
      · rw [List.getElem?_append_left hlt] at h
        have hbefore := ih h
        split <;> omega
      · rw [List.getElem?_append_right hge, List.getElem?_singleton] at h
        split at h
        · obtain rfl := Option.some.inj h
          simp only [halive, Bool.false_eq_true, if_false]
          omega
        · cases h

/-- The probing gives up only with a failure that follows as many failures in a row as are
tolerated. -/
theorem failing_of_exhaust {os : List Outcome} {p : State} {o : Outcome} (htally : Tally k os p)
    (hspent : p.settings.maxRetries < p.failuresAfter o) : k.maxRetries.toNat ≤ failing os := by
  rw [htally.settings, State.failuresAfter, htally.failures] at hspent
  split at hspent
  · rw [← UInt32.ofNat_one, ← UInt32.ofNat_add, UInt32.lt_iff_toNat_lt,
      UInt32.toNat_ofNat'] at hspent
    have hmod := Nat.mod_le (failing os + 1) (2 ^ 32)
    omega
  · exact absurd hspent (UInt32.not_lt.2 UInt32.zero_le)

/-- A watch gives a peer up no sooner than all intervals that the failures take have passed, since
its begin and since the last probe that was answered. -/
theorem not_early_of_exhausted {pre post : Log} {τ : Transition Watch Event Act}
    {failures : UInt32} (hperiod : k.interval ≤ longestPeriod)
    (hrun : Run Watch.step (Watch.fresh k cancelled) (pre ++ τ :: post) s)
    (hpunctual : ∀ τ ∈ pre, punctual τ = true) (hbegun : begun? (pre ++ τ :: post) = some b)
    (hact : .exhausted failures ∈ τ.acts) :
    b + (k.maxRetries.toNat + 1) * k.interval ≤ τ.source.clock ∧
    ∀ p o, (p, o) ∈ (sent pre).zip (outcomes pre) → o.fails = false →
      p + (k.maxRetries.toNat + 1) * k.interval ≤ τ.source.clock := by
  obtain ⟨hbefore, hstep, _⟩ := hrun.at_step
  obtain ⟨htally, hstands⟩ := stands_of_run hbefore
  obtain ⟨source, e, acts, target⟩ := τ
  dsimp only at *
  cases move_of_step hstep with
  | exhaust hphase _ hspent =>
      obtain ⟨_, hstarted, hprobes, _⟩ := hstands.of_probing hphase
      obtain ⟨b', hbegun', _⟩ := hstarted
      obtain rfl : b' = b := by simpa [Option.mem_def.1 hbegun'] using hbegun
      obtain ⟨hsent, htime⟩ := onTime_of_run hperiod hbefore hpunctual hbegun'
      obtain ⟨_, _, hpast, _⟩ := htime.of_probing hphase
      have hfailing := failing_of_exhaust htally hspent
      have hlate : ∀ i, i + (k.maxRetries.toNat + 1) ≤ (sent pre).length →
          b' + i * k.interval + (k.maxRetries.toNat + 1) * k.interval ≤ source.clock := by
        intro i hi
        have hscale := Nat.mul_le_mul_right k.interval hi
        rw [Nat.add_mul] at hscale
        omega
      refine ⟨?_, fun p o hmem halive => ?_⟩
      · have hlength := failing_le_length (outcomes pre)
        simpa using hlate 0 (by omega)
      · obtain ⟨i, hi⟩ := List.mem_iff_getElem?.1 hmem
        obtain ⟨hp, ho⟩ := List.getElem?_zip_eq_some.1 hi
        rw [hsent] at hp
        obtain rfl : p = b' + (i + 1) * k.interval := getElem?_schedule hp
        have hindex := failing_add_index_lt ho halive
        exact hlate (i + 1) (by omega)
  | _ => simp at hact

/-- With the largest budget that there is, a peer is never given up. -/
theorem not_exhausted_of_full_budget (hrun : Run Watch.step (Watch.fresh k cancelled) log s)
    (hfull : k.maxRetries.toNat + 1 = 2 ^ 32) (failures : UInt32) :
    .exhausted failures ∉ seen log := by
  induction hrun with
  | nil => simp
  | snoc hbefore hstep ih =>
      have htally := (stands_of_run hbefore).1
      simp only [seen_append, seen_cons, seen_nil, List.append_nil, List.mem_append, not_or]
      refine ⟨ih, ?_⟩
      cases move_of_step hstep with
      | exhaust _ _ hspent =>
          rename_i source _ _ o _ _
          rw [htally.settings, UInt32.lt_iff_toNat_lt] at hspent
          have hsmall := (source.probing.failuresAfter o).toNat_lt
          omega
      | _ => simp

/-! ## The schedule -/

/-- With an interval by which the clock can tick, and unless time passes a moment that the probing
waits for: the probes are sent one interval after another from the begin on, each when the one before
is over; a peer is given up at the latest two intervals more than failures are tolerated after the
time from which on no probe is answered; and at the earliest one interval more after the begin and
after the last probe that was answered was sent. With the largest budget it is never given up. -/
theorem probes_on_schedule (hrun : Run Watch.step (Watch.fresh k cancelled) log s)
    (hpunctual : ∀ τ ∈ log, punctual τ = true) (hpos : 0 < k.interval)
    (hperiod : k.interval ≤ longestPeriod) :
    (begun? log = none → sent log = []) ∧
    ∀ b, begun? log = some b →
      sent log = schedule b k.interval (sent log).length ∧
      ((outcomes log).length ≤ (sent log).length ∧
        (sent log).length ≤ (outcomes log).length + 1) ∧
      (s.settled = true → s.probing.ended = false →
        (sent log).length = (s.clock - b) / k.interval) ∧
      (k.maxRetries.toNat + 1 < 2 ^ 32 → b + k.interval < clockLimit →
        ∀ T, b ≤ T → SilentAfter T log → s.settled = true →
          T + (k.maxRetries.toNat + 2) * k.interval ≤ s.clock → s.cancelled = true) ∧
      (∀ pre τ post failures, log = pre ++ τ :: post → .exhausted failures ∈ τ.acts →
        b + (k.maxRetries.toNat + 1) * k.interval ≤ τ.source.clock ∧
        ∀ p o, (p, o) ∈ (sent pre).zip (outcomes pre) → o.fails = false →
          p + (k.maxRetries.toNat + 1) * k.interval ≤ τ.source.clock) ∧
      (k.maxRetries.toNat + 1 = 2 ^ 32 → ∀ failures, .exhausted failures ∉ seen log) := by
  obtain ⟨htally, hstands⟩ := stands_of_run hrun
  refine ⟨fun hnone => ?_, fun b hbegun => ?_⟩
  · refine List.eq_nil_of_length_eq_zero ?_
    cases hstands <;> simp_all
  obtain ⟨hsent, htime⟩ := onTime_of_run hperiod hrun hpunctual hbegun
  refine ⟨hsent, hstands.in_flight, htime.count_of_settled,
    fun hbudget hclock T hT hsilent hsettled hlate => ?_, ?_, not_exhausted_of_full_budget hrun⟩
  · obtain ⟨hwaiting, hprobing⟩ := clock_lt_of_settled hsettled
    have hnear := nears_of_run hperiod hrun hpunctual hbegun hT hsilent
    have hspared : ¬ k.maxRetries < s.probing.failures →
        (failing (outcomes log) + 2) * k.interval ≤ (k.maxRetries.toNat + 2) * k.interval := by
      intro hspared
      rw [htally.spent_iff (.inl hbudget), Spent, Nat.not_lt] at hspared
      exact Nat.mul_le_mul_right _ (by omega)
    cases hstands with
    | ready _ _ hnone _ _ => rw [hnone] at hbegun; cases hbegun
    | crashed _ _ hbegun' hunfit _ _ =>
        obtain rfl := Option.some.inj (hbegun.symm.trans hbegun')
        exact absurd hunfit (not_unfit_iff.2 ⟨hpos, hclock⟩)
    | waiting hphase _ _ _ hkept =>
        have hbefore := hwaiting _ hphase
        have hbound := hnear.waiting _ hphase
        have hbudget := hspared hkept
        rw [Nat.add_mul] at hbound hbudget
        omega
    | probing hphase _ _ _ hkept =>
        have hbefore := hprobing _ _ hphase
        have hbound := hnear.probing _ _ hphase
        have hbudget := hspared hkept
        omega
    | exhausted _ hcancelled _ _ _ | stopped _ hcancelled _ _ _ _ => exact hcancelled
  · rintro pre τ post failures rfl hact
    exact not_early_of_exhausted hperiod hrun
      (fun τ hτ => hpunctual τ (List.mem_append_left _ hτ)) hbegun hact

/-- A peer that answers its first probe late and then falls silent is given up in time. -/
theorem probes_on_schedule_silent :
    ∃ log s, Run Watch.step (Watch.fresh (.withInterval 10 1) false) log s ∧
      sent log = [13, 23, 33] ∧ s.clock = 49 ∧ s.cancelled = true := by
  have hfall : ∃ log s, Run Watch.step (Watch.fresh (.withInterval 10 1) false) log s ∧
      (∀ τ ∈ log, punctual τ = true) ∧ begun? log = some 3 ∧
      (∀ τ ∈ log, 19 < τ.source.clock → τ.event ≠ .settle (.answered true) ∧
        τ.event ≠ .settle (.answered false)) ∧
      s.settled = true ∧ sent log = [13, 23, 33] ∧ s.clock = 49 :=
    exists_run_of_replay
      [.elapse 3, .start "", .elapse 10, .tick, .elapse 6, .settle (.answered false), .elapse 4, .tick,
        .elapse 10, .settle .unanswered, .tick, .elapse 10, .settle .unanswered, .elapse 6]
      (by decide +kernel)
  obtain ⟨log, s, hrun, hpunctual, hbegun, hsilent, hsettled, hsent, hclock⟩ := hfall
  obtain ⟨_, hschedule⟩ := probes_on_schedule hrun hpunctual (by decide) (by decide)
  obtain ⟨_, _, _, hnoticed, _⟩ := hschedule 3 hbegun
  refine ⟨log, s, hrun, hsent, hclock, ?_⟩
  refine hnoticed (by decide) (by decide) 19 (by decide) (fun τ hτ hlate granted => ?_) hsettled ?_
  · cases granted
    · exact (hsilent τ hτ hlate).2
    · exact (hsilent τ hτ hlate).1
  · rw [hclock]
    decide

/-- With a longer interval, the second probe of a peer that answers at once is sent too early. -/
theorem exists_early_probe (hlong : longestPeriod < k.interval) (hclock : k.interval < clockLimit) :
    ∃ log s, Run Watch.step (Watch.fresh k false) log s ∧ (∀ τ ∈ log, punctual τ = true) ∧
      begun? log = some 0 ∧ sent log = [k.interval, k.interval + longestPeriod] := by
  have hperiod : k.period = longestPeriod := Nat.min_eq_right (Nat.le_of_lt hlong)
  have hfit : ¬ k.Unfit 0 := not_unfit_iff.2 ⟨by omega, by omega⟩
  have hstart : (Watch.fresh k false).step (.start "") =
      some (⟨⟨k, .waiting k.interval, 0⟩, 0, false⟩, []) := by
    simp [Watch.step, act, State.step, Watch.fresh, Keepalive.fresh, hfit]
  have hfirst : Watch.step ⟨⟨k, .waiting k.interval, 0⟩, k.interval, false⟩ .tick =
      some (⟨⟨k, .probing (k.interval + longestPeriod) (k.interval + k.interval), 0⟩,
        k.interval, false⟩, [.probe]) := by
    simp [Watch.step, act, State.step, hperiod, Act.cancels]
  have hanswer : Watch.step ⟨⟨k, .probing (k.interval + longestPeriod) (k.interval + k.interval),
      0⟩, k.interval, false⟩ (.settle (.answered true)) =
      some (⟨⟨k, .waiting (k.interval + longestPeriod), 0⟩, k.interval, false⟩, []) := by
    simp [Watch.step, act, State.step, Outcome.event, State.settle]
  have hsecond : ∃ t, Watch.step ⟨⟨k, .waiting (k.interval + longestPeriod), 0⟩,
      k.interval + longestPeriod, false⟩ .tick = some (t, [.probe]) := by
    simp [Watch.step, act, State.step]
  obtain ⟨t, hsecond⟩ := hsecond
  have hwait : Watch.step ⟨⟨k, .waiting k.interval, 0⟩, 0, false⟩ (.elapse k.interval) =
      some (⟨⟨k, .waiting k.interval, 0⟩, k.interval, false⟩, []) := by
    simp [Watch.step]
  have hrun := (((((Run.single hstart).snoc hwait).snoc hfirst).snoc hanswer).snoc
    (e := .elapse longestPeriod) rfl).snoc hsecond
  refine ⟨_, t, hrun, ?_, rfl, rfl⟩
  simp [punctual, State.deadline?]

/-- With an interval of forty-five years the second probe is sent fifteen years too early. If both
probes fail at once, a peer that may fail once is given up too early as well. -/
theorem early_probe_of_long_interval :
    ∃ log s, Run Watch.step (Watch.fresh (.withInterval 1419120000000000000 1) false) log s ∧
      (∀ τ ∈ log, punctual τ = true) ∧ begun? log = some 0 ∧
      sent log = [1419120000000000000, 2365200000000000000] ∧
      sent log ≠ schedule 0 1419120000000000000 (sent log).length ∧
      s.cancelled = true ∧ s.clock < 0 + (1 + 1) * 1419120000000000000 :=
  exists_run_of_replay
    [.start "", .elapse 1419120000000000000, .tick, .settle .failed, .elapse 946080000000000000,
      .tick, .settle .failed]
    (by decide +kernel)

end SessionGateway.Keepalive.Watch
