import Mathlib.Data.List.Nodup
import SessionGateway.Proofs.Run
import SessionGateway.Proofs.Terminal.SizeQueue
import SessionGateway.Terminal.Consumption

/-!
# What producers and consumers of sizes can rely on

Whatever producers and consumers do, and in whatever order, a queue of sizes loses nothing, gives
every size to one consumer, holds no more than its capacity, and serves those that wait in the
order in which they began to. Everything follows from what one step can do.
-/

namespace SessionGateway.Terminal.SizeQueue

abbrev Log := List (Transition SizeQueue Event Act)

def accepted (acts : List Act) : List Size :=
  acts.filterMap fun
    | .accepted s => some s
    | _ => none

def taken (acts : List Act) : List Size :=
  acts.filterMap fun
    | .given _ size => size
    | _ => none

def Act.ends (consumer : Nat) : Act → Bool
  | .given other _ => other == consumer
  | _ => false

section

variable (acts rest : List Act) (q : SizeQueue) (consumer : Nat) (size : Option Size)

@[simp] theorem accepted_append : accepted (acts ++ rest) = accepted acts ++ accepted rest :=
  List.filterMap_append

@[simp] theorem taken_append : taken (acts ++ rest) = taken acts ++ taken rest :=
  List.filterMap_append

@[simp] theorem taken_given : taken [.given consumer size] = size.toList := by
  cases size <;> rfl

@[simp] theorem enqueue_pending : (q.enqueue consumer).pending = q.pending := rfl

@[simp] theorem enqueue_closed : (q.enqueue consumer).closed = q.closed := rfl

@[simp] theorem enqueue_waiting : (q.enqueue consumer).waiting = q.waiting ++ [consumer] := rfl

@[simp] theorem abandon_pending : (q.abandon consumer).pending = q.pending := rfl

@[simp] theorem abandon_closed : (q.abandon consumer).closed = q.closed := rfl

@[simp] theorem abandon_waiting :
    (q.abandon consumer).waiting = q.waiting.filter (· ≠ consumer) := rfl

@[simp] theorem close_pending : q.close.pending = q.pending := rfl

@[simp] theorem close_closed : q.close.closed = true := rfl

@[simp] theorem close_waiting : q.close.waiting = q.waiting := rfl

end

variable {capacity requested consumer : Nat} {q t : SizeQueue} {size : Option Size} {e : Event}
  {acts : List Act} {log : Log}

/-! ## What a step can do -/

theorem waiting_of_take (h : q.take? = some (size, t)) : t.waiting = q.waiting := by
  unfold take? at h
  split at h
  · obtain ⟨rfl, rfl⟩ := Prod.mk.inj (Option.some.inj h)
    rfl
  · split at h
    · obtain ⟨rfl, rfl⟩ := Prod.mk.inj (Option.some.inj h)
      rfl
    · cases h

inductive Move (q : SizeQueue) : Event → List Act → SizeQueue → Prop
  | accept {s : Size} (hopen : q.closed = false) (hroom : q.pending.length < q.capacity) :
      Move q (.fill s) [.accepted s] { q with pending := q.pending ++ [s] }
  | refuse {s : Size} {reason : Error} : Move q (.fill s) [.refused s reason] q
  | give {consumer : Nat} {size : Option Size} {t : SizeQueue} (hidle : q.waiting = [])
      (hgives : q.Gives size t) (hline : t.waiting = []) :
      Move q (.next consumer) [.given consumer size] t
  | wait {consumer : Nat} (hnew : consumer ∉ q.waiting) :
      Move q (.next consumer) [.waits consumer] (q.enqueue consumer)
  | serve {consumer : Nat} {size : Option Size} {t : SizeQueue}
      (hfirst : q.waiting = consumer :: t.waiting) (hgives : q.Gives size t) :
      Move q .serve [.given consumer size] t
  | abandon {consumer : Nat} (hwaits : consumer ∈ q.waiting) :
      Move q (.abandon consumer) [] (q.abandon consumer)
  | close : Move q .close [] q.close

theorem move_of_step (h : q.step e = some (t, acts)) : Move q e acts t := by
  cases e with
  | fill s =>
      simp only [step, fill] at h
      by_cases hclosed : q.closed = true
      · rw [if_pos hclosed] at h
        obtain ⟨rfl, rfl⟩ := Prod.mk.inj (Option.some.inj h)
        exact .refuse
      · rw [if_neg hclosed] at h
        by_cases hfull : q.capacity ≤ q.pending.length
        · rw [if_pos hfull] at h
          obtain ⟨rfl, rfl⟩ := Prod.mk.inj (Option.some.inj h)
          exact .refuse
        · rw [if_neg hfull] at h
          obtain ⟨rfl, rfl⟩ := Prod.mk.inj (Option.some.inj h)
          exact .accept (by simpa using hclosed) (by omega)
  | next consumer =>
      simp only [step] at h
      split at h
      · cases h
      rename_i hnew
      split at h
      · rename_i size left hpoll
        obtain ⟨rfl, rfl⟩ := Prod.mk.inj (Option.some.inj h)
        have hgives := gives_of_poll hpoll
        unfold poll at hpoll
        split at hpoll
        · rename_i hidle
          rw [List.isEmpty_iff] at hidle
          exact .give hidle hgives ((waiting_of_take hpoll).trans hidle)
        · cases hpoll
      · obtain ⟨rfl, rfl⟩ := Prod.mk.inj (Option.some.inj h)
        exact .wait hnew
  | serve =>
      obtain ⟨⟨consumer, size, left⟩, hserve, heq⟩ := Option.map_eq_some_iff.1 h
      obtain ⟨rfl, rfl⟩ := Prod.mk.inj heq
      have hgives := gives_of_serve hserve
      unfold serve? at hserve
      split at hserve
      · cases hserve
      · rename_i first rest hwaiting
        obtain ⟨⟨taken, after⟩, -, heq⟩ := Option.map_eq_some_iff.1 hserve
        obtain ⟨rfl, hsame⟩ := Prod.mk.inj heq
        obtain ⟨rfl, rfl⟩ := Prod.mk.inj hsame
        exact .serve hwaiting hgives
  | abandon consumer =>
      simp only [step] at h
      split at h
      · rename_i hwaits
        obtain ⟨rfl, rfl⟩ := Prod.mk.inj (Option.some.inj h)
        exact .abandon hwaits
      · cases h
  | close =>
      obtain ⟨rfl, rfl⟩ := Prod.mk.inj (Option.some.inj h)
      exact .close

/-! ## What every run keeps -/

/-- A queue that holds no more than its capacity and in which nobody waits twice. -/
structure Sound (capacity : Nat) (q : SizeQueue) : Prop where
  sized : q.capacity = capacity
  bounded : q.pending.length ≤ capacity
  distinct : q.waiting.Nodup

theorem sound_create : Sound (if requested = 0 then 10 else requested) (create requested) :=
  ⟨rfl, Nat.zero_le _, List.nodup_nil⟩

theorem Gives.bounded {n : Nat} (h : q.Gives size t) (hbounded : q.pending.length ≤ n) :
    t.pending.length ≤ n := by
  rw [h.pending, List.length_append] at hbounded
  omega

theorem Sound.step (hsound : Sound capacity q) (hstep : q.step e = some (t, acts)) :
    Sound capacity t := by
  obtain ⟨hcapacity, hbounded, hdistinct⟩ := hsound
  cases move_of_step hstep with
  | accept hopen hroom =>
      refine ⟨hcapacity, ?_, hdistinct⟩
      rw [List.length_append, List.length_singleton]
      omega
  | refuse => exact ⟨hcapacity, hbounded, hdistinct⟩
  | give hidle hgives hline =>
      exact ⟨hgives.capacity.trans hcapacity, hgives.bounded hbounded, hline ▸ List.nodup_nil⟩
  | wait hnew =>
      refine ⟨hcapacity, hbounded, ?_⟩
      exact List.nodup_append.2 ⟨hdistinct, by simp, by
        intro a ha b hb
        obtain rfl := List.mem_singleton.1 hb
        exact fun hsame => hnew (hsame ▸ ha)⟩
  | serve hfirst hgives =>
      rw [hfirst] at hdistinct
      exact ⟨hgives.capacity.trans hcapacity, hgives.bounded hbounded, hdistinct.of_cons⟩
  | abandon hwaits => exact ⟨hcapacity, hbounded, hdistinct.filter _⟩
  | close => exact ⟨hcapacity, hbounded, hdistinct⟩

theorem sound_of_run (hrun : Run step (create requested) log q) :
    Sound (if requested = 0 then 10 else requested) q :=
  hrun.invariant sound_create fun hsound hstep => hsound.step hstep

/-- A step accounts for every size: what it gives comes off the front, and what it accepts goes to
the end. -/
theorem Move.conserved (h : Move q e acts t) :
    taken acts ++ t.pending = q.pending ++ accepted acts := by
  cases h with
  | give hidle hgives hline => simpa [accepted] using hgives.pending.symm
  | serve hfirst hgives => simpa [accepted] using hgives.pending.symm
  | accept | refuse | wait | abandon | close => simp [taken, accepted]

theorem conserved_of_run (hrun : Run step (create requested) log q) :
    taken (seen log) ++ q.pending = accepted (seen log) := by
  induction hrun with
  | nil => rfl
  | @snoc log s t e acts hrun hstep ih =>
      have hlast := (move_of_step hstep).conserved
      rw [seen_append, taken_append, accepted_append, ← ih, seen_cons, seen_nil, List.append_nil,
        List.append_assoc, List.append_assoc, hlast]

theorem Move.closed (h : Move q e acts t) : t.closed = true ↔ q.closed = true ∨ e = .close := by
  cases h with
  | give hidle hgives hline => simp [hgives.closed]
  | serve hfirst hgives => simp [hgives.closed]
  | accept | refuse | wait | abandon | close => simp

theorem closed_of_run (hrun : Run step (create requested) log q) :
    q.closed = true ↔ ∃ τ ∈ log, τ.event = .close := by
  induction hrun with
  | nil => simp [create]
  | @snoc log s t e acts hrun hstep ih =>
      rw [(move_of_step hstep).closed, ih]
      simp [or_and_right, exists_or]

/-- A step moves a consumer from asking to waiting or to its end. -/
theorem Move.balance (hdistinct : q.waiting.Nodup) (h : Move q e acts t) (consumer : Nat) :
    q.waiting.count consumer + (if e = .next consumer then 1 else 0) =
      t.waiting.count consumer + acts.countP (Act.ends consumer) +
        (if e = .abandon consumer then 1 else 0) := by
  cases h with
  | @give other size t hidle hgives hline =>
      simp [hidle, hline, Act.ends]
  | @wait other hnew => simp [Act.ends, List.count_singleton]
  | @serve other size t hfirst hgives => simp [hfirst, List.count_cons, Act.ends]
  | @abandon other hwaits =>
      by_cases hsame : other = consumer
      · subst hsame
        have honce := List.count_eq_one_of_mem hdistinct hwaits
        simp [honce, List.count_eq_zero]
      · rw [abandon_waiting, List.count_filter (by simpa using Ne.symm hsame)]
        simp [hsame]
  | accept | refuse => simp [Act.ends]
  | close => simp

theorem balance_of_run (hrun : Run step (create requested) log q) (consumer : Nat) :
    log.countP (·.event = .next consumer) =
      (seen log).countP (Act.ends consumer) + log.countP (·.event = .abandon consumer) +
        q.waiting.count consumer := by
  induction hrun with
  | nil => rfl
  | @snoc log s t e acts hrun hstep ih =>
      have hlast := (move_of_step hstep).balance (sound_of_run hrun).distinct consumer
      simp only [seen_append, seen_cons, seen_nil, List.append_nil, List.countP_append,
        List.countP_singleton, decide_eq_true_eq]
      omega

/-! ## The line of consumers -/

/-- A consumer waits, and another one that has asked since then is not ahead of it. -/
structure Ahead (consumer other : Nat) (asked : Prop) (q : SizeQueue) : Prop where
  split : ∃ front back, q.waiting = front ++ consumer :: back ∧
    (asked → other ∉ front ∧ other ≠ consumer)

theorem Ahead.step {other : Nat} {asked : Prop} (hahead : Ahead consumer other asked q)
    (hmove : Move q e acts t) (hstays : e ≠ .abandon consumer)
    (hwaits : ∀ size, Act.given consumer size ∉ acts) :
    Ahead consumer other (asked ∨ e = .next other) t := by
  obtain ⟨front, back, hline, hbehind⟩ := hahead.split
  cases hmove with
  | accept | refuse | close => exact ⟨front, back, hline, by simpa using hbehind⟩
  | give hidle => simp [hidle] at hline
  | @wait newcomer hnew =>
      refine ⟨front, back ++ [newcomer], by simp [hline], fun hasked => ?_⟩
      rcases hasked with hasked | hasked
      · exact hbehind hasked
      · obtain rfl := Event.next.inj hasked
        rw [hline, List.mem_append, List.mem_cons, not_or, not_or] at hnew
        exact ⟨hnew.1, hnew.2.1⟩
  | @serve first size t hfirst hgives =>
      -- Only the head of the line is served, and that is not the consumer, which still waits.
      cases front with
      | nil =>
          rw [hfirst] at hline
          obtain rfl := (List.cons.inj hline).1
          exact absurd (List.mem_singleton.2 rfl) (hwaits size)
      | cons head front =>
          rw [hfirst] at hline
          refine ⟨front, back, (List.cons.inj hline).2, fun hasked => ?_⟩
          have hkept := hbehind (by simpa using hasked)
          exact ⟨fun hmem => hkept.1 (List.mem_cons_of_mem _ hmem), hkept.2⟩
  | @abandon gone _ =>
      have hother : gone ≠ consumer := fun hsame => hstays (hsame ▸ rfl)
      refine ⟨front.filter (· ≠ gone), back.filter (· ≠ gone), ?_, fun hasked => ?_⟩
      · simp [hline, Ne.symm hother]
      · have hkept := hbehind (by simpa using hasked)
        exact ⟨fun hmem => hkept.1 (List.mem_of_mem_filter hmem), hkept.2⟩

theorem Ahead.run {other : Nat} {s : SizeQueue} (hrun : Run SizeQueue.step s log q)
    (hstart : Ahead consumer other False s)
    (hstays : ∀ τ ∈ log, τ.event ≠ .abandon consumer ∧
      ∀ size, Act.given consumer size ∉ τ.acts) :
    Ahead consumer other (∃ τ ∈ log, τ.event = .next other) q := by
  induction hrun with
  | nil => simpa using hstart
  | @snoc log s t e acts hrun hstep ih =>
      have hbefore := ih fun τ hτ => hstays τ (List.mem_append_left _ hτ)
      obtain ⟨hkeeps, hwaits⟩ := hstays ⟨s, e, acts, t⟩ (by simp)
      have hafter := hbefore.step (move_of_step hstep) hkeeps hwaits
      simpa [or_and_right, exists_or] using hafter

/-- Nobody that has asked later is served while a consumer waits. -/
theorem Ahead.not_given {other : Nat} {asked : Prop} (hahead : Ahead consumer other asked q)
    (hmove : Move q e acts t) (hasked : asked ∨ e = .next other) :
    Act.given other size ∉ acts := by
  obtain ⟨front, back, hline, hbehind⟩ := hahead.split
  intro hgiven
  cases hmove with
  | give hidle => simp [hidle] at hline
  | @serve first _ t hfirst hgives =>
      obtain rfl : other = first := by simpa using (Act.given.inj (List.mem_singleton.1 hgiven)).1
      obtain ⟨hfront, hother⟩ := hbehind (by simpa using hasked)
      rw [hfirst] at hline
      cases front with
      | nil => exact hother (List.cons.inj hline).1
      | cons head front => exact hfront ((List.cons.inj hline).1 ▸ List.mem_cons_self)
  | accept | refuse | wait | abandon | close => simp at hgiven

theorem ahead_of_waits {other : Nat} (hmove : Move q e acts t)
    (hwaits : Act.waits consumer ∈ acts) : Ahead consumer other False t := by
  cases hmove with
  | @wait newcomer hnew =>
      obtain rfl := Act.waits.inj (List.mem_singleton.1 hwaits)
      exact ⟨q.waiting, [], rfl, False.elim⟩
  | accept | refuse | give | serve | abandon | close => simp at hwaits

/-- The line is fair: a consumer that asks after another has begun to wait ends only after that one
has been served or has given up. -/
theorem fair_of_run {other : Nat} {pre mid post : Log} {τ₁ τ₂ : Transition SizeQueue Event Act}
    (hrun : Run step (create requested) (pre ++ τ₁ :: (mid ++ τ₂ :: post)) q)
    (hwaits : Act.waits consumer ∈ τ₁.acts)
    (hasks : ∃ τ ∈ mid ++ [τ₂], τ.event = .next other) (hgiven : Act.given other size ∈ τ₂.acts) :
    ∃ τ ∈ mid, τ.event = .abandon consumer ∨ ∃ size, Act.given consumer size ∈ τ.acts := by
  by_contra hnever
  push Not at hnever
  obtain ⟨-, hfirst, hafter⟩ := hrun.at_step
  obtain ⟨hmid, hsecond, -⟩ := hafter.at_step
  have hstart : Ahead consumer other False τ₁.target := ahead_of_waits (move_of_step hfirst) hwaits
  have hahead := hstart.run hmid hnever
  have hasked : (∃ τ ∈ mid, τ.event = .next other) ∨ τ₂.event = .next other := by
    obtain ⟨τ, hmem, hτ⟩ := hasks
    rcases List.mem_append.1 hmem with hmem | hmem
    · exact .inl ⟨τ, hmem, hτ⟩
    · exact .inr (List.mem_singleton.1 hmem ▸ hτ)
  exact hahead.not_given (move_of_step hsecond) hasked hgiven

/-! ## The end of a queue -/

/-- A closed queue has an answer for everybody that waits. -/
theorem exists_run_of_closed (hclosed : q.closed = true) :
    ∃ log t, Run step q log t ∧ (∀ τ ∈ log, τ.event = .serve) ∧
      ∀ consumer ∈ q.waiting, ∃ size, Act.given consumer size ∈ seen log := by
  generalize hline : q.waiting = line
  induction line generalizing q with
  | nil => exact ⟨[], q, .nil, by simp, by simp⟩
  | cons first rest ih =>
      have hserve := serve_of_closed hclosed hline
      generalize hnext : { q with pending := q.pending.tail, waiting := rest } = next at hserve
      have hstep : q.step .serve = some (next, [.given first q.pending.head?]) := by
        simp [step, hserve]
      obtain ⟨log, t, hrun, hevents, hgiven⟩ := ih (q := next) (hnext ▸ hclosed) (hnext ▸ rfl)
      refine ⟨_, t, (Run.single hstep).trans hrun, ?_, fun consumer hmem => ?_⟩
      · simpa using hevents
      · rw [seen_append, seen_cons, seen_nil, List.append_nil]
        rcases List.mem_cons.1 hmem with rfl | hmem
        · exact ⟨_, List.mem_append_left _ (List.mem_singleton.2 rfl)⟩
        · obtain ⟨size, hlater⟩ := hgiven consumer hmem
          exact ⟨size, List.mem_append_right _ hlater⟩

theorem waiting_of_settled (hclosed : q.closed = true) (hsettled : q.step .serve = none) :
    q.waiting = [] := by
  cases hline : q.waiting with
  | nil => rfl
  | cons first rest => simp [step, serve_of_closed hclosed hline] at hsettled

/-- A closed queue in which nobody waits makes nobody wait. -/
theorem next_of_closed (hclosed : q.closed = true) (hidle : q.waiting = []) (consumer : Nat) :
    ∃ size t, q.step (.next consumer) = some (t, [.given consumer size]) := by
  cases hpending : q.pending with
  | nil => exact ⟨none, q, by simp [step, poll, take?, hidle, hpending, hclosed]⟩
  | cons first rest =>
      exact ⟨some first, { q with pending := rest }, by
        simp [step, poll, take?, hidle, hpending]⟩

theorem Move.ended (hmove : Move q e acts t) (hgiven : Act.given consumer none ∈ acts) :
    q.closed = true ∧ q.pending = [] := by
  cases hmove with
  | give hidle hgives hline =>
      exact hgives.ended (Act.given.inj (List.mem_singleton.1 hgiven)).2.symm
  | serve hfirst hgives =>
      exact hgives.ended (Act.given.inj (List.mem_singleton.1 hgiven)).2.symm
  | accept | refuse | wait | abandon | close => simp at hgiven

theorem step_fill (hsound : Sound capacity q) (s : Size) :
    q.step (.fill s) = some (
      if q.closed = true then (q, [.refused s .closed])
      else if q.pending.length = capacity then (q, [.refused s .full])
      else ({ q with pending := q.pending ++ [s] }, [.accepted s])) := by
  obtain ⟨rfl, hbounded, -⟩ := hsound
  by_cases hclosed : q.closed = true
  · simp [step, fill, hclosed]
  · have hopen : q.closed = false := by simpa using hclosed
    by_cases hfull : q.pending.length = q.capacity
    · simp [step, fill_of_full hopen (Nat.le_of_eq hfull.symm), hopen, hfull]
    · have hroom : q.pending.length < q.capacity := by omega
      simp [step, fill_of_room hopen hroom, hopen, hfull]

/-! ## The law of the queue -/

/-- What holds of a queue with this capacity after anything that can have happened to it. -/
structure Law (capacity : Nat) (log : Log) (q : SizeQueue) : Prop where
  bounded : q.pending.length ≤ capacity
  /-- Sizes that come in go to the end of the queue, unless it has been closed or is full. -/
  fills : ∀ s, q.step (.fill s) = some (
    if ∃ τ ∈ log, τ.event = .close then (q, [.refused s .closed])
    else if q.pending.length = capacity then (q, [.refused s .full])
    else ({ q with pending := q.pending ++ [s] }, [.accepted s]))
  /-- Every size is pending or has gone to one consumer, in order. -/
  conserved : taken (seen log) ++ q.pending = accepted (seen log)
  /-- Every consumer that has asked has ended, has given up or waits. -/
  answered : ∀ consumer, log.countP (·.event = .next consumer) =
    (seen log).countP (Act.ends consumer) + log.countP (·.event = .abandon consumer) +
      q.waiting.count consumer
  /-- A consumer that asks after another has begun to wait ends after that one has been served or
  has given up. -/
  fair : ∀ pre τ₁ mid τ₂ post first later size, log = pre ++ τ₁ :: (mid ++ τ₂ :: post) →
    Act.waits first ∈ τ₁.acts → (∃ τ ∈ mid ++ [τ₂], τ.event = .next later) →
    Act.given later size ∈ τ₂.acts →
    ∃ τ ∈ mid, τ.event = .abandon first ∨ ∃ size, Act.given first size ∈ τ.acts
  /-- A consumer ends without a size only after the queue has been closed and all its sizes have
  been taken. -/
  ended : ∀ pre τ post consumer, log = pre ++ τ :: post → Act.given consumer none ∈ τ.acts →
    (∃ σ ∈ pre, σ.event = .close) ∧ taken (seen pre) = accepted (seen pre)
  /-- After the end, serving the line is enough for all that wait to end. -/
  drains : (∃ τ ∈ log, τ.event = .close) → ∃ rest t, Run step q rest t ∧
    (∀ τ ∈ rest, τ.event = .serve) ∧
    ∀ consumer ∈ q.waiting, ∃ size, Act.given consumer size ∈ seen rest
  /-- After the end and once nothing can go on, nobody waits and nobody is made to wait. -/
  settled : (∃ τ ∈ log, τ.event = .close) → q.step .serve = none → q.waiting = [] ∧
    ∀ consumer, ∃ size t, q.step (.next consumer) = some (t, [.given consumer size])
  closes : (∃ τ ∈ log, τ.event = .close) → q.step .close = some (q, [])

theorem size_queue_law (hrun : Run step (create requested) log q) :
    Law (if requested = 0 then 10 else requested) log q := by
  have hsound := sound_of_run hrun
  have hclosed := closed_of_run hrun
  constructor
  case bounded => exact hsound.bounded
  case fills =>
    intro s
    simp only [step_fill hsound s, hclosed]
  case conserved => exact conserved_of_run hrun
  case answered => exact balance_of_run hrun
  case fair =>
    rintro pre τ₁ mid τ₂ post first later size rfl hwaits hasks hgiven
    exact fair_of_run hrun hwaits hasks hgiven
  case ended =>
    rintro pre τ post consumer rfl hgiven
    obtain ⟨hbefore, hstep, -⟩ := hrun.at_step
    obtain ⟨hended, hdrained⟩ := (move_of_step hstep).ended hgiven
    have hconserved := conserved_of_run hbefore
    rw [hdrained, List.append_nil] at hconserved
    exact ⟨(closed_of_run hbefore).1 hended, hconserved⟩
  case drains => exact fun hclose => exists_run_of_closed (hclosed.2 hclose)
  case settled =>
    intro hclose hsettled
    have hidle := waiting_of_settled (hclosed.2 hclose) hsettled
    exact ⟨hidle, next_of_closed (hclosed.2 hclose) hidle⟩
  case closes =>
    intro hclose
    have hsame : q.close = q := by
      rw [close, ← hclosed.2 hclose]
    simp [step, hsame]

/-- Three consumers wait, the second of them gives up, and a queue of two sizes is filled, refuses,
serves the line and ends. -/
theorem size_queue_law_line :
    ∃ log q, Run step (create 2) log q ∧
      taken (seen log) = [⟨80, 24⟩, ⟨132, 50⟩] ∧
      (seen log).count (.refused ⟨1, 1⟩ .full) = 1 ∧
      (seen log).count (.refused ⟨1, 1⟩ .closed) = 1 ∧ Law 2 log q := by
  have hcheck : ∃ log q, Run step (create 2) log q ∧
      taken (seen log) = [⟨80, 24⟩, ⟨132, 50⟩] ∧
      (seen log).count (.refused ⟨1, 1⟩ .full) = 1 ∧
      (seen log).count (.refused ⟨1, 1⟩ .closed) = 1 :=
    exists_run_of_replay
      [.next 1, .next 2, .next 3, .fill ⟨80, 24⟩, .abandon 2, .fill ⟨132, 50⟩, .fill ⟨1, 1⟩,
        .serve, .close, .fill ⟨1, 1⟩, .serve, .next 2]
      (by decide +kernel)
  obtain ⟨log, q, hrun, htaken, hfull, hclosed⟩ := hcheck
  exact ⟨log, q, hrun, htaken, hfull, hclosed, size_queue_law hrun⟩

end SessionGateway.Terminal.SizeQueue
