import SessionGateway.Proofs.Channel.Dispatch
import SessionGateway.Proofs.Config.Document
import SessionGateway.Proofs.Connection.Openings
import SessionGateway.Proofs.Connection.Watched
import SessionGateway.Proofs.Gateway.Admission
import SessionGateway.Proofs.Terminal.SizeQueue

/-!
# What settings can ask for

Settings that have passed their check can still ask for more than can be had: for a queue of sizes
that is larger than a queue can be, for an interval that the clock cannot count, and for patience
with so many failures that their count runs over. For each of the three the exact limit is proved:
within it nothing goes wrong in any run of a connection, and beyond it a run goes wrong.
-/

namespace SessionGateway

/-! ## The capacity of a queue -/

/-- A queue has the capacity that is asked for, unless that is zero. -/
theorem Terminal.SizeQueue.create_eq {requested : Nat} (hrequested : requested ≠ 0) :
    create requested = ⟨requested, [], false, []⟩ := by
  rw [create, effectiveCapacity, if_neg hrequested]

namespace Channel

theorem Session.capacity_offered (sizes : Terminal.SizeQueue) (brought : Option Terminal.Size) :
    (offered sizes brought).capacity = sizes.capacity := by
  cases brought with
  | none => rfl
  | some size =>
      simp only [offered, Terminal.SizeQueue.fill]
      split_ifs <;> rfl

theorem Forward.runStartup_sizes (ctx : Context) (s : Scratch) :
    (Table.runStartup ctx table.startup s).1.sizes = s.sizes := by
  cases hopened : s.forwardOpen with
  | some _ => rw [runStartup_table hopened, Scratch.spawn]
  | none =>
      simp [table, Table.empty, Table.onStart, Table.observing, Table.runStartup, onStart, hopened]

namespace Handler

variable {ctx : Context} {forwardOpen : Option ForwardOpen} {h t : Handler} {e : Event}
  {acts : List Act} {log : Log}

/-- Sizes come and go, and the queue stays as large as it is. -/
theorem capacity_of_move (htable : h.table = Connection.tableFor forwardOpen)
    (hmove : Move ctx h e acts t) : t.scratch.sizes.capacity = h.scratch.sizes.capacity := by
  cases hmove with
  | start _ =>
      rw [htable]
      cases forwardOpen with
      | none => rfl
      | some _ => exact congrArg Terminal.SizeQueue.capacity (Forward.runStartup_sizes ctx h.scratch)
  | @take raw _ _ _ _ =>
      rw [htable]
      cases forwardOpen with
      | none =>
          simp only [Connection.tableFor, (Session.handled_dispatch h.taken).sizes]
          exact Session.capacity_offered _ _
      | some _ => simp only [Connection.tableFor, Forward.dispatch_scratch]
  | pollSize hpoll => exact (Terminal.SizeQueue.gives_of_poll hpoll).capacity
  | serveSize hserve => exact (Terminal.SizeQueue.gives_of_serve hserve).capacity
  | brief _ | join _ _ | execEnds _ _ | forwardEnds _ | written _ => simp
  | _ => rfl

theorem capacity_of_run (htable : h.table = Connection.tableFor forwardOpen)
    (hrun : Run (Handler.step ctx) h log t) :
    t.scratch.sizes.capacity = h.scratch.sizes.capacity := by
  induction hrun with
  | nil => rfl
  | snoc hbefore hstep ih =>
      exact (capacity_of_move ((table_of_run hbefore).trans htable) (move_of_step hstep)).trans ih

end Handler

end Channel

/-! ## The pace of the probing -/

namespace Keepalive

/-- The earliest time for the probe that follows so many failures in a row, if the clock shows the
reading when the probing is set up. -/
def earliest (k : Keepalive) (reading n : Nat) : Nat :=
  reading + k.interval + n * k.period

theorem earliest_succ (k : Keepalive) (reading n : Nat) :
    k.earliest reading (n + 1) = k.earliest reading n + k.period := by
  rw [earliest, earliest, Nat.succ_mul, ← Nat.add_assoc]

theorem earliest_mono (k : Keepalive) (reading : Nat) {m n : Nat} (h : m ≤ n) :
    k.earliest reading m ≤ k.earliest reading n :=
  Nat.add_le_add_left (Nat.mul_le_mul_right _ h) _

namespace Watch

/-- A watch that was set up at a reading of the clock sends no probe before the earliest time. -/
structure Paced (k : Keepalive) (reading : Nat) (w : Watch) : Prop where
  settings : w.probing.settings = k
  ready : w.probing.phase = .ready → reading ≤ w.clock ∧ w.probing.failures = 0
  waiting : ∀ due, w.probing.phase = .waiting due →
    k.earliest reading w.probing.failures.toNat ≤ due
  probing : ∀ due deadline, w.probing.phase = .probing due deadline →
    k.earliest reading w.probing.failures.toNat ≤ w.clock ∧
      k.earliest reading (w.probing.failures.toNat + 1) ≤ due

variable {k : Keepalive} {reading : Nat} {w t : Watch} {e : Event} {acts : List Act}

theorem paced_of_ended (hsettings : w.probing.settings = k) (hended : w.probing.ended = true) :
    Paced k reading w where
  settings := hsettings
  ready hphase := by simp [State.ended, hphase] at hended
  waiting due hphase := by simp [State.ended, hphase] at hended
  probing due deadline hphase := by simp [State.ended, hphase] at hended

theorem failuresAfter_le (p : State) (o : Outcome) :
    (p.failuresAfter o).toNat ≤ p.failures.toNat + 1 := by
  unfold State.failuresAfter
  split
  · rw [UInt32.toNat_add]
    exact Nat.mod_le _ _
  · exact Nat.zero_le _

theorem Paced.move (h : Paced k reading w) (hmove : Move w e acts t) : Paced k reading t := by
  cases hmove with
  | elapse time =>
      refine ⟨h.settings, fun hphase => ?_, h.waiting, fun due deadline hphase => ?_⟩
      · obtain ⟨hreading, hnone⟩ := h.ready hphase
        exact ⟨hreading.trans (Nat.le_add_right _ _), hnone⟩
      · obtain ⟨hpast, hnext⟩ := h.probing due deadline hphase
        exact ⟨hpast.trans (Nat.le_add_right _ _), hnext⟩
  | cancel => exact ⟨h.settings, h.ready, h.waiting, h.probing⟩
  | start hphase _ =>
      obtain ⟨hreading, hnone⟩ := h.ready hphase
      refine ⟨h.settings, fun hnot => (Phase.noConfusion hnot), fun due hdue => ?_,
        fun due deadline hnot => Phase.noConfusion hnot⟩
      obtain rfl := Phase.waiting.inj hdue
      rw [moveTo_failures, hnone, h.settings, earliest]
      simpa using hreading
  | crash _ _ | exhaust _ _ _ | stop _ _ => exact paced_of_ended h.settings rfl
  | @send due hphase hdue =>
      have hearliest := h.waiting due hphase
      refine ⟨h.settings, fun hnot => Phase.noConfusion hnot, fun due hnot => Phase.noConfusion hnot,
        fun next deadline hnext => ?_⟩
      obtain ⟨rfl, -⟩ := Phase.probing.inj hnext
      have htick : due + k.period ≤ w.nextTick due := by
        rw [nextTick, h.settings]
        split <;> omega
      refine ⟨hearliest.trans hdue, ?_⟩
      rw [moveTo_failures, earliest_succ]
      omega
  | @settle due deadline o hphase _ _ =>
      obtain ⟨-, hnext⟩ := h.probing due deadline hphase
      refine ⟨h.settings, fun hnot => Phase.noConfusion hnot, fun due hdue => ?_,
        fun due deadline hnot => Phase.noConfusion hnot⟩
      obtain rfl := Phase.waiting.inj hdue
      exact (k.earliest_mono reading (failuresAfter_le _ o)).trans hnext

theorem paced_of_run {log : Log} (h : Paced k reading w) (hrun : Run Watch.step w log t) :
    Paced k reading t :=
  hrun.invariant h fun h hstep => h.move (move_of_step hstep)

end Watch

end Keepalive

namespace Connection

/-- The count of failures in a row runs over with a step: it stands at the largest number when a
probe fails. -/
def Overflows (τ : Transition State Event Act) : Prop :=
  τ.source.keepalive.failures.toNat + 1 = UInt32.size ∧
    (τ.event = .keepalive (.probed false) ∨ τ.event = .keepalive .expire)

/-- What settings come to in a run of a connection. -/
structure Limits (c : Config) (log : Log) (s : State) : Prop where
  /-- A channel that is accepted has an empty queue of exactly the capacity that is set, unless that
  is more than a queue can hold: then its task crashes. -/
  queue : ∀ τ ∈ log, ∀ n, τ.event = .accepted n (.ok ()) →
    (Terminal.SizeQueue.maxCapacity < c.queueCapacity.toNat ∧
      τ.target.channels[n]? = some .crashed) ∨
    (c.queueCapacity.toNat ≤ Terminal.SizeQueue.maxCapacity ∧
      ∃ h, τ.target.channels[n]? = some (Stage.serving h) ∧
        h.scratch.sizes = ⟨c.queueCapacity.toNat, [], false, []⟩)
  /-- Its queue stays as large. -/
  capacity : ∀ (n : Nat) (h : Channel.Handler), s.channels[n]? = some (.serving h) →
    h.scratch.sizes.capacity = c.queueCapacity.toNat
  /-- The probing waits for its first deadline, unless the clock cannot show it: then it crashes. -/
  deadline : ∀ τ ∈ log, ∀ panic, τ.event = .keepalive (.start panic) →
    τ.target.keepalive.phase =
      if Keepalive.clockLimit ≤ τ.source.clock + c.keepaliveInterval.total then .crashed panic
      else .waiting (τ.source.clock + c.keepaliveInterval.total)

section

variable {c : Config} {ctx : Context} {cancelled : Bool} {s t : State} {n reading : Nat}
  {acts : List Act} {log : Log}

theorem positive_of_valid (hvalid : c.problem? = none) :
    0 < c.keepaliveInterval.total ∧ c.queueCapacity.toNat ≠ 0 := by
  obtain ⟨hinterval, hcapacity, _⟩ := (Config.problem?_eq_none_iff c).1 hvalid
  rw [Nat.pos_iff_ne_zero]
  exact ⟨fun h => hinterval (Interval.total_eq_zero_iff.1 h),
    fun h => hcapacity (UInt64.toNat_inj.1 h)⟩

theorem queue_of_move (hcapacity : s.context.config.queueCapacity.toNat ≠ 0)
    (hmove : s.Move (.accepted n (.ok ())) acts t) :
    (Terminal.SizeQueue.maxCapacity < s.context.config.queueCapacity.toNat ∧
      t.channels[n]? = some .crashed) ∨
    (s.context.config.queueCapacity.toNat ≤ Terminal.SizeQueue.maxCapacity ∧
      ∃ h, t.channels[n]? = some (Stage.serving h) ∧
        h.scratch.sizes = ⟨s.context.config.queueCapacity.toNat, [], false, []⟩) := by
  cases hmove with
  | leave hleaves => cases hleaves
  | @attempt _ stage after _ _ hstage hstep =>
      cases hstep with
      | crash _ hlarge =>
          have hlt := (List.getElem?_eq_some_iff.1 hstage).1
          exact .inl ⟨hlarge, List.getElem?_set_self hlt⟩
      | serve _ hsmall =>
          have hlt := (List.getElem?_eq_some_iff.1 hstage).1
          refine .inr ⟨Nat.le_of_not_lt hsmall, _, List.getElem?_set_self hlt, ?_⟩
          exact Terminal.SizeQueue.create_eq hcapacity

theorem settings_of_run (hrun : Run State.step (.fresh ctx cancelled) log s) :
    s.keepalive.settings = .ofConfig ctx.config := by
  obtain ⟨watched, hwatched⟩ := watch_of_fresh hrun
  exact (Keepalive.Watch.stands_of_run hwatched).1.settings

theorem deadline_of_move {panic : String} (hinterval : 0 < s.keepalive.settings.interval)
    (hmove : s.Move (.keepalive (.start panic)) acts t) : t.keepalive.phase =
      if Keepalive.clockLimit ≤ s.clock + s.keepalive.settings.interval then .crashed panic
      else .waiting (s.clock + s.keepalive.settings.interval) := by
  obtain ⟨k, owns, hstep, _, rfl⟩ := State.keepalive_of_move hmove
  have hsame : (if State.exhausts owns then State.cancel { s with keepalive := k }
      else { s with keepalive := k }).keepalive = k := by split <;> rfl
  rw [hsame]
  cases Keepalive.State.move_of_step hstep with
  | start _ hfit => rw [if_neg (Nat.not_le_of_lt (Keepalive.not_unfit_iff.1 hfit).2)]
  | crash _ hunfit => rw [if_pos (hunfit.resolve_left (Nat.pos_iff_ne_zero.1 hinterval))]

theorem limits_of_fresh {who : Identity} (hvalid : c.problem? = none)
    (hrun : Run State.step (.fresh ⟨who, c⟩ cancelled) log s) : Limits c log s := by
  obtain ⟨hinterval, hcapacity⟩ := positive_of_valid hvalid
  have hbefore : ∀ τ ∈ log, τ.source.context = ⟨who, c⟩ ∧
      τ.source.keepalive.settings = .ofConfig c ∧ τ.source.Move τ.event τ.acts τ.target := by
    intro τ hmem
    obtain ⟨pre, post, rfl⟩ := List.append_of_mem hmem
    obtain ⟨hpre, hstep, _⟩ := hrun.at_step
    have hsettings := settings_of_run hpre
    exact ⟨(traced_of_run hpre 0).1, hsettings, State.move_of_step hstep⟩
  constructor
  case queue =>
    rintro ⟨source, event, acts, target⟩ hmem n rfl
    obtain ⟨hcontext, _, hmove⟩ := hbefore _ hmem
    have hqueue := queue_of_move (by rw [hcontext]; exact hcapacity) hmove
    rwa [hcontext] at hqueue
  case capacity =>
    intro n h hserving
    have htraced := (traced_of_run hrun n).2
    rw [hserving] at htraced
    cases htraced with
    | waiting hattempt => cases hattempt
    | @serving _ forwardOpen _ _ _ _ _ hown =>
        rw [Channel.Handler.capacity_of_run rfl hown]
        exact congrArg Terminal.SizeQueue.capacity (Terminal.SizeQueue.create_eq hcapacity)
  case deadline =>
    rintro ⟨source, event, acts, target⟩ hmem panic rfl
    obtain ⟨_, hsettings, hmove⟩ := hbefore _ hmem
    have hpositive : 0 < source.keepalive.settings.interval := by
      rw [hsettings]
      exact hinterval
    have hdeadline := deadline_of_move hpositive hmove
    rwa [hsettings] at hdeadline

theorem limits_of_run {who : Identity} (hvalid : c.problem? = none)
    (hrun : Run State.step (.freshAt ⟨who, c⟩ cancelled reading) log s) : Limits c log s := by
  obtain ⟨τ, hfresh⟩ := run_of_freshAt hrun
  obtain ⟨hqueue, hcapacity, hdeadline⟩ := limits_of_fresh hvalid hfresh
  exact ⟨fun τ hτ => hqueue τ (List.mem_cons_of_mem _ hτ), hcapacity,
    fun τ hτ => hdeadline τ (List.mem_cons_of_mem _ hτ)⟩

/-! ## The count of failures -/

theorem probing_of_overflows {τ : Transition State Event Act} (hover : Overflows τ)
    (hmove : τ.source.Move τ.event τ.acts τ.target) :
    ∃ due deadline, τ.source.keepalive.phase = .probing due deadline := by
  obtain ⟨-, hevent⟩ := hover
  rcases hevent with hevent | hevent <;> rw [hevent] at hmove <;>
    obtain ⟨k, owns, hstep, -, -⟩ := State.keepalive_of_move hmove
  · generalize hown : Keepalive.Event.probed false = own at hstep
    cases Keepalive.State.move_of_step hstep with
    | answer hphase _ => exact ⟨_, _, hphase⟩
    | _ => cases hown
  · cases Keepalive.State.move_of_step hstep with
    | expire hphase _ => exact ⟨_, _, hphase⟩

/-- The count never passes what is tolerated while the probing goes on. So it runs over only where
every number is tolerated, and not before as many probes have been sent. -/
theorem limits_of_overflows (hrun : Run State.step (.freshAt ctx cancelled reading) log s)
    {τ : Transition State Event Act} (hmem : τ ∈ log) (hover : Overflows τ) :
    ctx.config.keepaliveMaxRetries.toNat + 1 = UInt32.size ∧
      (Keepalive.ofConfig ctx.config).earliest reading ctx.config.keepaliveMaxRetries.toNat ≤
        s.clock := by
  obtain ⟨pre, post, rfl⟩ := List.append_of_mem hmem
  obtain ⟨hpre, hstep, hpost⟩ := hrun.at_step
  obtain ⟨due, deadline, hphase⟩ := probing_of_overflows hover (State.move_of_step hstep)
  have hretries : ctx.config.keepaliveMaxRetries.toNat + 1 = UInt32.size := by
    obtain ⟨_, hfresh⟩ := run_of_freshAt hpre
    obtain ⟨watched, hwatched⟩ := watch_of_fresh hfresh
    obtain ⟨_, _, _, hspared⟩ := (Keepalive.Watch.stands_of_run hwatched).2.of_probing hphase
    have htolerated : τ.source.keepalive.failures.toNat ≤ ctx.config.keepaliveMaxRetries.toNat :=
      UInt32.le_iff_toNat_le.1 (UInt32.not_lt.1 hspared)
    have hlargest := hover.1
    have hword := UInt32.toNat_lt_size ctx.config.keepaliveMaxRetries
    omega
  have hpaced : Keepalive.Watch.Paced (.ofConfig ctx.config) reading τ.source.watch := by
    obtain ⟨watched, hwatched, _⟩ := watch_of_run hpre
    exact Keepalive.Watch.paced_of_run ⟨rfl, fun _ => ⟨Nat.le_refl _, rfl⟩,
      fun _ hnot => Keepalive.Phase.noConfusion hnot,
      fun _ _ hnot => Keepalive.Phase.noConfusion hnot⟩ hwatched
  have hfailures : τ.source.keepalive.failures.toNat = ctx.config.keepaliveMaxRetries.toNat :=
    Nat.succ_injective (hover.1.trans hretries.symm)
  refine ⟨hretries, ?_⟩
  calc (Keepalive.ofConfig ctx.config).earliest reading ctx.config.keepaliveMaxRetries.toNat
      ≤ τ.source.clock := hfailures ▸ (hpaced.probing due deadline hphase).1
    _ ≤ τ.target.clock := clock_le_of_run (.single hstep)
    _ ≤ s.clock := clock_le_of_run hpost

/-- So many probes in a row have failed, each as soon as it could, and the probing waits for the next
one. -/
structure Failing (k : Keepalive) (reading n : Nat) (s : State) : Prop where
  begun : s.phase ≠ .ready
  settings : s.keepalive.settings = k
  waiting : s.keepalive.phase = .waiting (k.earliest reading n)
  clock : s.clock ≤ k.earliest reading n
  failures : s.keepalive.failures.toNat = n

/-- So many probes in a row have failed, each as soon as it could, and the next one has just been
sent. -/
structure Trying (k : Keepalive) (reading n : Nat) (s : State) : Prop where
  begun : s.phase ≠ .ready
  settings : s.keepalive.settings = k
  probing : ∃ deadline, s.keepalive.phase = .probing (k.earliest reading (n + 1)) deadline
  clock : s.clock = k.earliest reading n
  failures : s.keepalive.failures.toNat = n

variable {k : Keepalive}

theorem step_keepalive {e : Keepalive.Event} {next : Keepalive.State} {owns : List Keepalive.Act}
    (hbegun : s.phase ≠ .ready)
    (hstep : s.keepalive.step s.cancelled s.clock e = some (next, owns)) :
    ∃ t acts, s.step (.keepalive e) = some (t, acts) ∧ t.phase = s.phase ∧ t.clock = s.clock ∧
      t.keepalive = next := by
  refine ⟨_, _, State.step_of_move (.keepalive hbegun hstep), ?_, ?_, ?_⟩ <;> split <;> rfl

/-- Time passes until the next probe is due, and it is sent. -/
theorem Failing.probe (hfailing : Failing k reading n s) :
    ∃ log t, Run State.step s log t ∧ Trying k reading n t := by
  obtain ⟨hbegun, hsettings, hwaiting, hclock, hfailures⟩ := hfailing
  have helapse : s.step (.elapse (k.earliest reading n - s.clock)) =
      some ({ s with clock := k.earliest reading n }, []) := by
    rw [State.step, Nat.add_sub_cancel' hclock]
  obtain ⟨next, htick, hphase, hkept, hcount⟩ : ∃ next,
      s.keepalive.step s.cancelled (k.earliest reading n) .tick = some (next, [.probe]) ∧
      (∃ deadline, next.phase = .probing (k.earliest reading (n + 1)) deadline) ∧
      next.settings = s.keepalive.settings ∧ next.failures = s.keepalive.failures := by
    simp [Keepalive.State.step, hwaiting, hsettings, Keepalive.earliest_succ]
  obtain ⟨t, acts, hsent, hgoes, htime, rfl⟩ :=
    step_keepalive (s := { s with clock := k.earliest reading n }) hbegun htick
  exact ⟨_, t, (Run.single helapse).snoc hsent, hgoes ▸ hbegun, hkept.trans hsettings, hphase,
    htime, (congrArg UInt32.toNat hcount).trans hfailures⟩

/-- The probe fails. -/
theorem Trying.fail (htrying : Trying k reading n s) :
    ∃ t acts, s.step (.keepalive (.probed false)) = some (t, acts) ∧ t.clock = s.clock ∧
      (n < k.maxRetries.toNat → Failing k reading (n + 1) t) := by
  obtain ⟨hbegun, hsettings, ⟨deadline, hprobing⟩, hclock, hfailures⟩ := htrying
  obtain ⟨next, owns, hsettle⟩ : ∃ next owns,
      s.keepalive.settle (k.earliest reading (n + 1)) false = (next, owns) := ⟨_, _, rfl⟩
  have hstep : s.keepalive.step s.cancelled s.clock (.probed false) = some (next, owns) := by
    simp [Keepalive.State.step, hprobing, hsettle]
  obtain ⟨t, acts, hfailed, hgoes, htime, hnext⟩ := step_keepalive hbegun hstep
  refine ⟨t, acts, hfailed, htime, fun hspared => ?_⟩
  have hword := UInt32.toNat_lt_size k.maxRetries
  have hcount : (s.keepalive.failures + 1).toNat = n + 1 := by
    rw [UInt32.toNat_add, hfailures]
    exact Nat.mod_eq_of_lt (Nat.lt_of_le_of_lt hspared hword)
  have htolerated : ¬k.maxRetries < s.keepalive.failures + 1 := by
    rw [UInt32.lt_iff_toNat_lt, hcount]
    omega
  have hwaits : t.keepalive =
      ⟨k, .waiting (k.earliest reading (n + 1)), s.keepalive.failures + 1⟩ := by
    simp only [Keepalive.State.settle, hsettings, htolerated, Bool.false_eq_true, if_false,
      Prod.mk.injEq] at hsettle
    exact hnext.trans hsettle.1.symm
  have hearly : t.clock ≤ k.earliest reading (n + 1) := by
    rw [htime, hclock]
    exact k.earliest_mono reading (Nat.le_succ n)
  exact ⟨hgoes ▸ hbegun, by rw [hwaits], by rw [hwaits], hearly, by rw [hwaits, hcount]⟩

theorem exists_failing (hfit : ¬ (Keepalive.ofConfig ctx.config).Unfit reading)
    (hn : n ≤ ctx.config.keepaliveMaxRetries.toNat) :
    ∃ log s, Run State.step (.freshAt ctx false reading) log s ∧
      Failing (.ofConfig ctx.config) reading n s := by
  induction n with
  | zero =>
      have hprovision : State.step (.freshAt ctx false reading) .advance = some
          ({ State.freshAt ctx false reading with phase := .provisioning },
            [.provision ctx.identity]) := rfl
      have hstart : (Keepalive.ofConfig ctx.config).fresh.step false reading (.start "") =
          some (⟨.ofConfig ctx.config,
            .waiting (reading + (Keepalive.ofConfig ctx.config).interval), 0⟩, []) := by
        simp [Keepalive.State.step, Keepalive.fresh, hfit]
      obtain ⟨t, acts, hstarted, hgoes, htime, hnext⟩ := step_keepalive
        (s := { State.freshAt ctx false reading with phase := .provisioning }) (by simp) hstart
      refine ⟨_, t, (Run.single hprovision).snoc hstarted, by simp [hgoes], by rw [hnext], ?_, ?_,
        by rw [hnext]; rfl⟩
      · rw [hnext, Keepalive.earliest, Nat.zero_mul, Nat.add_zero]
      · rw [htime, Keepalive.earliest, Nat.zero_mul, Nat.add_zero]
        exact Nat.le_add_right _ _
  | succ n ih =>
      obtain ⟨log, s, hrun, hfailing⟩ := ih (by omega)
      obtain ⟨more, t, hmore, htrying⟩ := hfailing.probe
      obtain ⟨u, acts, hfailed, _, hfails⟩ := htrying.fail
      exact ⟨_, u, (hrun.trans hmore).snoc hfailed, hfails hn⟩

theorem exists_overflow (hfit : ¬ (Keepalive.ofConfig ctx.config).Unfit reading)
    (hretries : ctx.config.keepaliveMaxRetries.toNat + 1 = UInt32.size) :
    ∃ log s, Run State.step (.freshAt ctx false reading) log s ∧ (∃ τ ∈ log, Overflows τ) ∧
      s.clock =
        (Keepalive.ofConfig ctx.config).earliest reading ctx.config.keepaliveMaxRetries.toNat := by
  obtain ⟨log, s, hrun, hfailing⟩ := exists_failing hfit (Nat.le_refl _)
  obtain ⟨more, t, hmore, htrying⟩ := hfailing.probe
  obtain ⟨u, acts, hfailed, htime, _⟩ := htrying.fail
  have hover : Overflows ⟨t, .keepalive (.probed false), acts, u⟩ :=
    ⟨by rw [htrying.failures, hretries], .inl rfl⟩
  exact ⟨_, u, (hrun.trans hmore).snoc hfailed,
    ⟨_, List.mem_append_right _ (List.mem_singleton.2 rfl), hover⟩, htime.trans htrying.clock⟩

end

end Connection

/-! ## Checked settings -/

/-- The ways in which settings come to be used. -/
inductive Config.Checked (c : Config) : Prop
  | valid (hvalid : c.problem? = none)
  | parsed {document : String} (hparse : Config.parse document = .ok c)
  | built {p : Connection.Parts} {s : Connection.State} (hbuild : p.build = .ok s)
      (hconfig : s.context.config = c)
  | created {g : Gateway} (hcreate : Gateway.create c = .ok g)

theorem Config.problem_of_check {c checked : Config} (hcheck : c.check = .ok checked) :
    checked.problem? = none := by
  unfold Config.check at hcheck
  split at hcheck
  · cases hcheck
  · rename_i hvalid
    exact Except.ok.inj hcheck ▸ hvalid

/-- Each of them makes sure that the settings have no problem. -/
theorem Config.Checked.problem {c : Config} (hchecked : c.Checked) : c.problem? = none := by
  cases hchecked with
  | valid hvalid => exact hvalid
  | built hbuild hconfig => exact hconfig ▸ (Connection.Parts.checked_of_build hbuild).2
  | created hcreate => exact Gateway.problem_of_create hcreate
  | parsed hparse =>
      unfold Config.parse at hparse
      split at hparse
      · cases hparse
      · split at hparse
        · cases hparse
        · exact problem_of_check hparse

namespace Connection

/-- Settings that have passed their check are kept to the letter up to three limits, and not beyond
them: a queue of sizes has exactly the capacity that is set if a queue can hold as much; the probing
waits for its first deadline if the clock can show it; and the count of failures runs over in some
run if every number of failures is tolerated and the clock lasts for as many probes, and in none
otherwise. -/
theorem limits_of_checked {c : Config} (hchecked : c.Checked) (who : Identity) (reading : Nat) :
    (∀ {cancelled : Bool} {log : Log} {s : State},
      Run State.step (.freshAt ⟨who, c⟩ cancelled reading) log s → Limits c log s) ∧
    ((∃ cancelled log s, Run State.step (.freshAt ⟨who, c⟩ cancelled reading) log s ∧
        (∃ τ ∈ log, Overflows τ) ∧ s.clock < Keepalive.clockLimit) ↔
      c.keepaliveMaxRetries.toNat + 1 = UInt32.size ∧
        reading + c.keepaliveInterval.total +
          c.keepaliveMaxRetries.toNat * (Keepalive.ofConfig c).period < Keepalive.clockLimit) := by
  refine ⟨limits_of_run hchecked.problem, ?_, ?_⟩
  · rintro ⟨cancelled, log, s, hrun, ⟨τ, hmem, hover⟩, hclock⟩
    obtain ⟨hretries, hearliest⟩ := limits_of_overflows hrun hmem hover
    exact ⟨hretries, hearliest.trans_lt hclock⟩
  · rintro ⟨hretries, hclock⟩
    have hinterval : 0 < c.keepaliveInterval.total := (positive_of_valid hchecked.problem).1
    have hfit : ¬ (Keepalive.ofConfig c).Unfit reading :=
      Keepalive.not_unfit_iff.2 ⟨hinterval, (Nat.le_add_right _ _).trans_lt hclock⟩
    obtain ⟨log, s, hrun, hover, htime⟩ := @exists_overflow ⟨who, c⟩ _ hfit hretries
    exact ⟨false, log, s, hrun, hover, htime.trans_lt hclock⟩

/-- With the settings of a gateway a channel is accepted with the four places for sizes that are set,
and the count of failures runs over in no run. -/
theorem limits_of_checked_gateway :
    ∃ c gateway, Gateway.create c = .ok gateway ∧
      ∃ log s, Run State.step (.freshAt ⟨⟨"team", "ada"⟩, c⟩ false 7000000000) log s ∧
        s.channels.any (fun stage => match stage with
          | .serving h => h.scratch.sizes.capacity = 4
          | _ => false) = true ∧
        Limits c log s ∧
        ¬∃ cancelled log s,
          Run State.step (.freshAt ⟨⟨"team", "ada"⟩, c⟩ cancelled 7000000000) log s ∧
            (∃ τ ∈ log, Overflows τ) ∧ s.clock < Keepalive.clockLimit := by
  have hcreate : Gateway.create { Config.standard with queueCapacity := 4 } =
      .ok ⟨{ Config.standard with queueCapacity := 4 }, false, [], []⟩ := by rfl
  have hrun : ∃ log s, Run State.step (.freshAt
      ⟨⟨"team", "ada"⟩, { Config.standard with queueCapacity := 4 }⟩ false 7000000000) log s ∧
      s.channels.any (fun stage => match stage with
        | .serving h => h.scratch.sizes.capacity = 4
        | _ => false) = true :=
    exists_run_of_replay
      [.advance, .keepalive (.start ""), .provisioned (.ok ()), .openChannel "session" [], .takeOpen,
        .runOpen 0, .accepted 0 (.ok ())]
      (by decide +kernel)
  obtain ⟨log, s, hrun, hserving⟩ := hrun
  obtain ⟨hlimits, hoverflow⟩ := limits_of_checked (.created hcreate) ⟨"team", "ada"⟩ 7000000000
  refine ⟨_, _, hcreate, log, s, hrun, hserving, hlimits hrun, fun hover => ?_⟩
  exact absurd (hoverflow.1 hover).1 (by decide)

/-- Settings that have passed their check go beyond each of the limits, when the clock shows zero. -/
theorem limits_overstepped :
    (∃ c : Config, c.Checked ∧ c.queueCapacity.toNat = 2 ^ 61 ∧
      ∃ log s, Run State.step (.freshAt ⟨⟨"team", "ada"⟩, c⟩ false 0) log s ∧
        s.channels.any (fun stage => match stage with
          | .crashed => true
          | _ => false) = true) ∧
    (∃ c : Config, c.Checked ∧ c.keepaliveInterval = .ofSeconds 18446744073709551615 ∧
      ∃ log s, Run State.step (.freshAt ⟨⟨"team", "ada"⟩, c⟩ false 0) log s ∧
        s.keepalive.phase = .crashed "overflow when adding duration to instant") ∧
    ∃ c : Config, c.Checked ∧ c.keepaliveMaxRetries.toNat = 2 ^ 32 - 1 ∧
      ∃ log s, Run State.step (.freshAt ⟨⟨"team", "ada"⟩, c⟩ false 0) log s ∧
        (∃ τ ∈ log, Overflows τ) ∧ s.clock < Keepalive.clockLimit := by
  refine ⟨⟨{ Config.standard with queueCapacity := 2305843009213693952 },
      .valid (by decide +kernel), by decide, ?_⟩,
    ⟨{ Config.standard with keepaliveInterval := .ofSeconds 18446744073709551615 },
      .valid (by decide +kernel), by decide, ?_⟩,
    ⟨{ Config.standard with keepaliveMaxRetries := 4294967295 }, .valid (by decide +kernel),
      by decide, ?_⟩⟩
  · exact exists_run_of_replay
      [.advance, .keepalive (.start ""), .provisioned (.ok ()), .openChannel "session" [], .takeOpen,
        .runOpen 0, .accepted 0 (.ok ())]
      (by decide +kernel)
  · exact exists_run_of_replay
      [.advance, .keepalive (.start "overflow when adding duration to instant")]
      (by decide +kernel)
  · obtain ⟨log, s, hrun, hover, htime⟩ := @exists_overflow
      ⟨⟨"team", "ada"⟩, { Config.standard with keepaliveMaxRetries := 4294967295 }⟩ 0
      (by decide +kernel) (by decide)
    exact ⟨log, s, hrun, hover, htime.trans_lt (by decide +kernel)⟩

end Connection

end SessionGateway
