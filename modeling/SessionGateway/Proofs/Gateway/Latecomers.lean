import SessionGateway.Proofs.Gateway.Lifecycle
import SessionGateway.Proofs.Task.Callers

/-!
# What comes after a shutdown

A call that waits for a group of tasks is let go when no task of the group is running, and one that
shuts a gateway down when no connection is active. Neither closes the door: a task that is started
after the call runs, a connection that is handed over is served, and the call returns in spite of
them once it has been let go.
-/

namespace SessionGateway

namespace Task.Callers

/-- What there is of a group when a call that waits for it returns, and from then on. -/
structure Aftermath (group : Nat) (σ : Transition Callers Event Act) (mid : Log)
    (ρ : Transition Callers Event Act) (post : Log) : Prop where
  /-- A task that runs was started after the call began. -/
  late : ∀ τ ∈ ρ :: post, ∀ n entry, τ.target.forest.tasks[n]? = some entry →
    entry.group = group → entry.running = true → σ.source.forest.tasks.length ≤ n
  idle : (∀ τ ∈ mid, τ.event ≠ .forest (.spawn group)) → ρ.target.forest.running group = 0
  /-- No task runs any more iff those that were started in the meantime have ended, and no further one
  is started. -/
  stays : (∀ τ ∈ ρ :: post, τ.target.forest.running group = 0) ↔
    (∀ n entry, σ.source.forest.tasks.length ≤ n → ρ.target.forest.tasks[n]? = some entry →
      entry.group = group → entry.running = false) ∧
    ∀ τ ∈ post, τ.event ≠ .forest (.spawn group)

/-- What becomes of the tasks of a group along a run, and of the calls that wait for them. -/
structure Latecomers (group : Nat) (log : Log) : Prop where
  /-- A task that is started runs, whoever waits for the group. -/
  taken : ∀ τ ∈ log, τ.event = .forest (.spawn group) →
    τ.target.forest.running group = τ.source.forest.running group + 1
  /-- After a call that waits, the number of running tasks never rises iff no task is started. -/
  rises : ∀ {pre post : Log} {σ : Transition Callers Event Act} {call : Nat},
    log = pre ++ σ :: post → Begins σ call group →
    ((∀ τ ∈ post, τ.target.forest.running group ≤ τ.source.forest.running group) ↔
      ∀ τ ∈ post, τ.event ≠ .forest (.spawn group))
  returns : ∀ {pre mid post : Log} {σ ρ : Transition Callers Event Act} {call : Nat},
    log = pre ++ σ :: (mid ++ ρ :: post) → Begins σ call group → ρ.event = .return call →
    Aftermath group σ mid ρ post

section

variable {s t : Callers} {group call : Nat} {e : Event} {log late pre mid post : Log}
  {σ ρ τ : Transition Callers Event Act}

theorem Move.running_le (hmove : Move s e t) (hspawn : e ≠ .forest (.spawn group)) :
    t.forest.running group ≤ s.forest.running group := by
  have hbalance := hmove.running_balance group
  rw [decide_eq_false hspawn, Bool.toNat_false] at hbalance
  omega

theorem running_of_spawn (hrun : Run step s log t) (hmem : τ ∈ log)
    (hspawn : τ.event = .forest (.spawn group)) :
    τ.target.forest.running group = τ.source.forest.running group + 1 := by
  obtain ⟨source, event, acts, target⟩ := τ
  obtain rfl : event = .forest (.spawn group) := hspawn
  have hmove : Move source (.forest (.spawn group)) target := move_of_step (hrun.step_of_mem hmem)
  cases hmove with
  | forest hmove =>
      cases hmove with
      | spawn _ => exact Forest.running_spawn

theorem rises_of_spawn (hrun : Run step s log t) :
    ∀ τ ∈ log, τ.event = .forest (.spawn group) →
      τ.source.forest.running group < τ.target.forest.running group :=
  fun _ hmem hspawn => running_of_spawn hrun hmem hspawn ▸ Nat.lt_succ_self _

theorem falls_of_other (hrun : Run step s log t) :
    ∀ τ ∈ log, ¬τ.event = .forest (.spawn group) →
      τ.target.forest.running group ≤ τ.source.forest.running group :=
  fun _ hmem hspawn => (move_of_step (hrun.step_of_mem hmem)).running_le hspawn

/-- Of a group that a call was let go for, only what was started since can be running. -/
theorem LetGo.running_eq_zero_iff (h : LetGo σ late s group) :
    s.forest.running group = 0 ↔ ∀ n entry, σ.source.forest.tasks.length ≤ n →
      s.forest.tasks[n]? = some entry → entry.group = group → entry.running = false := by
  rw [Forest.running_eq_zero_iff]
  constructor
  · exact fun hnone n entry _ hentry => hnone entry (List.mem_of_getElem? hentry)
  · intro hnone entry hmem hgroup
    obtain ⟨n, hentry⟩ := List.mem_iff_getElem?.1 hmem
    rcases Nat.lt_or_ge n σ.source.forest.tasks.length with hlt | hge
    · exact h.ended n entry hlt hentry hgroup
    · exact hnone n entry hge hentry hgroup

/-- If no task is started after a call, then none is running from the moment on at which the call is
let go. -/
theorem LetGo.running_eq_zero (h : LetGo σ late s group) (hbegins : Begins σ call group)
    (hrun : Run Callers.step σ.source (σ :: late) s)
    (hnever : ∀ τ ∈ late, τ.event ≠ .forest (.spawn group)) : s.forest.running group = 0 := by
  have hquiet : ∀ τ ∈ σ :: late, τ.event ≠ .forest (.spawn group) := by
    refine List.forall_mem_cons.2 ⟨?_, hnever⟩
    rcases hbegins.1 with hevent | hevent <;> simp [hevent]
  exact hrun.zero_of_never_rises (·.forest.running group) h.idle fun τ hmem =>
    falls_of_other hrun τ hmem (hquiet τ hmem)

theorem aftermath_of_run (hrun : Run step s (pre ++ σ :: (mid ++ ρ :: post)) t)
    (hbegins : Begins σ call group) (hreturn : ρ.event = .return call) :
    Aftermath group σ mid ρ post := by
  obtain ⟨_, hfirst, hrest⟩ := hrun.at_step
  obtain ⟨hmid, hlast, hpost⟩ := hrest.at_step
  have hwaited := (Run.single hfirst).trans hmid
  obtain ⟨hreleased, hforest⟩ :
      ρ.source.forest.isReleased call = true ∧ ρ.target.forest = ρ.source.forest := by
    obtain ⟨source, event, acts, target⟩ := ρ
    obtain rfl : event = .return call := hreturn
    have hmove : Move source (.return call) target := move_of_step hlast
    cases hmove with
    | «return» hreleased _ => exact ⟨hreleased, rfl⟩
  have hbefore := letGo_of_run hbegins hfirst hmid hreleased
  have hlength := tasks_le_of_run hwaited
  constructor
  case late =>
    intro τ hmem n entry hentry hgroup hrunning
    obtain ⟨early, rest, hsplit⟩ := List.append_of_mem hmem
    have hafter : Run step ρ.source (early ++ τ :: rest) t := hsplit ▸ (Run.single hlast).trans hpost
    obtain ⟨hearly, hstep, _⟩ := hafter.at_step
    by_contra hlt
    have hended := (hbefore.run (hearly.snoc hstep) hlength).ended n entry (Nat.lt_of_not_le hlt)
      hentry hgroup
    simp [hended] at hrunning
  case idle =>
    intro hnever
    rw [hforest]
    exact hbefore.running_eq_zero hbegins hwaited hnever
  case stays =>
    rw [List.forall_mem_cons, ← (hbefore.run (.single hlast) hlength).running_eq_zero_iff]
    have hstays (hnow : ρ.target.forest.running group = 0) :
        (∀ τ ∈ post, τ.target.forest.running group = 0) ↔
          ∀ τ ∈ post, τ.event ≠ .forest (.spawn group) :=
      Run.stays_zero_iff (·.forest.running group) (·.event = .forest (.spawn group)) hpost hnow
        (rises_of_spawn hpost) (falls_of_other hpost)
    exact and_congr_right hstays

theorem latecomers_of_run (hrun : Run step s log t) (group : Nat) : Latecomers group log := by
  constructor
  case taken => exact fun τ hmem hspawn => running_of_spawn hrun hmem hspawn
  case rises =>
    intro pre post σ call hlog _
    have hpost := (hlog ▸ hrun).at_step.2.2
    exact Run.never_rises_iff (fun s : Callers => s.forest.running group)
      (fun τ : Transition Callers Event Act => τ.event = .forest (.spawn group))
      (rises_of_spawn hpost) (falls_of_other hpost)
  case returns =>
    intro pre mid post σ ρ call hlog hbegins hreturn
    exact aftermath_of_run (hlog ▸ hrun) hbegins hreturn

end

end Task.Callers

namespace Gateway

/-- What there is of a gateway when a call that shuts it down returns, and from then on. -/
structure Aftermath (σ : Transition Gateway Event Act) (mid : Log) (ρ : Transition Gateway Event Act)
    (post : Log) : Prop where
  /-- A connection that is active was handed over after the call began. -/
  late : ∀ τ ∈ ρ :: post, ∀ i s, τ.target.connections[i]? = some s → s.phase ≠ .returned →
    σ.source.connections.length ≤ i
  idle : (∀ τ ∈ mid, serves? τ = none) → ρ.target.active = 0
  /-- No connection is active any more iff those that were served in the meantime have returned, and no
  further one is served. -/
  stays : (∀ τ ∈ ρ :: post, τ.target.active = 0) ↔
    (∀ i s, σ.source.connections.length ≤ i → ρ.target.connections[i]? = some s →
      s.phase = .returned) ∧
    ∀ τ ∈ post, serves? τ = none

/-- What becomes of the connections of a gateway along a run, and of the calls that shut it down. -/
structure Latecomers (log : Log) : Prop where
  /-- A connection that is not refused is served, whether or not the gateway is shut down. -/
  taken : ∀ τ ∈ log, serves? τ ≠ none → τ.target.active = τ.source.active + 1
  /-- After a shutdown has begun, the number of active connections never rises iff none is served. -/
  rises : ∀ {pre post : Log} {σ : Transition Gateway Event Act}, log = pre ++ σ :: post →
    σ.event = .shutdown →
    ((∀ τ ∈ post, τ.target.active ≤ τ.source.active) ↔ ∀ τ ∈ post, serves? τ = none)
  returns : ∀ {pre mid post : Log} {σ ρ : Transition Gateway Event Act} {call : Nat},
    log = pre ++ σ :: (mid ++ ρ :: post) → σ.event = .shutdown →
    σ.source.shutdowns.length = call → ρ.event = .return call → Aftermath σ mid ρ post

section

variable {g t : Gateway} {e : Event} {acts : List Act} {i call : Nat} {s : Connection.State}
  {log pre mid post : Log} {σ ρ τ : Transition Gateway Event Act}

theorem active_of_serves (hmove : Move g e acts t) (hserves : serves? ⟨g, e, acts, t⟩ ≠ none) :
    t.active = g.active + 1 := by
  cases hmove with
  | serve hbuild =>
      rw [active, (context_of_build hbuild).2.2.2]
      simp [active, Connection.State.fresh]
  | refuse hbuild => simp [serves?, hbuild] at hserves
  | connection _ _ | shutdown | «return» _ => simp [serves?] at hserves

theorem active_le_of_move (hmove : Move g e acts t) (hserves : serves? ⟨g, e, acts, t⟩ = none) :
    t.active ≤ g.active := by
  cases hmove with
  | serve hbuild => simp [serves?, hbuild] at hserves
  | refuse _ | «return» _ => exact Nat.le_refl _
  | @connection i s u e own hconnection hstep =>
      obtain ⟨hlt, rfl⟩ := List.getElem?_eq_some_iff.1 hconnection
      rw [active_release, active, List.countP_set hlt]
      by_cases hphase : g.connections[i].phase = .returned
      · have hstays := Connection.returned_stays (Connection.State.move_of_step hstep) hphase
        simp [hphase, hstays, active]
      · have hcounted : 0 < g.active := List.countP_pos_iff.2 ⟨_, List.getElem_mem hlt, by simpa⟩
        rw [if_pos (by simpa)]
        split <;> simp only [active] at hcounted ⊢ <;> omega
  | shutdown => exact Nat.le_of_eq active_shutdown

theorem rises_of_serves (hrun : Run step g log t) :
    ∀ τ ∈ log, serves? τ ≠ none → τ.source.active < τ.target.active :=
  fun _ hmem hserves =>
    active_of_serves (move_of_step (hrun.step_of_mem hmem)) hserves ▸ Nat.lt_succ_self _

theorem falls_of_other (hrun : Run step g log t) :
    ∀ τ ∈ log, ¬serves? τ ≠ none → τ.target.active ≤ τ.source.active :=
  fun _ hmem hserves => active_le_of_move (move_of_step (hrun.step_of_mem hmem)) (not_not.1 hserves)

theorem connections_le_of_run (hrun : Run step g log t) :
    g.connections.length ≤ t.connections.length := by
  refine hrun.invariant (P := fun t => g.connections.length ≤ t.connections.length) (Nat.le_refl _)
    fun hle hstep => Nat.le_trans hle ?_
  cases move_of_step hstep with
  | serve _ | connection _ _ | shutdown => simp [Gateway.shutdown]
  | refuse _ | «return» _ => exact Nat.le_refl _

/-- The connections that are active after a moment at which none was came after the run began. -/
theorem served_later (hrun : Run step g log t) (hidle : ∃ τ ∈ log, τ.target.active = 0)
    (hconnection : t.connections[i]? = some s) (hphase : s.phase ≠ .returned) :
    g.connections.length ≤ i := by
  obtain ⟨τ, hmem, hidle⟩ := hidle
  obtain ⟨early, rest, rfl⟩ := List.append_of_mem hmem
  obtain ⟨hearly, hstep, hrest⟩ := hrun.at_step
  by_contra hlt
  have hthere := Nat.lt_of_lt_of_le (Nat.lt_of_not_le hlt)
    (connections_le_of_run (hearly.snoc hstep))
  have hended : τ.target.connections[i].phase = .returned := by
    simpa using List.countP_eq_zero.1 hidle _ (List.getElem_mem hthere)
  obtain ⟨after, hafter, hreturned⟩ :=
    returned_of_run hrest (List.getElem?_eq_getElem hthere) hended
  obtain rfl : after = s := Option.some.inj (hafter.symm.trans hconnection)
  exact hphase hreturned

theorem active_eq_zero_iff :
    g.active = 0 ↔ ∀ (i : Nat) s, g.connections[i]? = some s → s.phase = .returned := by
  simp only [active, List.countP_eq_zero, List.mem_iff_getElem?, decide_eq_true_eq, not_not]
  constructor
  · exact fun hnone i s hconnection => hnone s ⟨i, hconnection⟩
  · rintro hnone s ⟨i, hconnection⟩
    exact hnone i s hconnection

theorem aftermath_of_run (hrun : Run step g (pre ++ σ :: (mid ++ ρ :: post)) t)
    (hshutdown : σ.event = .shutdown) (hcall : σ.source.shutdowns.length = call)
    (hreturn : ρ.event = .return call) : Aftermath σ mid ρ post := by
  have hidle := idle_of_return hrun (Nat.le_of_eq hcall) hreturn
  obtain ⟨_, hfirst, hrest⟩ := hrun.at_step
  obtain ⟨hmid, hlast, hpost⟩ := hrest.at_step
  have hwaited := (Run.single hfirst).trans hmid
  have hlate : ∀ τ ∈ ρ :: post, ∀ i s, τ.target.connections[i]? = some s → s.phase ≠ .returned →
      σ.source.connections.length ≤ i := by
    intro τ hmem i s hconnection hphase
    obtain ⟨early, rest, hsplit⟩ := List.append_of_mem hmem
    have hafter : Run step ρ.source (early ++ τ :: rest) t := hsplit ▸ (Run.single hlast).trans hpost
    obtain ⟨hearly, hstep, _⟩ := hafter.at_step
    obtain ⟨κ, hκ, hzero⟩ := hidle
    exact served_later (hwaited.trans (hearly.snoc hstep)) ⟨κ, List.mem_append_left _ hκ, hzero⟩
      hconnection hphase
  have hzero : ρ.target.active = 0 ↔ ∀ i s, σ.source.connections.length ≤ i →
      ρ.target.connections[i]? = some s → s.phase = .returned := by
    rw [active_eq_zero_iff]
    constructor
    · exact fun hnone i s _ => hnone i s
    · intro hnone i s hconnection
      by_contra hphase
      exact hphase (hnone i s (hlate ρ List.mem_cons_self i s hconnection hphase) hconnection)
  constructor
  case late => exact hlate
  case idle =>
    intro hnever
    have hquiet : ∀ τ ∈ (σ :: mid) ++ [ρ], serves? τ = none := by
      simp only [List.cons_append, List.mem_cons, List.mem_append, List.not_mem_nil, or_false]
      rintro τ (rfl | hmem | rfl)
      · simp [serves?, hshutdown]
      · exact hnever τ hmem
      · simp [serves?, hreturn]
    have hreturned := hwaited.trans (.single hlast)
    obtain ⟨κ, hκ, hzero⟩ := hidle
    exact hreturned.zero_of_never_rises active ⟨κ, List.mem_append_left _ hκ, hzero⟩ fun τ hmem =>
      falls_of_other hreturned τ hmem (by simp [hquiet τ hmem])
  case stays =>
    rw [List.forall_mem_cons, ← hzero]
    have hstays (hnow : ρ.target.active = 0) := Run.stays_zero_iff active (serves? · ≠ none) hpost
      hnow (rises_of_serves hpost) (falls_of_other hpost)
    simpa only [ne_eq, not_not] using and_congr_right hstays

theorem latecomers_of_run (hrun : Run step g log t) : Latecomers log := by
  constructor
  case taken =>
    exact fun τ hmem hserves => active_of_serves (move_of_step (hrun.step_of_mem hmem)) hserves
  case rises =>
    intro pre post σ hlog _
    have hpost := (hlog ▸ hrun).at_step.2.2
    have hrises := Run.never_rises_iff active (serves? · ≠ none) (rises_of_serves hpost)
      (falls_of_other hpost)
    simpa only [ne_eq, not_not] using hrises
  case returns =>
    intro pre mid post σ ρ call hlog hshutdown hcall hreturn
    exact aftermath_of_run (hlog ▸ hrun) hshutdown hcall hreturn

end

/-- Whoever waits, groups and gateways go on taking what comes: exactly what is started or handed over
after the call makes a group or a gateway busy when the call returns, and later. -/
theorem latecomers_taken {start callers : Task.Callers} {tasks : Task.Callers.Log}
    {gateway g : Gateway} {log : Log} (htasks : Run Task.Callers.step start tasks callers)
    (hrun : Run step gateway log g) :
    (∀ group, Task.Callers.Latecomers group tasks) ∧ Latecomers log :=
  ⟨Task.Callers.latecomers_of_run htasks, latecomers_of_run hrun⟩

/-- A group is waited for while it is empty, a gateway is shut down while it has no connection, and
both have something to do again before the calls return. -/
theorem latecomers_taken_once :
    ∃ tasks s gateway log t, Run Task.Callers.step .empty tasks s ∧
      tasks.map (·.event) = [.forest (.group none), .forest (.wait 0), .forest (.spawn 0), .return 0,
        .forest (.finish 0)] ∧
      tasks.map (·.target.forest.running 0) = [0, 0, 1, 1, 0] ∧
      create .standard = .ok gateway ∧ Run step gateway log t ∧ (served log).length = 1 ∧
      log.map (·.target.shutdowns) = [[⟨true, false⟩], [⟨true, false⟩], [⟨true, true⟩]] ∧
      log.map (·.target.active) = [0, 1, 1] ∧ Task.Callers.Latecomers 0 tasks ∧ Latecomers log := by
  let login : Connection.Login := ⟨"ada", [], .ofList [("namespace", "team"), ("user-id", "ada")]⟩
  have hcreate : create .standard = .ok ⟨.standard, false, [], []⟩ := by rfl
  obtain ⟨tasks, s, htasks, hevents, hrunning⟩ : ∃ log s, Run Task.Callers.step .empty log s ∧
      log.map (·.event) = [.forest (.group none), .forest (.wait 0), .forest (.spawn 0), .return 0,
        .forest (.finish 0)] ∧
      log.map (·.target.forest.running 0) = [0, 0, 1, 1, 0] :=
    exists_run_of_replay [.forest (.group none), .forest (.wait 0), .forest (.spawn 0), .return 0,
      .forest (.finish 0)] (by decide +kernel)
  obtain ⟨log, t, hrun, hserved, hshut, hactive⟩ :
      ∃ log t, Run step ⟨.standard, false, [], []⟩ log t ∧ (served log).length = 1 ∧
        log.map (·.target.shutdowns) = [[⟨true, false⟩], [⟨true, false⟩], [⟨true, true⟩]] ∧
        log.map (·.target.active) = [0, 1, 1] :=
    exists_run_of_replay [.shutdown, .serve login, .return 0] (by decide +kernel)
  obtain ⟨hgroups, hgateway⟩ := latecomers_taken htasks hrun
  exact ⟨tasks, s, _, log, t, htasks, hevents, hrunning, hcreate, hrun, hserved, hshut, hactive,
    hgroups 0, hgateway⟩

/-- A call that waits for an empty group returns at once, and a task that is started then runs. A
gateway that has shut down serves a connection that is handed over then. -/
theorem busy_after_shutdown :
    (∃ log s, Run Task.Callers.step .empty log s ∧
      log.map (·.event) = [.forest (.group none), .forest (.wait 0), .return 0, .forest (.spawn 0)] ∧
      log.map (·.acts) = [[], [], [.returned 0], []] ∧
      log.map (·.target.forest.running 0) = [0, 0, 0, 1]) ∧
    ∃ gateway log t, create .standard = .ok gateway ∧ Run step gateway log t ∧
      log.map (·.target.shutdowns) = [[⟨true, false⟩], [⟨true, true⟩], [⟨true, true⟩]] ∧
      log.map (·.target.active) = [0, 0, 1] := by
  let login : Connection.Login := ⟨"ada", [], .ofList [("namespace", "team"), ("user-id", "ada")]⟩
  have hcreate : create .standard = .ok ⟨.standard, false, [], []⟩ := by rfl
  refine ⟨?_, ⟨.standard, false, [], []⟩, ?_⟩
  · exact exists_run_of_replay [.forest (.group none), .forest (.wait 0), .return 0,
      .forest (.spawn 0)] (by decide +kernel)
  · obtain ⟨log, t, hrun, hshut, hactive⟩ : ∃ log t, Run step ⟨.standard, false, [], []⟩ log t ∧
        log.map (·.target.shutdowns) = [[⟨true, false⟩], [⟨true, true⟩], [⟨true, true⟩]] ∧
        log.map (·.target.active) = [0, 0, 1] :=
      exists_run_of_replay [.shutdown, .return 0, .serve login] (by decide +kernel)
    exact ⟨log, t, hcreate, hrun, hshut, hactive⟩

end Gateway

end SessionGateway
