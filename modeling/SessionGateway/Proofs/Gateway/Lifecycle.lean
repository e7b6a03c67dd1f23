import SessionGateway.Proofs.Connection.Probes
import SessionGateway.Proofs.Connection.Shutdown
import SessionGateway.Proofs.Gateway.Confinement

/-!
# The lifecycle of a gateway

A gateway counts the connections that it serves and that have not returned. Each connection has a
token of its own, and only a shutdown reaches more than one of them. When a shutdown finds that no
connection is served any more, every connection that came before it has been closed once and has
left nothing behind.
-/

namespace SessionGateway

namespace Connection

def eventsFor (n : Nat) (events : List Event) : List Channel.Event :=
  events.filterMap (Event.on? n)

theorem eventsFor_map (n : Nat) (log : Log) : eventsFor n (log.map (·.event)) = eventsOn n log := by
  rw [eventsFor, List.filterMap_map]
  rfl

theorem eventsFor_filter (n : Nat) (events : List Event) :
    eventsFor n (events.filter (!·.isCancel)) = eventsFor n events :=
  filterMap_filter_isCancel rfl events

theorem countP_filter_isCancel {p : Event → Bool} (hcancel : p .cancel = false)
    (events : List Event) : (events.filter (!·.isCancel)).countP p = events.countP p := by
  rw [List.countP_filter]
  congr 1
  funext e
  cases e <;> simp [Event.isCancel, hcancel]

section

variable {ctx : Context} {cancelled : Bool} {log : Log} {s : State}

/-- Of a connection that has returned nothing is outstanding. -/
theorem ended_of_returned (hrun : Run State.step (State.fresh ctx cancelled) log s)
    (hphase : s.phase = .returned) :
    (seen log).count .closeConnection = 1 ∧
      (∀ n (op : Channel.Operation),
        (actsOn n (seen log)).countP op.begins = (eventsOn n log).countP op.ends) ∧
      (seen log).countP Act.isProbe =
        log.countP (fun τ => τ.event.isProbed) + (seen log).count .giveUpProbe := by
  have hclosed : s.phase.closed = true := by rw [hphase]; rfl
  have hsound := sound_of_run hrun
  refine ⟨?_, fun n op => ?_, ?_⟩
  · rw [count_close_of_run hrun, hclosed]
    rfl
  · have hfinished := hsound.finished (Phase.joined_of_closed hclosed)
    refine ((traced_of_run hrun n).2.of_finished fun after hafter => ?_).1 op
    exact List.all_eq_true.1 hfinished after (List.mem_of_getElem? hafter)
  · have hended := hsound.keepalive hclosed
    have hnone : s.keepalive.awaits = false := by
      unfold Keepalive.State.ended at hended
      unfold Keepalive.State.awaits
      cases hprobing : s.keepalive.phase <;> simp_all
    rw [probes_of_run hrun, hnone, Bool.toNat_false, Nat.zero_add]

end

end Connection

namespace Gateway

def returned (i : Nat) (log : Log) : Bool :=
  (eventsOf i (log.map (·.event))).any Connection.Event.isClosed

/-- A connection has been closed once, and no call, no write and no probe is outstanding. -/
structure Ended (i : Nat) (log : Log) : Prop where
  closed : (actsOf i (seen log)).count .closeConnection = 1
  operations : ∀ n (op : Channel.Operation),
    (Connection.actsOn n (actsOf i (seen log))).countP op.begins =
      (Connection.eventsFor n (eventsOf i (log.map (·.event)))).countP op.ends
  probes : (actsOf i (seen log)).countP Connection.Act.isProbe =
    (eventsOf i (log.map (·.event))).countP Connection.Event.isProbed +
      (actsOf i (seen log)).count .giveUpProbe

/-- A step with which the token of a connection can be cancelled. -/
inductive Severs (j : Nat) (τ : Transition Gateway Event Act) : Prop
  | shutdown (hevent : τ.event = .shutdown)
  | outside (hevent : τ.event = .connection j .cancel)
  | silent {e : Keepalive.Event} {failures : UInt32} (hevent : τ.event = .connection j (.keepalive e))
      (hwarning : .connection j (.warn (Keepalive.exhaustedWarning failures)) ∈ τ.acts)
  /-- The connection takes no further channel, and all its channels have come to their end. -/
  | done {s : Connection.State} (hevent : τ.event = .connection j .advance)
      (hsource : τ.source.connections[j]? = some s) (hphase : s.phase = .draining)
      (hfinished : s.channels.all Connection.Stage.finished = true)

structure Lifecycle (log : Log) (t : Gateway) : Prop where
  /-- The active connections are those that were served and have not returned. -/
  active : t.active = (List.range (served log).length).countP fun i => !returned i log
  /-- An event of one connection changes no other connection, and not the token of the gateway. -/
  apart : ∀ τ ∈ log, ∀ i e, τ.event = .connection i e →
    τ.target.cancelled = τ.source.cancelled ∧
      ∀ j, j ≠ i → τ.target.connections[j]? = τ.source.connections[j]?
  cancels : ∀ τ ∈ log, ∀ i, τ.event = .connection i .cancel →
    ∃ s, τ.source.connections[i]? = some s ∧ τ.target.connections[i]? = some s.cancel
  /-- The token of the gateway is cancelled by a shutdown and by nothing else. -/
  token : t.cancelled = true ↔ ∃ τ ∈ log, τ.event = .shutdown
  /-- The token of a connection is cancelled by a shutdown or by what happens to this connection. -/
  tokens : ∀ j s, t.connections[j]? = some s → s.cancelled = true → ∃ τ ∈ log, Severs j τ
  /-- Once no connection is active after a shutdown, those that were served before it have ended. -/
  idle : ∀ {pre mid post : Log} {σ ρ : Transition Gateway Event Act},
    log = pre ++ σ :: (mid ++ ρ :: post) → σ.event = .shutdown → ρ.source.active = 0 →
    ∀ i < (served pre).length, Ended i log
  /-- So they have when the call that shuts down returns, or one that began later does. -/
  returns : ∀ {pre mid post : Log} {σ ρ : Transition Gateway Event Act} {call : Nat},
    log = pre ++ σ :: (mid ++ ρ :: post) → σ.event = .shutdown → ρ.event = .return call →
    σ.source.shutdowns.length ≤ call → ∀ i < (served pre).length, Ended i log

section

variable {config : Config} {i j call : Nat} {log pre post : Log} {g t : Gateway} {e : Event}
  {acts : List Act} {s : Connection.State}

theorem Followed.returned_iff (hfollowed : Followed config i log (some s)) :
    returned i log = true ↔ s.phase = .returned := by
  cases hfollowed with
  | @present _ _ _ _ own _ _ _ hrun _ hevents =>
      have hcount : (eventsOf i (log.map (·.event))).countP Connection.Event.isClosed =
          if s.phase = .returned then 1 else 0 := by
        rw [← Connection.countP_filter_isCancel rfl, ← hevents,
          Connection.countP_filter_isCancel rfl, List.countP_map]
        exact Connection.countP_isClosed_of_run hrun
      rw [returned, List.any_eq_true, ← List.countP_pos_iff, hcount]
      split <;> simp_all

theorem Followed.ended (hfollowed : Followed config i log (some s)) (hphase : s.phase = .returned) :
    Ended i log := by
  cases hfollowed with
  | @present _ _ _ _ own _ _ _ hrun hacts hevents =>
      obtain ⟨hclosed, hoperations, hprobes⟩ := Connection.ended_of_returned hrun hphase
      have hprobed : (eventsOf i (log.map (·.event))).countP Connection.Event.isProbed =
          own.countP fun τ => τ.event.isProbed := by
        rw [← Connection.countP_filter_isCancel rfl, ← hevents,
          Connection.countP_filter_isCancel rfl, List.countP_map]
        rfl
      refine ⟨hacts ▸ hclosed, fun n op => ?_, ?_⟩
      · rw [hacts, hoperations, ← Connection.eventsFor_map, ← Connection.eventsFor_filter, hevents,
          Connection.eventsFor_filter]
      · rw [hacts, hprobed, hprobes]

theorem active_eq_countP (hlength : g.connections.length = (served log).length)
    (hfollowed : ∀ i, Followed config i log g.connections[i]?) :
    g.active = (List.range (served log).length).countP fun i => !returned i log := by
  -- A connection that is counted is one that has not returned, number by number.
  have hflags : (g.connections.map fun s => decide (s.phase ≠ .returned)) =
      (List.range (served log).length).map fun i => !returned i log := by
    apply List.ext_getElem
    · simp [hlength]
    · intro i hi _
      simp only [List.length_map] at hi
      have hstate := hfollowed i
      rw [List.getElem?_eq_getElem hi] at hstate
      have hreturned := hstate.returned_iff
      simp only [List.getElem_map, List.getElem_range]
      cases hflag : returned i log <;> simp_all
  have hcount := congrArg (List.countP id) hflags
  rw [List.countP_map, List.countP_map] at hcount
  exact hcount

theorem returned_of_step (hmove : Move g e acts t) (hconnection : g.connections[i]? = some s)
    (hphase : s.phase = .returned) :
    ∃ after, t.connections[i]? = some after ∧ after.phase = .returned := by
  cases hmove with
  | serve _ =>
      have hlt := (List.getElem?_eq_some_iff.1 hconnection).1
      exact ⟨s, by rw [List.getElem?_append_left hlt, hconnection], hphase⟩
  | refuse _ | «return» _ => exact ⟨s, hconnection, hphase⟩
  | @connection j before after e own hbefore hown =>
      by_cases hj : j = i
      · subst hj
        obtain rfl : before = s := Option.some.inj (hbefore.symm.trans hconnection)
        have hlt := (List.getElem?_eq_some_iff.1 hconnection).1
        exact ⟨after, List.getElem?_set_self hlt,
          Connection.returned_stays (Connection.State.move_of_step hown) hphase⟩
      · exact ⟨s, by rw [connections_release, List.getElem?_set_ne hj, hconnection], hphase⟩
  | shutdown =>
      refine ⟨s.cancel, ?_, hphase⟩
      simp [Gateway.shutdown, hconnection]

theorem returned_of_run (hrun : Run step g log t) (hconnection : g.connections[i]? = some s)
    (hphase : s.phase = .returned) :
    ∃ after, t.connections[i]? = some after ∧ after.phase = .returned := by
  induction hrun with
  | nil => exact ⟨s, hconnection, hphase⟩
  | snoc _ hstep ih =>
      obtain ⟨after, hafter, hreturned⟩ := ih
      exact returned_of_step (move_of_step hstep) hafter hreturned

theorem cancelled_of_step (hmove : Move g e acts t) :
    t.cancelled = true ↔ g.cancelled = true ∨ e = .shutdown := by
  cases hmove with
  | shutdown => simp [Gateway.shutdown]
  | _ => simp

theorem severs_of_step (hmove : Move g e acts t) (hconnection : t.connections[j]? = some s)
    (hcancelled : s.cancelled = true) :
    (∃ before, g.connections[j]? = some before ∧ before.cancelled = true) ∨ g.cancelled = true ∨
      Severs j ⟨g, e, acts, t⟩ := by
  cases hmove with
  | refuse _ | «return» _ => exact .inl ⟨s, hconnection, hcancelled⟩
  | shutdown => exact .inr (.inr (.shutdown rfl))
  | serve hbuild =>
      by_cases hj : j = g.connections.length
      · subst hj
        obtain rfl : _ = s := by simpa using hconnection
        rw [(context_of_build hbuild).2.2.2] at hcancelled
        exact .inr (.inl hcancelled)
      · rw [getElem?_push_of_ne hj] at hconnection
        exact .inl ⟨s, hconnection, hcancelled⟩
  | @connection i before after e own hbefore hown =>
      by_cases hij : i = j
      · subst hij
        have hlt := (List.getElem?_eq_some_iff.1 hbefore).1
        rw [connections_release, List.getElem?_set_self hlt] at hconnection
        obtain rfl := Option.some.inj hconnection
        cases hlive : before.cancelled with
        | true => exact .inl ⟨before, hbefore, hlive⟩
        | false =>
            refine .inr (.inr ?_)
            rcases Connection.State.cancels_of_move (Connection.State.move_of_step hown) hlive
              hcancelled with rfl | ⟨rfl, hphase, hfinished⟩ | ⟨k, failures, rfl, hwarning⟩
            · exact .outside rfl
            · exact .done rfl hbefore hphase hfinished
            · exact .silent rfl (List.mem_map_of_mem hwarning)
      · rw [connections_release, List.getElem?_set_ne hij] at hconnection
        exact .inl ⟨s, hconnection, hcancelled⟩

theorem tokens_of_run (hrun : Run step ⟨config, false, [], []⟩ log t) :
    (t.cancelled = true ↔ ∃ τ ∈ log, τ.event = .shutdown) ∧
      ∀ j s, t.connections[j]? = some s → s.cancelled = true → ∃ τ ∈ log, Severs j τ := by
  induction hrun with
  | nil => simp
  | @snoc log g t e acts _ hstep ih =>
      obtain ⟨htoken, htokens⟩ := ih
      have hmove := move_of_step hstep
      refine ⟨?_, fun j s hconnection hcancelled => ?_⟩
      · rw [cancelled_of_step hmove, htoken]
        simp [List.mem_append, or_and_right, exists_or]
      · rcases severs_of_step hmove hconnection hcancelled with
          ⟨before, hbefore, hsevered⟩ | hshut | hsevers
        · obtain ⟨τ, hmem, hsevers⟩ := htokens j before hbefore hsevered
          exact ⟨τ, List.mem_append_left _ hmem, hsevers⟩
        · obtain ⟨τ, hmem, hevent⟩ := htoken.1 hshut
          exact ⟨τ, List.mem_append_left _ hmem, .shutdown hevent⟩
        · exact ⟨_, List.mem_append_right _ (List.mem_singleton.2 rfl), hsevers⟩

theorem active_shutdown : g.shutdown.active = g.active := by
  rw [active, Gateway.shutdown, List.countP_map]
  rfl

/-- A call that has been let go after a step was so before, or no connection is active now. -/
theorem released_of_move (hmove : Move g e acts t)
    (hreleased : t.shutdowns[call]?.any Shutdown.released = true) :
    g.shutdowns[call]?.any Shutdown.released = true ∨ t.active = 0 := by
  cases hmove with
  | serve _ | refuse _ => exact .inl hreleased
  | @connection i _ u _ _ _ _ =>
      by_cases hidle : active { g with connections := g.connections.set i u } = 0
      · exact .inr hidle
      · refine .inl ?_
        simpa [Gateway.release, hidle, Option.any_map] using hreleased
  | shutdown =>
      rw [Gateway.shutdown, List.getElem?_append] at hreleased
      split at hreleased
      · exact .inl hreleased
      · refine .inr ?_
        rw [List.getElem?_singleton] at hreleased
        split at hreleased
        · rw [active_shutdown]
          exact of_decide_eq_true hreleased
        · cases hreleased
  | @«return» other hcall =>
      by_cases hother : other = call
      · subst hother
        exact .inl (by rw [hcall]; rfl)
      · rw [List.getElem?_set_ne hother] at hreleased
        exact .inl hreleased

/-- A call that shuts down is let go only at a moment, since it began, at which no connection is
active. -/
theorem idle_of_released (hrun : Run step g log t) (hcall : g.shutdowns.length ≤ call)
    (hreleased : t.shutdowns[call]?.any Shutdown.released = true) :
    ∃ τ ∈ log, τ.target.active = 0 := by
  induction hrun with
  | nil => simp [List.getElem?_eq_none hcall] at hreleased
  | @snoc log s t e acts _ hstep ih =>
      rcases released_of_move (move_of_step hstep) hreleased with hbefore | hidle
      · obtain ⟨τ, hmem, hidle⟩ := ih hbefore
        exact ⟨τ, List.mem_append_left _ hmem, hidle⟩
      · exact ⟨⟨s, e, acts, t⟩, List.mem_append_right _ (List.mem_singleton_self _), hidle⟩

theorem idle_of_return {pre mid post : Log} {σ ρ : Transition Gateway Event Act}
    (hrun : Run step g (pre ++ σ :: (mid ++ ρ :: post)) t)
    (hcall : σ.source.shutdowns.length ≤ call) (hreturn : ρ.event = .return call) :
    ∃ τ ∈ σ :: mid, τ.target.active = 0 := by
  obtain ⟨_, hfirst, hrest⟩ := hrun.at_step
  obtain ⟨hmid, hlast, _⟩ := hrest.at_step
  obtain ⟨source, event, acts, target⟩ := ρ
  obtain rfl : event = .return call := hreturn
  have hmove : Move source (.return call) acts target := move_of_step hlast
  cases hmove with
  | «return» hreleased =>
      exact idle_of_released ((Run.single hfirst).trans hmid) hcall (by rw [hreleased]; rfl)

/-- A connection that was served before a moment at which no connection is active has ended for
good. -/
theorem ended_of_idle (hpre : Run step ⟨config, false, [], []⟩ pre g) (hpost : Run step g post t)
    (hidle : g.active = 0) (hi : i < (served pre).length) : Ended i (pre ++ post) := by
  obtain ⟨_, hlength, _⟩ := followed_of_run hpre
  have hlt : i < g.connections.length := by omega
  have hnone := List.countP_eq_zero.1 hidle g.connections[i] (List.getElem_mem hlt)
  obtain ⟨after, hafter, hphase⟩ := returned_of_run hpost (List.getElem?_eq_getElem hlt)
    (by simpa using hnone)
  have hfollowed := (followed_of_run (hpre.trans hpost)).2.2 i
  rw [hafter] at hfollowed
  exact hfollowed.ended hphase

/-- However serving, connections, cancellations and shutdowns interleave, a gateway counts its
connections, keeps them apart, and leaves none behind when it is shut down. -/
theorem lifecycle {gateway : Gateway} (hcreate : create config = .ok gateway)
    (hrun : Run step gateway log t) : Lifecycle log t := by
  obtain rfl := eq_of_create hcreate
  have hserved (pre more : Log) : (served pre).length ≤ (served (pre ++ more)).length := by
    rw [served, served, List.filterMap_append, List.length_append]
    exact Nat.le_add_right _ _
  constructor
  case active =>
    obtain ⟨_, hlength, hfollowed⟩ := followed_of_run hrun
    exact active_eq_countP hlength hfollowed
  case apart =>
    rintro ⟨source, event, acts, target⟩ hmem i e rfl
    have hmove : Move source (.connection i e) acts target := move_of_step (hrun.step_of_mem hmem)
    cases hmove with
    | connection _ _ => exact ⟨rfl, fun j hj => List.getElem?_set_ne (Ne.symm hj)⟩
  case cancels =>
    rintro ⟨source, event, acts, target⟩ hmem i rfl
    have hmove : Move source (.connection i .cancel) acts target :=
      move_of_step (hrun.step_of_mem hmem)
    cases hmove with
    | @connection _ s _ _ _ hconnection hown =>
        obtain ⟨rfl, _⟩ := Prod.mk.inj (Option.some.inj hown)
        have hlt := (List.getElem?_eq_some_iff.1 hconnection).1
        exact ⟨s, hconnection, List.getElem?_set_self hlt⟩
  case token => exact (tokens_of_run hrun).1
  case tokens => exact (tokens_of_run hrun).2
  case idle =>
    intro pre mid post σ ρ hlog _ hidle i hi
    have hsplit : log = (pre ++ σ :: mid) ++ ρ :: post := by simp [hlog]
    subst hsplit
    obtain ⟨hpre, hstep, hpost⟩ := hrun.at_step
    exact ended_of_idle hpre ((Run.single hstep).trans hpost) hidle
      (Nat.lt_of_lt_of_le hi (hserved pre _))
  case returns =>
    intro pre mid post σ ρ call hlog _ hreturn hcall i hi
    subst hlog
    obtain ⟨τ, hmem, hidle⟩ := idle_of_return hrun hcall hreturn
    obtain ⟨early, late, hmid⟩ := List.append_of_mem hmem
    have hsplit : pre ++ σ :: (mid ++ ρ :: post) = (pre ++ early) ++ τ :: (late ++ ρ :: post) := by
      rw [← List.cons_append, hmid]
      simp
    rw [hsplit] at hrun ⊢
    obtain ⟨hpre, hstep, hpost⟩ := hrun.at_step
    have hended := ended_of_idle (hpre.snoc hstep) hpost hidle (i := i) (by
      rw [List.append_assoc]
      exact Nat.lt_of_lt_of_le hi (hserved pre _))
    rwa [List.append_assoc] at hended

/-- One connection waits for its pod, one serves a shell and has a probe outstanding, and one is
cancelled on its own and about to be closed, when the gateway is shut down. The shutdown returns
when all three have ended. -/
theorem lifecycle_three :
    ∃ gateway log t, create .standard = .ok gateway ∧ Run step gateway log t ∧
      t.shutdowns = [⟨true, true⟩] ∧ (served log).length = 3 ∧
      (actsOf 1 (seen log)).countP Connection.Act.isProbe = 1 ∧
      (Connection.actsOn 0 (actsOf 1 (seen log))).any Channel.Act.isExec = true ∧
      Lifecycle log t := by
  let login : Connection.Login := ⟨"ada", [], .ofList [("namespace", "team"), ("user-id", "ada")]⟩
  have hcreate : create .standard = .ok ⟨.standard, false, [], []⟩ := by rfl
  let shell : List Connection.Event :=
    [.advance, .keepalive (.start ""), .provisioned (.ok ()), .openChannel "session" [], .takeOpen,
      .runOpen 0, .accepted 0 (.ok ()), .channel 0 .advance,
      .channel 0 (.arrive ⟨"shell", [], true⟩), .channel 0 .advance, .channel 0 (.run 0),
      .elapse 15000000000, .keepalive .tick]
  let cancelled : List Connection.Event :=
    [.cancel, .advance, .advance, .keepalive (.start ""), .keepalive .stop]
  let waitingEnds : List Connection.Event :=
    [.advance, .advance, .keepalive (.start ""), .keepalive .stop, .discard .stop, .advance,
      .connectionClosed (.ok ())]
  let shellEnds : List Connection.Event :=
    [.channel 0 .advance, .channel 0 (.returned 0 (.ok ())), .channel 0 .advance,
      .channel 0 .streamClosed, .advance, .advance, .keepalive .stop, .discard .stop, .advance,
      .connectionClosed (.ok ())]
  have hcheck : ∃ log t, Run step ⟨.standard, false, [], []⟩ log t ∧
      t.shutdowns = [⟨true, true⟩] ∧ (served log).length = 3 ∧
      (actsOf 1 (seen log)).countP Connection.Act.isProbe = 1 ∧
      (Connection.actsOn 0 (actsOf 1 (seen log))).any Channel.Act.isExec = true :=
    exists_run_of_replay
      (List.flatten [[.serve login, .serve login, .serve login, .connection 0 .advance],
        shell.map (.connection 1), cancelled.map (.connection 2), [.shutdown],
        waitingEnds.map (.connection 0), shellEnds.map (.connection 1),
        [.connection 2 (.discard .stop), .connection 2 .advance,
          .connection 2 (.connectionClosed (.ok ())), .return 0]])
      (by decide +kernel)
  obtain ⟨log, t, hrun, hreturned, hserved, hprobe, hexec⟩ := hcheck
  exact ⟨_, log, t, hcreate, hrun, hreturned, hserved, hprobe, hexec, lifecycle hcreate hrun⟩

end

end Gateway

end SessionGateway
