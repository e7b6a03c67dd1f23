import SessionGateway.Proofs.Channel.Command
import SessionGateway.Proofs.Connection.Alike
import SessionGateway.Proofs.Gateway.Connections

/-!
# Pods, commands and ports

However many connections a gateway serves, a command and a forward go to the pod of the user whose
connection it is on. The peer chooses among the commands of the settings, and the port of a forward;
it has no say in anything else.
-/

namespace SessionGateway

namespace Connection

theorem filterMap_filter_isCancel {β : Type} {f : Event → Option β} (hcancel : f .cancel = none)
    (events : List Event) : (events.filter (!·.isCancel)).filterMap f = events.filterMap f := by
  rw [List.filterMap_filter]
  congr 1
  funext e
  cases e <;> first | rfl | exact hcancel.symm

/-- A cancellation opens no channel and sends nothing. -/
theorem attempted_filter (events : List Event) :
    attempted (events.filter (!·.isCancel)) = attempted events :=
  filterMap_filter_isCancel rfl events

theorem sentOn_filter (n : Nat) (events : List Event) :
    sentOn n (events.filter (!·.isCancel)) = sentOn n events :=
  filterMap_filter_isCancel rfl events

end Connection

namespace Gateway

/-- Events of a gateway that differ only in what nothing depends on. -/
inductive Event.Alike : Event → Event → Prop
  | same (e : Event) : Alike e e
  | connection {i : Nat} {e f : Connection.Event} (halike : e.Alike f) :
      Alike (.connection i e) (.connection i f)

/-- What an act asks of the cluster, and on which connection and channel. -/
def Act.call? : Act → Option (Nat × Nat × Channel.Act)
  | .connection i a => a.call?.map (i, ·)
  | _ => none

def calls (acts : List Act) : List (Nat × Nat × Channel.Act) :=
  acts.filterMap Act.call?

/-- Gateways whose connections differ only in what nothing depends on. -/
structure Alike (g k : Gateway) : Prop where
  config : g.config = k.config
  cancelled : g.cancelled = k.cancelled
  connections : List.Forall₂ Connection.State.Alike g.connections k.connections
  shutdowns : g.shutdowns = k.shutdowns

theorem calls_connection (i : Nat) (own : List Connection.Act) :
    calls (own.map (.connection i)) = (Connection.calls own).map (i, ·) := by
  rw [calls, List.filterMap_map, Connection.calls, List.map_filterMap]
  rfl

namespace Alike

variable {g k t : Gateway} {e e' : Event} {acts : List Act}

theorem parts (halike : g.Alike k) (login : Connection.Login) : g.parts login = k.parts login := by
  rw [Gateway.parts, Gateway.parts, halike.config, halike.cancelled]

theorem active (halike : g.Alike k) : g.active = k.active := by
  have hmap := map_eq_of_forall₂ (f := fun s => decide (s.phase ≠ .returned)) halike.connections
    fun s t h => by rw [h.phase]
  have hcount : ∀ connections : List Connection.State,
      connections.countP (·.phase ≠ .returned) =
        (connections.map fun s => decide (s.phase ≠ .returned)).countP id := by
    intro connections
    rw [List.countP_map]
    rfl
  rw [Gateway.active, Gateway.active, hcount, hmap, ← hcount]

theorem release (halike : g.Alike k) : g.release.Alike k.release where
  config := halike.config
  cancelled := halike.cancelled
  connections := halike.connections
  shutdowns := by rw [Gateway.release, Gateway.release, halike.shutdowns, halike.active]

/-- Gateways that are alike go on side by side, and call the cluster for the same. -/
theorem step (halike : g.Alike k) (hevent : e.Alike e') (hstep : g.step e = some (t, acts)) :
    ∃ u acts', k.step e' = some (u, acts') ∧ t.Alike u ∧ calls acts = calls acts' := by
  cases move_of_step hstep with
  | @serve login s hbuild =>
      cases hevent
      have hown := Connection.State.Alike.refl_fresh s.context g.cancelled
      rw [← (context_of_build hbuild).2.2.2] at hown
      have hpush : Alike { g with connections := g.connections ++ [s] }
          { k with connections := k.connections ++ [s] } :=
        { halike with connections := List.rel_append halike.connections (.cons hown .nil) }
      rw [halike.parts] at hbuild
      exact ⟨_, _, step_of_move (.serve hbuild), hpush, rfl⟩
  | refuse hbuild =>
      cases hevent
      rw [halike.parts] at hbuild
      exact ⟨_, _, step_of_move (.refuse hbuild), halike, rfl⟩
  | @connection i s u own acts hconnection hown =>
      obtain ⟨f, rfl, hsame⟩ : ∃ f, e' = .connection i f ∧ own.Alike f := by
        cases hevent with
        | same => exact ⟨own, rfl, .same own⟩
        | connection hsame => exact ⟨_, rfl, hsame⟩
      obtain ⟨other, hother, hstates⟩ := forall₂_getElem? halike.connections hconnection
      obtain ⟨v, acts', hown', hlater, hcalls⟩ := hstates.step hsame hown
      have hset : Alike { g with connections := g.connections.set i u }
          { k with connections := k.connections.set i v } :=
        { halike with connections := forall₂_set halike.connections hlater }
      refine ⟨_, _, step_of_move (.connection hother hown'), hset.release, ?_⟩
      rw [calls_connection, calls_connection, hcalls]
  | shutdown =>
      cases hevent
      have hcancel : g.shutdown.Alike k.shutdown :=
        { config := halike.config
          cancelled := rfl
          connections := List.rel_map (fun _ _ h => h.cancel) halike.connections
          shutdowns := by rw [Gateway.shutdown, Gateway.shutdown, halike.shutdowns, halike.active] }
      exact ⟨_, _, step_of_move .shutdown, hcancel, rfl⟩
  | @«return» call hcall =>
      cases hevent
      rw [halike.shutdowns] at hcall
      have hreturn : Alike { g with shutdowns := g.shutdowns.set call ⟨true, true⟩ }
          { k with shutdowns := k.shutdowns.set call ⟨true, true⟩ } :=
        { halike with shutdowns := congrArg (·.set call ⟨true, true⟩) halike.shutdowns }
      exact ⟨_, _, step_of_move (.return hcall), hreturn, rfl⟩

end Alike

section

variable {config : Config} {log : Log} {g : Gateway}

theorem mem_actsOf {i : Nat} {a : Connection.Act} {acts : List Act} :
    a ∈ actsOf i acts ↔ .connection i a ∈ acts := by
  simp only [actsOf, List.mem_filterMap]
  constructor
  · rintro ⟨act, hmem, hon⟩
    cases act with
    | connection j own =>
        obtain ⟨rfl, rfl⟩ : j = i ∧ own = a := by simpa [Act.on?] using hon
        exact hmem
    | _ => cases hon
  · intro hmem
    exact ⟨_, hmem, by simp [Act.on?]⟩

theorem eq_of_create {gateway : Gateway} (hcreate : create config = .ok gateway) :
    gateway = ⟨config, false, [], []⟩ := by
  unfold create at hcreate
  split at hcreate
  · cases hcreate
  · exact (Except.ok.inj hcreate).symm

/-- What is asked of the cluster on a channel of a connection is confined to the pod of whom the
handshake has stored with this connection, and is made up of what was sent on this channel. -/
theorem confined_of_run (hrun : Run step ⟨config, false, [], []⟩ log g) {i n : Nat}
    {a : Channel.Act} (hact : .connection i (.channel n a) ∈ seen log) :
    ∃ login who, (served log)[i]? = some login ∧
      login.permissions.tenant = some who.tenant ∧ login.permissions.userId = some who.userId ∧
      Connection.Confined ⟨who, config⟩
        (Connection.attempted (eventsOf i (log.map (·.event))))[n]?
        (Connection.sentOn n (eventsOf i (log.map (·.event)))) a := by
  have hmem : .channel n a ∈ actsOf i (seen log) := mem_actsOf.2 hact
  have hfollowed := (followed_of_run hrun).2.2 i
  generalize g.connections[i]? = connection at hfollowed
  cases hfollowed with
  | absent hacts _ =>
      rw [hacts] at hmem
      cases hmem
  | @present login who _ _ own hserved htenant huserId hown hacts hevents =>
      rw [hacts] at hmem
      have hconfined := (Connection.confined_of_run hown n).2 a (Connection.mem_actsOn.2 hmem)
      rw [← Connection.attempted_filter, ← Connection.sentOn_filter, hevents,
        Connection.attempted_filter, Connection.sentOn_filter] at hconfined
      exact ⟨login, who, hserved, htenant, huserId, hconfined⟩

/-- No peer chooses a pod or a command. In every run of a connection that has been set up, and of a
gateway with any number of connections, what is asked of the cluster on a channel is confined to the
namespace and the pod of the connection's own user, to the commands of the settings, and to the port
that the channel was opened with. The hosts and originators of forwards, the names, pixel sizes and
modes of terminals, and the names and payloads of unknown requests make no difference to it. -/
theorem peer_chooses_no_pod {p : Connection.Parts} {start : Connection.State}
    (hbuild : p.build = .ok start) {gateway : Gateway} (hcreate : create config = .ok gateway) :
    ((∃ login, p.login = some login ∧
        p.tenant.or login.permissions.tenant = some start.context.identity.tenant ∧
        p.userId.or login.permissions.userId = some start.context.identity.userId ∧
        start.context.config = p.config.getD .standard) ∧
      (∀ log s, Run Connection.State.step start log s → ∀ n a, .channel n a ∈ seen log →
        Connection.Confined start.context (Connection.attempted (log.map (·.event)))[n]?
          (Connection.sentOn n (log.map (·.event))) a) ∧
      Indifferent Connection.State.step start Connection.Event.Alike Connection.calls) ∧
    (∀ log g, Run step gateway log g → ∀ i n a, .connection i (.channel n a) ∈ seen log →
      ∃ login who, (served log)[i]? = some login ∧
        login.permissions.tenant = some who.tenant ∧ login.permissions.userId = some who.userId ∧
        Connection.Confined ⟨who, config⟩
          (Connection.attempted (eventsOf i (log.map (·.event))))[n]?
          (Connection.sentOn n (eventsOf i (log.map (·.event)))) a) ∧
    Indifferent step gateway Event.Alike calls := by
  obtain ⟨login, hlogin, htenant, huserId, hconfig, hfresh⟩ :=
    Connection.Parts.context_of_build hbuild
  obtain rfl := eq_of_create hcreate
  rw [Connection.Parts.choose_eq_some] at htenant huserId
  refine ⟨⟨⟨login, hlogin, htenant.1, huserId.1, hconfig⟩, fun log s hrun n a hact => ?_, ?_⟩,
    fun log g hrun i n a hact => confined_of_run hrun hact, ?_⟩
  · rw [hfresh] at hrun
    exact (Connection.confined_of_run hrun n).2 a (Connection.mem_actsOn.2 hact)
  · rw [hfresh]
    exact indifferent_of_step (Connection.State.Alike.refl_fresh _ _)
      Connection.State.Alike.step
  · have hstart : Alike ⟨config, false, [], []⟩ ⟨config, false, [], []⟩ := ⟨rfl, rfl, .nil, rfl⟩
    exact indifferent_of_step hstart Alike.step

/-- A second user's shell starts in that user's pod. -/
theorem peer_chooses_no_pod_shell :
    ∃ ada ben start gateway log g i request, (Connection.Parts.complete ada).build = .ok start ∧
      create .standard = .ok gateway ∧ Run step gateway log g ∧ served log = [ada, ben] ∧
      ben.permissions.userId = some "ben" ∧
      .connection 1 (.channel 0 (.exec i request)) ∈ seen log ∧ request.podName = "ben" := by
  let ada : Connection.Login := ⟨"ada", [], .ofList [("namespace", "team"), ("user-id", "ada")]⟩
  let ben : Connection.Login := ⟨"ben", [], .ofList [("namespace", "team"), ("user-id", "ben")]⟩
  have hbuild : (Connection.Parts.complete ada).build =
      .ok (.fresh ⟨⟨"team", "ada"⟩, .standard⟩ false) := by rfl
  have hcreate : create .standard = .ok ⟨.standard, false, [], []⟩ := by rfl
  have hcheck : ∃ log g, Run step ⟨.standard, false, [], []⟩ log g ∧ served log = [ada, ben] ∧
      (Connection.actsOn 0 (actsOf 1 (seen log))).any Channel.Act.isExec = true :=
    exists_run_of_replay
      ([.serve ada, .serve ben] ++
        [.advance, .keepalive (.start ""), .provisioned (.ok ()), .openChannel "session" [], .takeOpen,
          .runOpen 0, .accepted 0 (.ok ()), .channel 0 .advance,
          .channel 0 (.arrive ⟨"shell", [], true⟩), .channel 0 .advance,
          .channel 0 (.run 0)].map (.connection 1))
      (by decide +kernel)
  obtain ⟨log, g, hrun, hserved, hexec⟩ := hcheck
  obtain ⟨a, hmem, hkind⟩ := List.any_eq_true.1 hexec
  have hact := mem_actsOf.1 (Connection.mem_actsOn.1 hmem)
  cases a with
  | exec i request =>
      obtain ⟨login, who, hlogin, _, huserId, _, hpod, _⟩ :=
        (peer_chooses_no_pod hbuild hcreate).2.1 log g hrun 1 0 _ hact
      rw [hserved] at hlogin
      obtain rfl : ben = login := Option.some.inj hlogin
      have hwho : "ben" = who.userId := Option.some.inj huserId
      have hname : PodName.ofUser "" "ben" = "ben" := by decide +kernel
      have hown : request.podName = "ben" := by
        rw [hpod, ← hwho]
        exact hname
      exact ⟨ada, ben, _, _, log, g, i, request, hbuild, hcreate, hrun, hserved, rfl, hact, hown⟩
  | _ => cases hkind

end

end Gateway

end SessionGateway
