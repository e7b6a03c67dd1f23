import SessionGateway.Gateway
import SessionGateway.Proofs.Connection.Origin

/-!
# The connections of a gateway

A step of a gateway adds a connection, makes a step of one, or cancels all of them. So each connection
that a gateway serves is in a state that a run of this connection alone leads to, and what is seen of
it is what is seen of that run: what is proved of the runs of a connection holds for every connection
of a gateway.
-/

namespace SessionGateway

def Connection.Event.isCancel : Connection.Event → Bool
  | .cancel => true
  | _ => false

namespace Gateway

def Act.on? (i : Nat) : Act → Option Connection.Act
  | .connection j a => if j = i then some a else none
  | _ => none

def Event.on? (i : Nat) : Event → Option Connection.Event
  | .connection j e => if j = i then some e else none
  | _ => none

def actsOf (i : Nat) (acts : List Act) : List Connection.Act :=
  acts.filterMap (Act.on? i)

def eventsOf (i : Nat) (events : List Event) : List Connection.Event :=
  events.filterMap (Event.on? i)

abbrev Log := List (Transition Gateway Event Act)

def serves? (τ : Transition Gateway Event Act) : Option Connection.Login :=
  match τ.event with
  | .serve login =>
    match (τ.source.parts login).build with
    | .ok _ => some login
    | .error _ => none
  | _ => none

/-- Who is served, in the order of their arrival. -/
def served (log : Log) : List Connection.Login :=
  log.filterMap serves?

inductive Move (g : Gateway) : Event → List Act → Gateway → Prop
  | serve {login : Connection.Login} {s : Connection.State}
      (hbuild : (g.parts login).build = .ok s) :
      Move g (.serve login) [] { g with connections := g.connections ++ [s] }
  | refuse {login : Connection.Login} {e : Connection.BuildError}
      (hbuild : (g.parts login).build = .error e) :
      Move g (.serve login)
        [.warn ("Refusing connection for " ++ login.user ++ ": " ++ e.message), .refused e] g
  | connection {i : Nat} {s t : Connection.State} {e : Connection.Event}
      {acts : List Connection.Act} (hconnection : g.connections[i]? = some s)
      (hstep : s.step e = some (t, acts)) :
      Move g (.connection i e) (acts.map (.connection i))
        { g with connections := g.connections.set i t }.release
  | shutdown : Move g .shutdown [] g.shutdown
  | return {call : Nat} (hcall : g.shutdowns[call]? = some ⟨true, false⟩) :
      Move g (.return call) [] { g with shutdowns := g.shutdowns.set call ⟨true, true⟩ }

section

variable {g t : Gateway} {e : Event} {acts : List Act}

@[simp] theorem config_release : g.release.config = g.config := rfl

@[simp] theorem cancelled_release : g.release.cancelled = g.cancelled := rfl

@[simp] theorem connections_release : g.release.connections = g.connections := rfl

@[simp] theorem active_release : g.release.active = g.active := rfl

theorem move_of_step (hstep : g.step e = some (t, acts)) : Move g e acts t := by
  cases e with
  | serve login =>
      simp only [step, serve] at hstep
      split at hstep
      · rename_i s hbuild
        obtain ⟨rfl, rfl⟩ := Prod.mk.inj (Option.some.inj hstep)
        exact .serve hbuild
      · rename_i e hbuild
        obtain ⟨rfl, rfl⟩ := Prod.mk.inj (Option.some.inj hstep)
        exact .refuse hbuild
  | connection i e =>
      simp only [step] at hstep
      split at hstep
      · rename_i s hconnection
        obtain ⟨⟨u, own⟩, hown, heq⟩ := Option.map_eq_some_iff.1 hstep
        obtain ⟨rfl, rfl⟩ := Prod.mk.inj heq
        exact .connection hconnection hown
      · cases hstep
  | shutdown =>
      obtain ⟨rfl, rfl⟩ := Prod.mk.inj (Option.some.inj hstep)
      exact .shutdown
  | «return» call =>
      simp only [step] at hstep
      split at hstep
      · rename_i hreturn
        obtain ⟨rfl, rfl⟩ := Prod.mk.inj (Option.some.inj hstep)
        exact .return hreturn
      · cases hstep

/-- The list holds nothing that cannot happen. -/
theorem step_of_move (hmove : Move g e acts t) : g.step e = some (t, acts) := by
  cases hmove with
  | serve hbuild | refuse hbuild => simp [step, serve, hbuild]
  | connection hconnection hstep => simp [step, hconnection, hstep]
  | shutdown => rfl
  | «return» hcall => simp [step, hcall]

theorem Move.config (hmove : Move g e acts t) : t.config = g.config := by
  cases hmove <;> rfl

end

/-! ## A gateway seen from one connection -/

/-- A connection that is served belongs to whom the handshake has stored, and has the settings of the
gateway. -/
theorem context_of_build {g : Gateway} {login : Connection.Login} {s : Connection.State}
    (hbuild : (g.parts login).build = .ok s) :
    login.permissions.tenant = some s.context.identity.tenant ∧
      login.permissions.userId = some s.context.identity.userId ∧ s.context.config = g.config ∧
      s = .fresh s.context g.cancelled := by
  obtain ⟨other, hlogin, htenant, huserId, hconfig, hfresh⟩ :=
    Connection.Parts.context_of_build hbuild
  obtain rfl : login = other := Option.some.inj hlogin
  rw [Connection.Parts.choose_eq_some] at htenant huserId
  exact ⟨htenant.1, huserId.1, hconfig, hfresh⟩

section

variable {i : Nat} {log : Log} {τ : Transition Gateway Event Act}

@[simp] theorem actsOf_nil : actsOf i [] = [] := rfl

@[simp] theorem actsOf_append (acts more : List Act) :
    actsOf i (acts ++ more) = actsOf i acts ++ actsOf i more := by
  simp [actsOf]

theorem actsOf_connection (j : Nat) (own : List Connection.Act) :
    actsOf i (own.map (.connection j)) = if j = i then own else [] := by
  induction own with
  | nil => simp
  | cons a rest ih =>
      by_cases hj : j = i <;> simp_all [actsOf, Act.on?]

theorem actsOf_snoc : actsOf i (seen (log ++ [τ])) = actsOf i (seen log) ++ actsOf i τ.acts := by
  simp

theorem eventsOf_snoc : eventsOf i ((log ++ [τ]).map (·.event)) =
    eventsOf i (log.map (·.event)) ++ (τ.event.on? i).toList := by
  cases h : τ.event.on? i <;> simp [eventsOf, h]

theorem served_snoc : served (log ++ [τ]) = served log ++ (serves? τ).toList := by
  cases h : serves? τ <;> simp [served, h]

end

/-- What is known of a connection after a sequence of steps of its gateway, besides cancellations
from outside: it is in a state that a run of the connection leads to, and what is seen of it is what
is seen of that run. -/
inductive Followed (config : Config) (i : Nat) (log : Log) : Option Connection.State → Prop
  | absent (hacts : actsOf i (seen log) = []) (hevents : eventsOf i (log.map (·.event)) = []) :
      Followed config i log none
  | present {login : Connection.Login} {who : Identity} {cancelled : Bool} {s : Connection.State}
      {own : Connection.Log} (hserved : (served log)[i]? = some login)
      (htenant : login.permissions.tenant = some who.tenant)
      (huserId : login.permissions.userId = some who.userId)
      (hrun : Run Connection.State.step (.fresh ⟨who, config⟩ cancelled) own s)
      (hacts : actsOf i (seen log) = seen own)
      (hevents : (own.map (·.event)).filter (!·.isCancel) =
        (eventsOf i (log.map (·.event))).filter (!·.isCancel)) :
      Followed config i log (some s)

section

variable {config : Config} {i : Nat} {log : Log} {τ : Transition Gateway Event Act}
  {connection : Option Connection.State}

theorem Followed.keep (hfollowed : Followed config i log connection)
    (hacts : actsOf i τ.acts = []) (hevent : τ.event.on? i = none) :
    Followed config i (log ++ [τ]) connection := by
  cases hfollowed with
  | absent hnone hempty =>
      exact .absent (by rw [actsOf_snoc, hnone, hacts]; rfl)
        (by rw [eventsOf_snoc, hempty, hevent]; rfl)
  | present hserved htenant huserId hrun hseen hevents =>
      refine .present ?_ htenant huserId hrun ?_ ?_
      · rw [served_snoc, List.getElem?_append_left (List.getElem?_eq_some_iff.1 hserved).1, hserved]
      · rw [actsOf_snoc, hseen, hacts, List.append_nil]
      · rw [eventsOf_snoc, hevent, Option.toList_none, List.append_nil, hevents]

theorem Followed.extend {s t : Connection.State} {e : Connection.Event}
    {acts : List Connection.Act} (hfollowed : Followed config i log (some s))
    (hstep : s.step e = some (t, acts)) (hacts : actsOf i τ.acts = acts)
    (hevent : (τ.event.on? i).toList.filter (!·.isCancel) = [e].filter (!·.isCancel)) :
    Followed config i (log ++ [τ]) (some t) := by
  cases hfollowed with
  | present hserved htenant huserId hrun hseen hevents =>
      refine .present ?_ htenant huserId (hrun.snoc hstep) ?_ ?_
      · rw [served_snoc, List.getElem?_append_left (List.getElem?_eq_some_iff.1 hserved).1, hserved]
      · rw [actsOf_snoc, hseen, hacts]
        simp
      · rw [eventsOf_snoc, List.map_append, List.filter_append, List.filter_append, hevents, hevent]
        rfl

theorem Followed.serve {g : Gateway} {login : Connection.Login} {s : Connection.State}
    (hfollowed : Followed g.config i log g.connections[i]?)
    (hlength : g.connections.length = (served log).length)
    (hbuild : (g.parts login).build = .ok s) (hτ : τ = ⟨g, .serve login, [],
      { g with connections := g.connections ++ [s] }⟩) :
    Followed g.config i (log ++ [τ]) (g.connections ++ [s])[i]? := by
  subst hτ
  by_cases hi : i = g.connections.length
  · obtain ⟨htenant, huserId, hconfig, hfresh⟩ := context_of_build hbuild
    rw [List.getElem?_eq_none (by omega)] at hfollowed
    cases hfollowed with
    | absent hacts hevents =>
        have hstart : s = .fresh ⟨s.context.identity, g.config⟩ g.cancelled := by
          rw [← hconfig]
          exact hfresh
        have hrun : Run Connection.State.step
            (.fresh ⟨s.context.identity, g.config⟩ g.cancelled) [] s := by
          rw [← hstart]
          exact .nil
        rw [hi, List.getElem?_concat_length, ← hi]
        refine .present ?_ htenant huserId hrun ?_ ?_
        · rw [served_snoc, hi, hlength]
          simp [serves?, hbuild]
        · rw [actsOf_snoc, hacts]
          rfl
        · rw [eventsOf_snoc, hevents]
          rfl
  · rw [getElem?_push_of_ne hi]
    exact hfollowed.keep rfl rfl

/-- After every run of a gateway, each connection is in a state that a run of the connection alone
leads to, and belongs to whom the handshake has stored. -/
theorem followed_of_run {g : Gateway} (hrun : Run step ⟨config, false, [], []⟩ log g) :
    g.config = config ∧ g.connections.length = (served log).length ∧
      ∀ i, Followed config i log g.connections[i]? := by
  induction hrun with
  | nil => exact ⟨rfl, rfl, fun i => .absent rfl rfl⟩
  | @snoc log g t e acts _ hstep ih =>
      obtain ⟨rfl, hlength, hfollowed⟩ := ih
      have hmove := move_of_step hstep
      refine ⟨hmove.config, ?_, fun i => ?_⟩
      · rw [served_snoc, List.length_append, ← hlength]
        cases hmove with
        | serve hbuild => simp [serves?, hbuild]
        | refuse hbuild => simp [serves?, hbuild]
        | connection _ _ => simp [serves?]
        | shutdown => simp [serves?, Gateway.shutdown]
        | «return» _ => simp [serves?]
      · cases hmove with
        | serve hbuild => exact (hfollowed i).serve hlength hbuild rfl
        | refuse hbuild => exact (hfollowed i).keep rfl rfl
        | @connection j s u own acts hconnection hown =>
            have hlt := (List.getElem?_eq_some_iff.1 hconnection).1
            by_cases hj : j = i
            · subst hj
              have hbefore := hfollowed j
              rw [hconnection] at hbefore
              simp only [connections_release, List.getElem?_set_self hlt]
              exact hbefore.extend hown (by rw [actsOf_connection, if_pos rfl])
                (by simp [Event.on?])
            · rw [connections_release, List.getElem?_set_ne hj]
              exact (hfollowed i).keep (by rw [actsOf_connection, if_neg hj]) (by simp [Event.on?, hj])
        | shutdown =>
            have hbefore := hfollowed i
            simp only [Gateway.shutdown, List.getElem?_map]
            cases hconnection : g.connections[i]? with
            | none =>
                rw [hconnection] at hbefore
                exact hbefore.keep rfl rfl
            | some s =>
                rw [hconnection] at hbefore
                have hcancel : s.step .cancel = some (s.cancel, []) := rfl
                exact hbefore.extend hcancel rfl rfl
        | «return» _ => exact (hfollowed i).keep rfl rfl

end

end Gateway

end SessionGateway
