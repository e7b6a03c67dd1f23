import SessionGateway.Connection.Assembly

/-!
# What a connection is set up from

A connection is set up if every check passes. Otherwise the error is that of the first check that
fails, in the order in which the checks stand in `BuildError.rank`. What a connection belongs to is
given with its parts, or else it is what the handshake has stored last under a name.
-/

namespace SessionGateway

/-! ## Stored attributes -/

def lastSet? (entries : List (String × String)) (name : String) : Option String :=
  entries.reverse.lookup name

def Blank (value : Option String) : Prop :=
  value = none ∨ value = some ""

/-- The value that counts is the one after which the name is not set again. -/
theorem lastSet_eq_some {entries : List (String × String)} {name value : String} :
    lastSet? entries name = some value ↔
      ∃ before after, entries = before ++ (name, value) :: after ∧ ∀ e ∈ after, e.1 ≠ name := by
  rw [lastSet?, List.lookup_eq_some_iff]
  constructor
  · rintro ⟨front, rest, hreverse, hfront⟩
    refine ⟨rest.reverse, front.reverse, ?_, fun e he => ?_⟩
    · rw [← List.reverse_reverse entries, hreverse]
      simp
    · exact fun heq => by simpa [heq] using hfront e (by simpa using he)
  · rintro ⟨before, after, rfl, hafter⟩
    refine ⟨after.reverse, before.reverse, by simp, fun e he => ?_⟩
    simpa using Ne.symm (hafter e (by simpa using he))

namespace Permissions

theorem lookup_cons (e : String × String) (rest : List (String × String)) (name : String) :
    (e :: rest).lookup name = if name = e.1 then some e.2 else rest.lookup name := by
  by_cases hsame : name = e.1
  · rw [if_pos hsame, hsame, List.lookup_cons_self]
  · have hother : (name == e.1) = false := by simpa using hsame
    rw [if_neg hsame, List.lookup_cons, hother]

theorem lookup_filter_ne (entries : List (String × String)) {name other : String}
    (hother : other ≠ name) :
    (entries.filter (·.1 ≠ name)).lookup other = entries.lookup other := by
  induction entries with
  | nil => rfl
  | cons e rest ih =>
      rw [lookup_cons]
      by_cases hname : e.1 = name
      · rw [List.filter_cons_of_neg (by simp [hname]), ih, if_neg (hname ▸ hother)]
      · rw [List.filter_cons_of_pos (by simp [hname]), lookup_cons, ih]

theorem lookup_insert (p : Permissions) (name value other : String) :
    (p.insert name value).entries.lookup other =
      if other = name then some value else p.entries.lookup other := by
  rw [insert, lookup_cons]
  by_cases hother : other = name
  · rw [if_pos hother, if_pos hother]
  · rw [if_neg hother, if_neg hother, lookup_filter_ne p.entries hother]

theorem lookup_foldl_insert (entries : List (String × String)) (p : Permissions) (name : String) :
    (entries.foldl (fun p e => p.insert e.1 e.2) p).entries.lookup name =
      (lastSet? entries name).or (p.entries.lookup name) := by
  induction entries generalizing p with
  | nil => rfl
  | cons e rest ih =>
      have hlast : lastSet? (e :: rest) name = (lastSet? rest name).or ([e].lookup name) := by
        rw [lastSet?, lastSet?, List.reverse_cons, List.lookup_append]
      rw [List.foldl_cons, ih, lookup_insert, hlast, Option.or_assoc, lookup_cons, List.lookup_nil]
      split <;> rfl

/-- Of the values that are set under a name the last one counts. -/
theorem get_ofList (entries : List (String × String)) (name : String) :
    (ofList entries).get? name = (lastSet? entries name).filter (· ≠ "") := by
  have hlookup : (ofList entries).entries.lookup name = lastSet? entries name := by
    rw [ofList, lookup_foldl_insert, empty, List.lookup_nil, Option.or_none]
  rw [get?, hlookup]

end Permissions

/-! ## The checks -/

namespace Connection

namespace BuildError

/-- The place of a check among the others, by the error that it fails with. -/
def rank : BuildError → Nat
  | .missingConnection => 0
  | .missingGlobalRequests => 1
  | .missingChannels => 2
  | .missingProvisioner => 3
  | .missingExecutor => 4
  | .missingForwarder => 5
  | .missingTenant => 6
  | .missingUserId => 7
  | .config _ => 8

theorem eq_of_rank {e other : BuildError} (hrank : other.rank = e.rank) (hbefore : e.rank < 8) :
    other = e := by
  cases e <;> cases other <;> simp [rank] at hrank hbefore ⊢

end BuildError

namespace Parts

/-- The namespace that the parts give, or else the one that was stored last. -/
def tenantFrom (p : Parts) (entries : List (String × String)) : Option String :=
  p.tenant.or (lastSet? entries "namespace")

/-- The user's id that the parts give, or else the one that was stored last. -/
def userIdFrom (p : Parts) (entries : List (String × String)) : Option String :=
  p.userId.or (lastSet? entries "user-id")

/-- The check that gives an error fails, for parts whose handshake has stored the entries one after
the other. -/
def Fails (p : Parts) (entries : List (String × String)) : BuildError → Prop
  | .missingConnection => p.login = none
  | .missingGlobalRequests => p.globalRequests = false
  | .missingChannels => p.channels = false
  | .missingProvisioner => p.provisioner = false
  | .missingExecutor => p.executor = false
  | .missingForwarder => p.forwarder = false
  | .missingTenant => Blank (p.tenantFrom entries)
  | .missingUserId => Blank (p.userIdFrom entries)
  | .config problem => (p.config.getD .standard).problem? = some problem

def PassesBefore (p : Parts) (entries : List (String × String)) (place : Nat) : Prop :=
  ∀ e : BuildError, e.rank < place → ¬ p.Fails entries e

/-- What the parts give if every check passes. -/
structure Yields (p : Parts) (entries : List (String × String)) (ctx : Context) : Prop where
  passes : ∀ e, ¬ p.Fails entries e
  tenant : p.tenantFrom entries = some ctx.identity.tenant
  userId : p.userIdFrom entries = some ctx.identity.userId
  config : ctx.config = p.config.getD .standard

/-- What comes of checks is the error of the first one that fails, or a context if every check
passes. -/
def Told (p : Parts) (entries : List (String × String)) (outcome : Except BuildError Context) :
    Prop :=
  (∃ e, outcome = .error e ∧ p.Fails entries e ∧ p.PassesBefore entries e.rank) ∨
    ∃ ctx, outcome = .ok ctx ∧ p.Yields entries ctx

variable {p : Parts} {entries : List (String × String)} {ctx : Context} {e : BuildError}

theorem choose_stored (given last : Option String) :
    (choose given (last.filter (· ≠ "")) = none ↔ Blank (given.or last)) ∧
      ∀ value, choose given (last.filter (· ≠ "")) = some value ↔
        given.or last = some value ∧ value ≠ "" := by
  cases given with
  | some text => simp [choose, Blank, Option.filter_eq_some_iff]
  | none =>
      cases last with
      | none => simp [choose, Blank]
      | some text => by_cases htext : text = "" <;> simp [choose, Blank, htext]

theorem choose_tenant (p : Parts) {login : Login}
    (hentries : login.permissions = .ofList entries) :
    (choose p.tenant login.permissions.tenant = none ↔ Blank (p.tenantFrom entries)) ∧
      ∀ value, choose p.tenant login.permissions.tenant = some value ↔
        p.tenantFrom entries = some value ∧ value ≠ "" := by
  rw [Permissions.tenant, hentries, Permissions.get_ofList]
  exact choose_stored p.tenant _

theorem choose_userId (p : Parts) {login : Login}
    (hentries : login.permissions = .ofList entries) :
    (choose p.userId login.permissions.userId = none ↔ Blank (p.userIdFrom entries)) ∧
      ∀ value, choose p.userId login.permissions.userId = some value ↔
        p.userIdFrom entries = some value ∧ value ≠ "" := by
  rw [Permissions.userId, hentries, Permissions.get_ofList]
  exact choose_stored p.userId _

theorem PassesBefore.next (h : p.PassesBefore entries e.rank) (hbefore : e.rank < 8)
    (hpasses : ¬ p.Fails entries e) : p.PassesBefore entries (e.rank + 1) := by
  intro other hother
  rcases Nat.lt_or_eq_of_le (Nat.le_of_lt_succ hother) with hlt | heq
  · exact h other hlt
  · rw [BuildError.eq_of_rank heq hbefore]
    exact hpasses

theorem context_of_login {login : Login} (hlogin : p.login = some login) :
    p.context =
      if p.globalRequests = false then .error .missingGlobalRequests
      else if p.channels = false then .error .missingChannels
      else if p.provisioner = false then .error .missingProvisioner
      else if p.executor = false then .error .missingExecutor
      else if p.forwarder = false then .error .missingForwarder
      else match choose p.tenant login.permissions.tenant with
        | none => .error .missingTenant
        | some tenant =>
          match choose p.userId login.permissions.userId with
          | none => .error .missingUserId
          | some userId =>
            match (p.config.getD .standard).problem? with
            | some problem => .error (.config problem)
            | none => .ok ⟨⟨tenant, userId⟩, p.config.getD .standard⟩ := by
  simp only [context, hlogin, bind, Except.bind, pure, Except.pure, throw, throwThe,
    MonadExceptOf.throw, Bool.not_eq_true']
  repeat' split
  all_goals simp_all

theorem Told.check {missing : Bool} {rest : Except BuildError Context}
    (hbefore : p.PassesBefore entries e.rank) (hrank : e.rank < 8)
    (hfails : p.Fails entries e ↔ missing = false)
    (hrest : p.PassesBefore entries (e.rank + 1) → p.Told entries rest) :
    p.Told entries (if missing = false then .error e else rest) := by
  by_cases hmissing : missing = false
  · rw [if_pos hmissing]
    exact .inl ⟨e, rfl, hfails.2 hmissing, hbefore⟩
  · rw [if_neg hmissing]
    exact hrest (hbefore.next hrank fun h => hmissing (hfails.1 h))

/-- The checks are made one after the other, and the first one that fails gives the error. -/
theorem told_context
    (hentries : ∀ login, p.login = some login → login.permissions = .ofList entries) :
    p.Told entries p.context := by
  have hnone : p.PassesBefore entries 0 := fun e he => absurd he (Nat.not_lt_zero _)
  cases hlogin : p.login with
  | none =>
      have hcontext : p.context = .error .missingConnection := by
        simp only [context, hlogin]
        rfl
      exact .inl ⟨_, hcontext, hlogin, hnone⟩
  | some login =>
  rw [context_of_login hlogin]
  have hconnection := hnone.next (e := .missingConnection) (by decide) (by simp [Fails, hlogin])
  refine .check (e := .missingGlobalRequests) hconnection (by decide) .rfl fun hrequests => ?_
  refine .check (e := .missingChannels) hrequests (by decide) .rfl fun hchannels => ?_
  refine .check (e := .missingProvisioner) hchannels (by decide) .rfl fun hprovisioner => ?_
  refine .check (e := .missingExecutor) hprovisioner (by decide) .rfl fun hexecutor => ?_
  refine .check (e := .missingForwarder) hexecutor (by decide) .rfl fun hforwarder => ?_
  obtain ⟨hnoTenant, hsomeTenant⟩ := choose_tenant p (hentries login hlogin)
  obtain ⟨hnoUser, hsomeUser⟩ := choose_userId p (hentries login hlogin)
  cases htenant : choose p.tenant login.permissions.tenant with
  | none => exact .inl ⟨_, rfl, hnoTenant.1 htenant, hforwarder⟩
  | some tenant =>
  have hnamed := hforwarder.next (e := .missingTenant) (by decide) fun hblank => by
    rw [hnoTenant.2 hblank] at htenant
    cases htenant
  cases huserId : choose p.userId login.permissions.userId with
  | none => exact .inl ⟨_, rfl, hnoUser.1 huserId, hnamed⟩
  | some userId =>
  have hidentified := hnamed.next (e := .missingUserId) (by decide) fun hblank => by
    rw [hnoUser.2 hblank] at huserId
    cases huserId
  cases hproblem : (p.config.getD .standard).problem? with
  | some problem => exact .inl ⟨_, rfl, hproblem, hidentified⟩
  | none =>
      have hpasses : ∀ e, ¬ p.Fails entries e := by
        intro e he
        cases e with
        | config problem => simp [Fails, hproblem] at he
        | _ => exact hidentified _ (by decide) he
      exact .inr ⟨_, rfl, hpasses, ((hsomeTenant _).1 htenant).1, ((hsomeUser _).1 huserId).1, rfl⟩

/-- What setting up a connection comes to. -/
structure Assembles (p : Parts) (entries : List (String × String)) : Prop where
  /-- It fails with an error if and only if the check that gives this error is the first that
  fails. -/
  error : ∀ e, p.build = .error e ↔ p.Fails entries e ∧ p.PassesBefore entries e.rank
  ok : (∃ s, p.build = .ok s) ↔ ∀ e, ¬ p.Fails entries e
  /-- The connection belongs to whom the parts name, and nothing has happened to it yet. -/
  state : ∀ s, p.build = .ok s → ∃ ctx, p.Yields entries ctx ∧
    s = .fresh ctx (p.parentCancelled.getD false)

theorem build_spec
    (hentries : ∀ login, p.login = some login → login.permissions = .ofList entries) :
    (∃ e, p.build = .error e ∧ p.Fails entries e ∧ p.PassesBefore entries e.rank) ∨
      ∃ ctx, p.build = .ok (.fresh ctx (p.parentCancelled.getD false)) ∧ p.Yields entries ctx := by
  rcases told_context hentries with ⟨e, hcontext, hfails⟩ | ⟨ctx, hcontext, hyields⟩
  · exact .inl ⟨e, by rw [build, hcontext]; rfl, hfails⟩
  · exact .inr ⟨ctx, by rw [build, hcontext]; rfl, hyields⟩

/-- Of two checks that fail the first ones are the same. -/
theorem first_unique {other : BuildError} (hfails : p.Fails entries e)
    (hbefore : p.PassesBefore entries e.rank) (hother : p.Fails entries other)
    (hpasses : p.PassesBefore entries other.rank) : e = other := by
  have hrank : e.rank = other.rank :=
    Nat.le_antisymm (Nat.le_of_not_lt fun hlt => hbefore other hlt hother)
      (Nat.le_of_not_lt fun hlt => hpasses e hlt hfails)
  by_cases hlt : other.rank < 8
  · exact BuildError.eq_of_rank hrank hlt
  · -- Both are about the settings, which have one first problem.
    cases e <;> cases other <;> simp [BuildError.rank] at hlt hrank
    exact congrArg _ (Option.some.inj (hfails.symm.trans hother))

theorem assembles
    (hentries : ∀ login, p.login = some login → login.permissions = .ofList entries) :
    p.Assembles entries := by
  rcases build_spec hentries with ⟨e, hbuild, hfails, hbefore⟩ | ⟨ctx, hbuild, hyields⟩
  · refine ⟨fun other => ⟨fun hother => ?_, fun ⟨hother, hpasses⟩ => ?_⟩, ⟨?_, ?_⟩, ?_⟩
    · rw [hbuild] at hother
      obtain rfl := Except.error.inj hother
      exact ⟨hfails, hbefore⟩
    · rw [hbuild, first_unique hfails hbefore hother hpasses]
    · rintro ⟨s, hs⟩
      rw [hbuild] at hs
      cases hs
    · exact fun hnone => absurd hfails (hnone e)
    · intro s hs
      rw [hbuild] at hs
      cases hs
  · refine ⟨fun other => ⟨fun hother => ?_, fun ⟨hother, _⟩ => ?_⟩, ⟨?_, ?_⟩, ?_⟩
    · rw [hbuild] at hother
      cases hother
    · exact absurd hother (hyields.passes other)
    · exact fun _ => hyields.passes
    · exact fun _ => ⟨_, hbuild⟩
    · intro s hs
      rw [hbuild] at hs
      obtain rfl := Except.ok.inj hs
      exact ⟨ctx, hyields, rfl⟩

end Parts

end Connection

end SessionGateway
