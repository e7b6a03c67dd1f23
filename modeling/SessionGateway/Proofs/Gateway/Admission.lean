import SessionGateway.Proofs.Connection.Assembly
import SessionGateway.Proofs.Gateway.Confinement

/-!
# Which connections are served

A gateway refuses a connection if and only if the handshake has stored no namespace or no user's id
with it, or an empty one last. Everything else that a connection is set up from is there, and the
settings have passed their check when the gateway was created. A connection that is refused leaves
nothing behind but a record of it.
-/

namespace SessionGateway.Gateway

open Connection (Parts BuildError)

/-- What becomes of a connection that is handed over, where the handshake has stored the entries one
after the other. -/
structure Admits (g : Gateway) (login : Connection.Login) (entries : List (String × String)) :
    Prop where
  /-- It is refused if and only if the namespace or the user's id is missing or empty. -/
  refused : (∃ e, .refused e ∈ (g.serve login).2) ↔
    Blank (lastSet? entries "namespace") ∨ Blank (lastSet? entries "user-id")
  /-- The reason is the namespace, if that is missing, and the user's id otherwise. -/
  reason : ∀ e, .refused e ∈ (g.serve login).2 →
    (Blank (lastSet? entries "namespace") ∧ e = .missingTenant) ∨
      (¬ Blank (lastSet? entries "namespace") ∧ e = .missingUserId)
  /-- The gateway and all its connections stay as they are, and only a warning is recorded. -/
  nothing : ∀ e, .refused e ∈ (g.serve login).2 →
    g.serve login =
      (g, [.warn ("Refusing connection for " ++ login.user ++ ": " ++ e.message), .refused e])
  /-- A connection that is served belongs to whom the handshake has stored last. -/
  served : (∀ e, .refused e ∉ (g.serve login).2) →
    ∃ who : Identity, lastSet? entries "namespace" = some who.tenant ∧
      lastSet? entries "user-id" = some who.userId ∧
      g.serve login =
        ({ g with connections := g.connections ++ [.fresh ⟨who, g.config⟩ g.cancelled] }, [])

section

variable {config : Config} {g₀ g : Gateway} {log : Log} {login : Connection.Login}
  {entries : List (String × String)}

theorem problem_of_create (hcreate : create config = .ok g) : config.problem? = none := by
  unfold create at hcreate
  split at hcreate
  · cases hcreate
  · assumption

/-- The settings of a gateway have passed their check. -/
theorem problem_of_run (hcreate : create config = .ok g₀) (hrun : Run step g₀ log g) :
    g.config.problem? = none := by
  obtain rfl := eq_of_create hcreate
  have hconfig : g.config = config :=
    hrun.invariant (P := fun g => g.config = config) rfl fun hkept hstep =>
      (move_of_step hstep).config.trans hkept
  rw [hconfig]
  exact problem_of_create hcreate

/-- Only the namespace and the user's id can be missing from what a gateway sets up. -/
theorem fails_of_parts (hproblem : g.config.problem? = none) {e : BuildError}
    (hfails : (g.parts login).Fails entries e) :
    (Blank (lastSet? entries "namespace") ∧ e = .missingTenant) ∨
      (Blank (lastSet? entries "user-id") ∧ e = .missingUserId) := by
  cases e with
  | missingTenant => exact .inl ⟨hfails, rfl⟩
  | missingUserId => exact .inr ⟨hfails, rfl⟩
  | config problem =>
      have hfails : g.config.problem? = some problem := hfails
      rw [hproblem] at hfails
      cases hfails
  | _ => cases hfails

theorem admits (hproblem : g.config.problem? = none)
    (hentries : login.permissions = .ofList entries) : g.Admits login entries := by
  have hstored : ∀ other, (g.parts login).login = some other →
      other.permissions = .ofList entries := by
    intro other hother
    obtain rfl : login = other := Option.some.inj hother
    exact hentries
  rcases Parts.build_spec hstored with ⟨e, hbuild, hfails, hbefore⟩ | ⟨ctx, hbuild, hyields⟩
  · have hserve : g.serve login =
        (g, [.warn ("Refusing connection for " ++ login.user ++ ": " ++ e.message), .refused e]) := by
      rw [serve, hbuild]
    have hreason := fails_of_parts hproblem hfails
    constructor
    · rw [hserve]
      exact ⟨fun _ => hreason.imp And.left And.left, fun _ => ⟨e, by simp⟩⟩
    · intro other hother
      obtain rfl : other = e := by simpa [hserve] using hother
      rcases hreason with hlacks | ⟨_, rfl⟩
      · exact .inl hlacks
      · exact .inr ⟨hbefore .missingTenant (by decide), rfl⟩
    · intro other hother
      obtain rfl : other = e := by simpa [hserve] using hother
      exact hserve
    · intro hnone
      exact absurd (by simp [hserve]) (hnone e)
  · have hserve : g.serve login = ({ g with connections := g.connections ++
        [.fresh ctx ((g.parts login).parentCancelled.getD false)] }, []) := by
      rw [serve, hbuild]
    have hnone : ∀ e, .refused e ∉ (g.serve login).2 := by simp [hserve]
    constructor
    · constructor
      · rintro ⟨e, he⟩
        exact absurd he (hnone e)
      · rintro (hblank | hblank)
        · exact absurd hblank (hyields.passes .missingTenant)
        · exact absurd hblank (hyields.passes .missingUserId)
    · exact fun e he => absurd he (hnone e)
    · exact fun e he => absurd he (hnone e)
    · intro _
      have hcontext : ctx = ⟨ctx.identity, g.config⟩ := by
        obtain ⟨who, settings⟩ := ctx
        exact congrArg _ hyields.config
      refine ⟨ctx.identity, hyields.tenant, hyields.userId, ?_⟩
      rw [hserve, ← hcontext]
      rfl

/-- A step with which a connection is refused changes nothing. -/
theorem target_of_refused {τ : Transition Gateway Event Act} {e : BuildError}
    (hmove : Move τ.source τ.event τ.acts τ.target) (hrefused : .refused e ∈ τ.acts) :
    τ.target = τ.source := by
  generalize τ.event = event, τ.acts = acts, τ.target = target at hmove hrefused
  cases hmove with
  | refuse _ => rfl
  | connection _ _ => simp at hrefused
  | _ => cases hrefused

/-- Setting up a connection fails with the error of the first check that fails, and what is given
with its parts counts before what the handshake has stored last. So a gateway refuses a connection if
and only if the handshake has stored no namespace or no user's id with it, and apart from the record
of it everything goes on as if the connection had never come. -/
theorem assembly_errors_exact :
    (∀ (p : Parts) (entries : List (String × String)),
      (∀ login, p.login = some login → login.permissions = .ofList entries) →
      p.Assembles entries) ∧
    ∀ (config : Config) (g₀ : Gateway), create config = .ok g₀ →
      ∀ (log : Log) (g : Gateway), Run step g₀ log g →
        (∀ (login : Connection.Login) (entries : List (String × String)),
          login.permissions = .ofList entries → g.Admits login entries) ∧
        ∀ (pre post : Log) (τ : Transition Gateway Event Act) (e : BuildError),
          log = pre ++ τ :: post → .refused e ∈ τ.acts → Run step g₀ (pre ++ post) g := by
  refine ⟨fun p entries hentries => Parts.assembles hentries, ?_⟩
  intro config g₀ hcreate log g hrun
  refine ⟨fun login entries hentries => admits (problem_of_run hcreate hrun) hentries, ?_⟩
  rintro pre post τ e rfl hrefused
  obtain ⟨hpre, hstep, hpost⟩ := hrun.at_step
  rw [target_of_refused (move_of_step hstep) hrefused] at hpost
  exact hpre.trans hpost

/-- A namespace that is given counts although it is empty, and of the namespaces that the handshake
has stored the last one counts although it is empty. -/
theorem assembly_errors_exact_emptied :
    ({ Parts.complete ⟨"ada", [], .ofList [("namespace", "team"), ("user-id", "ada")]⟩ with
        tenant := some "" }).build = .error .missingTenant ∧
    ∃ g, create .standard = .ok g ∧
      g.serve ⟨"ada", [], .ofList [("namespace", "team"), ("namespace", "")]⟩ =
        (g, [.warn "Refusing connection for ada: Missing namespace", .refused .missingTenant]) := by
  constructor
  · have hassembles := assembly_errors_exact.1
      { Parts.complete ⟨"ada", [], .ofList [("namespace", "team"), ("user-id", "ada")]⟩ with
        tenant := some "" }
      [("namespace", "team"), ("user-id", "ada")]
      (by rintro login ⟨⟩; rfl)
    refine (hassembles.error .missingTenant).2 ⟨.inr rfl, fun e he => ?_⟩
    cases e <;> simp [BuildError.rank] at he <;> simp [Parts.Fails, Parts.complete]
  · have hcreate : create .standard = .ok ⟨.standard, false, [], []⟩ := rfl
    refine ⟨_, hcreate, ?_⟩
    have hadmits := (assembly_errors_exact.2 .standard _ hcreate [] _ .nil).1
      ⟨"ada", [], .ofList [("namespace", "team"), ("namespace", "")]⟩
      [("namespace", "team"), ("namespace", "")] rfl
    obtain ⟨e, he⟩ := hadmits.refused.2 (.inl (.inr rfl))
    rcases hadmits.reason e he with ⟨_, rfl⟩ | ⟨hpresent, _⟩
    · exact hadmits.nothing _ he
    · exact absurd (.inr rfl) hpresent

end

end SessionGateway.Gateway
