import SessionGateway.Connection.Assembly
import SessionGateway.Proofs.Channel.Origin
import SessionGateway.Proofs.Connection.Fates

/-!
# Where the calls of a connection come from

Every command and every forward that a connection asks for is asked for on a channel, goes to the pod
of the connection's own user, and is made up of the settings, of the payload that the channel was
opened with, and of the requests that were sent on this channel. Nothing that is sent on another
channel comes into it, and nothing of what is sent names a pod or a command.
-/

namespace SessionGateway

def Channel.Event.request? : Channel.Event → Option ChannelRequest
  | .arrive r => some r
  | _ => none

namespace Connection

def sentOn (n : Nat) (events : List Event) : List ChannelRequest :=
  events.filterMap fun e => (e.on? n).bind Channel.Event.request?

/-- Whether a call on the channel of an attempt goes to the user's pod, and is made up of the
settings, of the attempt, and of the requests that were sent on the channel. -/
def Confined (ctx : Context) (attempt : Option Attempt) (sent : List ChannelRequest) :
    Channel.Act → Prop
  | .exec _ request =>
      request.tenant = ctx.identity.tenant ∧
      request.podName = PodName.ofUser ctx.config.podNameLead ctx.identity.userId ∧
      ((request.command = ctx.config.shellCommand ∧ ∃ r ∈ sent, r.name = "shell") ∨
        ∃ r ∈ sent, ∃ name path, Request.decode r.name r.payload = .ok (.subsystem name) ∧
          ctx.config.subsystem? name = some path ∧ request.command = [path])
  | .forward _ request =>
      ∃ a opened, attempt = some a ∧ a.kind = "direct-tcpip" ∧
        ForwardOpen.decode a.payload = .ok opened ∧
        request = ⟨ctx.identity.tenant,
          PodName.ofUser ctx.config.podNameLead ctx.identity.userId, opened.port⟩
  | _ => True

/-- An attempt has the kind and the payload of another, and these requests alone wait for it. -/
structure Attempt.Matches (a b : Attempt) (sent : List ChannelRequest) : Prop where
  kind : a.kind = b.kind
  payload : a.payload = b.payload
  queued : ∀ r ∈ a.requests.queued, r ∈ sent

/-- A stage of an attempt on whose channel these requests have been sent. -/
inductive Stage.Rooted (ctx : Context) (b : Attempt) (sent : List ChannelRequest) : Stage → Prop
  | waiting {stage : Stage} {a : Attempt} (hstage : stage = .queued a ∨ stage = .ready a)
      (hmatches : a.Matches b sent) : Rooted ctx b sent stage
  | accepting {a : Attempt} {forwardOpen : Option ForwardOpen}
      (hverdict : verdict b = .accept forwardOpen) (hmatches : a.Matches b sent) :
      Rooted ctx b sent (.accepting a forwardOpen)
  | rejecting {a : Attempt} {fault : Option Wire.Error} (hmatches : a.Matches b sent) :
      Rooted ctx b sent (.rejecting a fault)
  | serving {h : Channel.Handler} {forwardOpen : Option ForwardOpen}
      (hverdict : verdict b = .accept forwardOpen) (hrooted : h.Rooted ctx forwardOpen sent) :
      Rooted ctx b sent (.serving h)
  | ended : Rooted ctx b sent .ended
  | crashed : Rooted ctx b sent .crashed

theorem mem_actsOn {n : Nat} {a : Channel.Act} {acts : List Act} :
    a ∈ actsOn n acts ↔ .channel n a ∈ acts := by
  simp only [actsOn, List.mem_filterMap]
  constructor
  · rintro ⟨act, hmem, hon⟩
    cases act with
    | channel m own =>
        obtain ⟨rfl, rfl⟩ : m = n ∧ own = a := by simpa [Act.on?] using hon
        exact hmem
    | _ => cases hon
  · intro hmem
    exact ⟨_, hmem, by simp [Act.on?]⟩

theorem Parts.choose_eq_some {given stored : Option String} {value : String} :
    choose given stored = some value ↔ given.or stored = some value ∧ value ≠ "" := by
  rw [choose, Option.filter_eq_some_iff, decide_eq_true_eq]

/-- A connection that is set up belongs to whom the parts name, or else to whom the handshake has
stored, and its settings have passed their check. -/
theorem Parts.checked_of_build {p : Parts} {s : State} (hbuild : p.build = .ok s) :
    (∃ login, p.login = some login ∧
      choose p.tenant login.permissions.tenant = some s.context.identity.tenant ∧
      choose p.userId login.permissions.userId = some s.context.identity.userId ∧
      s.context.config = p.config.getD .standard ∧
      s = .fresh s.context (p.parentCancelled.getD false)) ∧
    s.context.config.problem? = none := by
  obtain ⟨ctx, hctx, rfl⟩ : ∃ ctx, p.context = .ok ctx ∧
      .fresh ctx (p.parentCancelled.getD false) = s := by
    unfold Parts.build at hbuild
    cases h : p.context <;> simp_all [Except.map]
  unfold Parts.context at hctx
  simp only [bind, Except.bind, pure, Except.pure, throw, throwThe, MonadExceptOf.throw] at hctx
  -- Every check that fails gives an error.
  repeat' split at hctx
  all_goals try cases hctx
  rename_i login hlogin _ _ _ _ _ _ tenant htenant _ userId huserId _ hvalid
  exact ⟨⟨login, hlogin, htenant, huserId, rfl, rfl⟩, hvalid⟩

theorem Parts.context_of_build {p : Parts} {s : State} (hbuild : p.build = .ok s) :
    ∃ login, p.login = some login ∧
      choose p.tenant login.permissions.tenant = some s.context.identity.tenant ∧
      choose p.userId login.permissions.userId = some s.context.identity.userId ∧
      s.context.config = p.config.getD .standard ∧
      s = .fresh s.context (p.parentCancelled.getD false) :=
  (checked_of_build hbuild).1

theorem verdict_congr {a b : Attempt} (hkind : a.kind = b.kind) (hpayload : a.payload = b.payload) :
    verdict a = verdict b := by
  unfold verdict
  rw [hkind, hpayload]

theorem forward_of_verdict {a : Attempt} {opened : ForwardOpen}
    (hverdict : verdict a = .accept (some opened)) :
    a.kind = "direct-tcpip" ∧ ForwardOpen.decode a.payload = .ok opened := by
  unfold verdict at hverdict
  split at hverdict
  · cases hverdict
  · rename_i hkind
    split at hverdict
    · rename_i decoded hdecode
      cases hverdict
      refine ⟨?_, hdecode⟩
      unfold ChannelKind.ofName at hkind
      split at hkind
      · cases hkind
      · split at hkind
        · assumption
        · cases hkind
    · cases hverdict
  · cases hverdict

/-- What the tasks of an accepted channel call for is confined. -/
theorem confined_of_rooted {ctx : Context} {b : Attempt} {forwardOpen : Option ForwardOpen}
    {sent : List ChannelRequest} {a : Channel.Act} (hverdict : verdict b = .accept forwardOpen)
    (hrooted : a.Rooted ctx forwardOpen sent) : Confined ctx (some b) sent a := by
  cases a with
  | exec i request =>
      obtain ⟨j, job, hcall, horigin⟩ := hrooted rfl
      cases horigin with
      | shell _ hmem hname =>
          cases hcall
          exact ⟨rfl, rfl, .inl ⟨rfl, _, hmem, hname⟩⟩
      | subsystem _ hmem hasked hpath =>
          cases hcall
          exact ⟨rfl, rfl, .inr ⟨_, hmem, _, _, ChannelRequest.asked_eq_some.1 hasked, hpath, rfl⟩⟩
      | forward _ => cases hcall
  | forward i request =>
      obtain ⟨j, job, hcall, horigin⟩ := hrooted rfl
      cases horigin with
      | forward hopened =>
          cases hcall
          rw [hopened] at hverdict
          obtain ⟨hkind, hdecode⟩ := forward_of_verdict hverdict
          exact ⟨b, _, rfl, hkind, hdecode, rfl⟩
      | _ => cases hcall
  | _ => trivial

section

variable {ctx : Context} {cancelled : Bool} {n : Nat} {b : Attempt} {stage after : Stage}
  {e : Event} {acts : List Act} {sent more : List ChannelRequest}

theorem Attempt.Matches.mono {a : Attempt} (hmatches : a.Matches b sent)
    (hmore : ∀ r ∈ sent, r ∈ more) : a.Matches b more :=
  ⟨hmatches.kind, hmatches.payload, fun r hr => hmore r (hmatches.queued r hr)⟩

theorem Attempt.Matches.verdict {a : Attempt} (hmatches : a.Matches b sent) :
    Connection.verdict a = Connection.verdict b :=
  verdict_congr hmatches.kind hmatches.payload

theorem Attempt.Matches.early {a c : Attempt} {own : Channel.Event} (hmatches : a.Matches b sent)
    (hearly : State.arriveEarly a own = some c) (hsent : ∀ r, own.request? = some r → r ∈ sent) :
    c.Matches b sent := by
  cases own with
  | arrive r =>
      obtain rfl := Option.some.inj hearly
      refine ⟨hmatches.kind, hmatches.payload, fun q hq => ?_⟩
      simp only [Inbox.send] at hq
      split at hq
      · rcases List.mem_append.1 hq with hold | hnew
        · exact hmatches.queued q hold
        · rw [List.mem_singleton.1 hnew]
          exact hsent r rfl
      · exact hmatches.queued q hq
  | hangUp =>
      obtain rfl := Option.some.inj hearly
      exact ⟨hmatches.kind, hmatches.payload, hmatches.queued⟩
  | _ => cases hearly

namespace Stage.Rooted

theorem mono (hrooted : stage.Rooted ctx b sent) (hmore : ∀ r ∈ sent, r ∈ more) :
    stage.Rooted ctx b more := by
  cases hrooted with
  | waiting hstage hmatches => exact .waiting hstage (hmatches.mono hmore)
  | accepting hverdict hmatches => exact .accepting hverdict (hmatches.mono hmore)
  | rejecting hmatches => exact .rejecting (hmatches.mono hmore)
  | serving hverdict hrooted => exact .serving hverdict (hrooted.mono hmore)
  | ended => exact .ended
  | crashed => exact .crashed

theorem of_attempt {a : Attempt} (hrooted : stage.Rooted ctx b sent)
    (hattempt : stage.attempt? = some a) : a.Matches b sent := by
  cases hrooted with
  | waiting hstage hmatches =>
      rcases hstage with rfl | rfl <;> exact Option.some.inj hattempt ▸ hmatches
  | accepting _ hmatches | rejecting hmatches => exact Option.some.inj hattempt ▸ hmatches
  | _ => cases hattempt

theorem early {a c : Attempt} {own : Channel.Event} (hrooted : stage.Rooted ctx b sent)
    (hattempt : stage.attempt? = some a) (hearly : State.arriveEarly a own = some c)
    (hsent : ∀ r, own.request? = some r → r ∈ sent) : (stage.setAttempt c).Rooted ctx b sent := by
  have hmatches := (hrooted.of_attempt hattempt).early hearly hsent
  cases hrooted with
  | waiting hstage _ =>
      rcases hstage with rfl | rfl
      · exact .waiting (.inl rfl) hmatches
      · exact .waiting (.inr rfl) hmatches
  | accepting hverdict _ => exact .accepting hverdict hmatches
  | rejecting _ => exact .rejecting hmatches
  | _ => cases hattempt

theorem serve {a : Attempt} {forwardOpen : Option ForwardOpen}
    (hrooted : (Stage.accepting a forwardOpen).Rooted ctx b sent) :
    Stage.Rooted ctx b sent (.serving
      { Channel.Handler.accepted ctx (tableFor forwardOpen) forwardOpen false with
        inbox := a.requests }) := by
  cases hrooted with
  | waiting hstage _ => rcases hstage with h | h <;> cases h
  | accepting hverdict hmatches =>
      exact .serving hverdict ⟨rfl, rfl, hmatches.queued, fun w hw => by cases hw⟩

/-- Whatever happens to an attempt, it stays what it was opened as, and what its channel asks of the
cluster is confined. -/
theorem own (hrooted : stage.Rooted ctx b sent)
    (hstep : stage.Step ctx cancelled n e acts after)
    (hsent : ∀ own r, e.on? n = some own → own.request? = some r → r ∈ sent) :
    after.Rooted ctx b sent ∧ ∀ a ∈ actsOn n acts, Confined ctx (some b) sent a := by
  have hforgone : ∀ c : Attempt, ∀ a ∈ actsOn n (forgone n c), Confined ctx (some b) sent a := by
    intro c a ha
    rw [actsOn_forgone, if_pos rfl] at ha
    obtain ⟨i, rfl⟩ := forgoFrom_forgo a ha
    trivial
  cases hstep with
  | accept _ hverdict =>
      have hmatches := hrooted.of_attempt rfl
      exact ⟨.accepting (hmatches.verdict ▸ hverdict) hmatches, by simp [Act.on?]⟩
  | reject _ _ => exact ⟨.rejecting (hrooted.of_attempt rfl), by simp [Act.on?]⟩
  | abandon _ | withdrawAccept _ | withdrawReject _ | acceptFails _ | rejected _ | rejectFails _ =>
      exact ⟨.ended, by simpa [Act.on?, failed] using hforgone _⟩
  | crash _ _ => exact ⟨.crashed, hforgone _⟩
  | serve _ _ => exact ⟨hrooted.serve, by simp⟩
  | early hattempt hearly =>
      exact ⟨hrooted.early hattempt hearly fun r hr => hsent _ r (if_pos rfl) hr, by simp⟩
  | @work h t own acts _ hwork =>
      cases hrooted with
      | waiting hstage _ => rcases hstage with h | h <;> cases h
      | serving hverdict hrooted =>
          have hlast := hrooted.move (Channel.Handler.move_of_step hwork) fun r hr =>
            hsent own r (if_pos rfl) (by rw [hr]; rfl)
          refine ⟨.serving hverdict hlast.1, fun a ha => ?_⟩
          rw [actsOn_map, if_pos rfl] at ha
          exact confined_of_rooted hverdict (hlast.2 a ha)

end Stage.Rooted

theorem Change.rooted {before after : Option Stage}
    (hchange : Change ctx cancelled n e acts before after)
    (hbefore : ∀ stage, before = some stage → stage.Rooted ctx b sent)
    (hnew : ∀ a, before = none → e.attempt? = some a → a = b)
    (hsent : ∀ own r, e.on? n = some own → own.request? = some r → r ∈ sent) :
    (∀ stage, after = some stage → stage.Rooted ctx b sent) ∧
      ∀ a ∈ actsOn n acts, Confined ctx (some b) sent a := by
  cases hchange with
  | keep _ _ hacts => exact ⟨hbefore, by simp [hacts]⟩
  | arrive =>
      obtain rfl := hnew _ rfl rfl
      refine ⟨fun stage hstage => ?_, by simp⟩
      obtain rfl := Option.some.inj hstage
      exact .waiting (.inl rfl) ⟨rfl, rfl, fun r hr => by cases hr⟩
  | refuse =>
      refine ⟨fun stage hstage => ?_, by simp [Act.on?]⟩
      obtain rfl := Option.some.inj hstage
      exact .ended
  | takeOpen =>
      refine ⟨fun stage hstage => ?_, by simp⟩
      obtain rfl := Option.some.inj hstage
      exact .waiting (.inr rfl) ((hbefore _ rfl).of_attempt rfl)
  | @drop e acts a _ _ hacts =>
      refine ⟨fun stage hstage => ?_, fun act hact => ?_⟩
      · obtain rfl := Option.some.inj hstage
        exact .ended
      · rw [hacts] at hact
        obtain ⟨i, rfl⟩ := forgoFrom_forgo act hact
        trivial
  | own hstep =>
      have hown := (hbefore _ rfl).own hstep hsent
      refine ⟨fun stage hstage => ?_, hown.2⟩
      obtain rfl := Option.some.inj hstage
      exact hown.1
  | cancel _ _ hacts =>
      refine ⟨fun stage hstage => ?_, by simp [hacts]⟩
      obtain rfl := Option.some.inj hstage
      cases hbefore _ rfl with
      | waiting hstage _ => rcases hstage with h | h <;> cases h
      | serving hverdict hrooted =>
          exact .serving hverdict (hrooted.move .cancel fun r hr => by cases hr).1

theorem Confined.mono {attempt later : Option Attempt} {a : Channel.Act}
    (hconfined : Confined ctx attempt sent a) (hattempt : ∀ c, attempt = some c → later = some c)
    (hmore : ∀ r ∈ sent, r ∈ more) : Confined ctx later more a := by
  cases a with
  | exec i request =>
      obtain ⟨htenant, hpod, hcommand⟩ := hconfined
      refine ⟨htenant, hpod, ?_⟩
      rcases hcommand with ⟨hshell, r, hr, hname⟩ | ⟨r, hr, hsubsystem⟩
      · exact .inl ⟨hshell, r, hmore r hr, hname⟩
      · exact .inr ⟨r, hmore r hr, hsubsystem⟩
  | forward i request =>
      obtain ⟨a, opened, ha, hrest⟩ := hconfined
      exact ⟨a, opened, hattempt a ha, hrest⟩
  | _ => trivial

theorem attempted_append (events more : List Event) :
    attempted (events ++ more) = attempted events ++ attempted more := by
  simp [attempted]

theorem sentOn_append (events more : List Event) :
    sentOn n (events ++ more) = sentOn n events ++ sentOn n more := by
  simp [sentOn]

/-- The attempt at a position is one that was made before, or the one that is made last. -/
theorem attempt_of_snoc {events : List Event} {b : Attempt}
    (hb : (attempted events ++ attempted [e])[n]? = some b) :
    (n < (attempted events).length → (attempted events)[n]? = some b) ∧
      ((attempted events).length ≤ n → ∀ a, e.attempt? = some a → b = a) := by
  refine ⟨fun hold => ?_, fun hnew a ha => ?_⟩
  · rwa [List.getElem?_append_left hold] at hb
  · have hsingle : attempted [e] = [a] := by simp [attempted, ha]
    rw [List.getElem?_append_right hnew, hsingle] at hb
    exact List.mem_singleton.1 (List.mem_of_getElem? hb)

theorem mem_sentOn_singleton {r : ChannelRequest} :
    r ∈ sentOn n [e] ↔ ∃ own, e.on? n = some own ∧ own.request? = some r := by
  simp [sentOn, List.mem_filterMap, Option.bind_eq_some_iff]

theorem Change.quiet_of_absent {before : Option Stage}
    (hchange : Change ctx cancelled n e acts before none) : actsOn n acts = [] := by
  cases hchange with
  | keep _ _ hacts => exact hacts

/-- After every run of a connection, each attempt is what it was opened as, and everything that was
asked of the cluster on its channel is confined. -/
theorem confined_of_run {log : Log} {s : State}
    (hrun : Run State.step (State.fresh ctx cancelled) log s) (n : Nat) :
    (∀ stage b, s.channels[n]? = some stage → (attempted (log.map (·.event)))[n]? = some b →
      stage.Rooted ctx b (sentOn n (log.map (·.event)))) ∧
    ∀ a ∈ actsOn n (seen log), Confined ctx (attempted (log.map (·.event)))[n]?
      (sentOn n (log.map (·.event))) a := by
  induction hrun with
  | nil => exact ⟨fun stage b hstage => by simp [State.fresh] at hstage, by simp⟩
  | @snoc log s t e acts hbefore hstep ih =>
      obtain ⟨hstages, hcalls⟩ := ih
      have hchange := State.change_of_move (State.move_of_step hstep) n
      rw [(traced_of_run hbefore n).1] at hchange
      have hlength := length_of_run hbefore
      have hlater := length_of_run (hbefore.snoc hstep)
      rw [List.map_append, attempted_append, sentOn_append, actsOn_snoc]
      rw [List.map_append, attempted_append] at hlater
      simp only [List.map_cons, List.map_nil] at hlater ⊢
      generalize log.map (·.event) = events at hstages hcalls hlength hlater ⊢
      have hmore : ∀ r ∈ sentOn n events, r ∈ sentOn n events ++ sentOn n [e] := by
        intro r hr
        exact List.mem_append_left _ hr
      have hlast : ∀ b, (attempted events ++ attempted [e])[n]? = some b →
          (∀ stage, t.channels[n]? = some stage →
            stage.Rooted ctx b (sentOn n events ++ sentOn n [e])) ∧
          ∀ a ∈ actsOn n acts, Confined ctx (some b) (sentOn n events ++ sentOn n [e]) a := by
        intro b hb
        obtain ⟨hold, hnew⟩ := attempt_of_snoc hb
        rw [← hlength] at hold hnew
        refine hchange.rooted (fun stage hstage => ?_) (fun a habsent ha => ?_) fun own r hown hr =>
          List.mem_append_right _ (mem_sentOn_singleton.2 ⟨own, hown, hr⟩)
        · have hlt := (List.getElem?_eq_some_iff.1 hstage).1
          exact (hstages stage b hstage (hold hlt)).mono hmore
        · exact (hnew (List.getElem?_eq_none_iff.1 habsent) a ha).symm
      refine ⟨fun stage b hstage hb => (hlast b hb).1 stage hstage, fun a ha => ?_⟩
      rcases List.mem_append.1 ha with hold | hnew
      · refine (hcalls a hold).mono (fun c hc => ?_) hmore
        rw [List.getElem?_append_left (List.getElem?_eq_some_iff.1 hc).1, hc]
      · cases hb : (attempted events ++ attempted [e])[n]? with
        | some b => exact (hlast b hb).2 a hnew
        | none =>
            have habsent : t.channels[n]? = none := by
              rw [List.getElem?_eq_none_iff, hlater]
              exact List.getElem?_eq_none_iff.1 hb
            rw [habsent] at hchange
            rw [hchange.quiet_of_absent] at hnew
            cases hnew

end

end Connection

end SessionGateway
