import SessionGateway.Proofs.Channel.Alike
import SessionGateway.Proofs.Connection.Fates

/-!
# What the peer has no say in, on a connection

Connections that differ only in the hosts and originators of forwards, in the names, pixel sizes and
modes of terminals, and in what unknown requests are, go on side by side, and ask the cluster for the
same.
-/

namespace SessionGateway

section

variable {α β : Type} {R : α → α → Prop} {xs ys : List α} {x y : α} {n : Nat}

theorem forall₂_getElem? (h : List.Forall₂ R xs ys) (hx : xs[n]? = some x) :
    ∃ y, ys[n]? = some y ∧ R x y := by
  induction h generalizing n with
  | nil => simp at hx
  | cons hfirst _ ih =>
      cases n with
      | zero =>
          obtain rfl := Option.some.inj hx
          exact ⟨_, rfl, hfirst⟩
      | succ n => exact ih hx

theorem forall₂_set (h : List.Forall₂ R xs ys) (hxy : R x y) :
    List.Forall₂ R (xs.set n x) (ys.set n y) := by
  induction h generalizing n with
  | nil => exact .nil
  | cons hfirst hrest ih =>
      cases n with
      | zero => exact .cons hxy hrest
      | succ n => exact .cons hfirst ih

theorem map_eq_of_forall₂ {f : α → β} (h : List.Forall₂ R xs ys) (hf : ∀ x y, R x y → f x = f y) :
    xs.map f = ys.map f := by
  induction h with
  | nil => rfl
  | cons hfirst _ ih => rw [List.map_cons, List.map_cons, hf _ _ hfirst, ih]

end

/-- Refusals of global requests that differ only in what the requests are. -/
structure Discard.State.Alike (d c : Discard.State) : Prop where
  inbox : d.inbox.Alike (fun r q => r.wantReply = q.wantReply) c.inbox
  taken : d.taken = c.taken
  stopped : d.stopped = c.stopped

theorem Discard.State.Alike.step {d c d' : Discard.State} {cancelled : Bool} {e : Discard.Event}
    {acts : List Discard.Act} (halike : d.Alike c) (hstep : d.step cancelled e = some (d', acts)) :
    ∃ c' acts', c.step cancelled e = some (c', acts') ∧ d'.Alike c' := by
  have hinbox := halike.inbox
  have hstopped := halike.stopped
  cases e with
  | take =>
      simp only [Discard.State.step, Inbox.take?] at hstep ⊢
      rw [← hstopped]
      split at hstep
      · cases hstep
      · rename_i hlive
        rw [if_neg hlive]
        cases hqueue : d.inbox.queued with
        | nil => simp [hqueue] at hstep
        | cons r rest =>
            have hqueued := hinbox.queued
            rw [hqueue] at hqueued
            obtain ⟨q, rest', _, hrest, hqueue'⟩ := List.forall₂_cons_left_iff.1 hqueued
            simp only [hqueue, Option.map_some, Option.some.injEq, Prod.mk.injEq] at hstep
            obtain ⟨rfl, _⟩ := hstep
            simp only [hqueue', Option.map_some]
            exact ⟨_, _, rfl, ⟨hrest, hinbox.ended, hinbox.dropped⟩,
              congrArg (· + 1) halike.taken, rfl⟩
  | stop =>
      simp only [Discard.State.step] at hstep ⊢
      rw [← hstopped, ← hinbox.exhausted]
      split at hstep
      · cases hstep
      · rename_i hlive
        rw [if_neg hlive]
        split at hstep
        · rename_i hend
          obtain ⟨rfl, _⟩ := Prod.mk.inj (Option.some.inj hstep)
          rw [if_pos hend]
          exact ⟨_, _, rfl, hinbox.drop, halike.taken, rfl⟩
        · cases hstep

namespace Connection

/-- Events of a connection that differ only in what nothing depends on. -/
inductive Event.Alike : Event → Event → Prop
  | same (e : Event) : Alike e e
  | forward {payload other : Wire.Bytes} {o p : ForwardOpen}
      (ho : ForwardOpen.decode payload = .ok o) (hp : ForwardOpen.decode other = .ok p)
      (hport : o.port = p.port) :
      Alike (.openChannel "direct-tcpip" payload) (.openChannel "direct-tcpip" other)
  | globalRequest {r q : GlobalRequest} (hreply : r.wantReply = q.wantReply) :
      Alike (.globalRequest r) (.globalRequest q)
  | channel {n : Nat} {e f : Channel.Event} (halike : e.Alike f) :
      Alike (.channel n e) (.channel n f)

def Act.call? : Act → Option (Nat × Channel.Act)
  | .channel n a => if Channel.Operation.call.begins a then some (n, a) else none
  | _ => none

def calls (acts : List Act) : List (Nat × Channel.Act) :=
  acts.filterMap Act.call?

inductive Verdict.Alike : Verdict → Verdict → Prop
  | accept {forwardOpen other : Option ForwardOpen}
      (hport : forwardOpen.map (·.port) = other.map (·.port)) :
      Alike (.accept forwardOpen) (.accept other)
  | reject {reason : RejectionReason} {message : String} {fault : Option Wire.Error} :
      Alike (.reject reason message fault) (.reject reason message fault)

structure Attempt.Alike (a b : Attempt) : Prop where
  verdict : (verdict a).Alike (verdict b)
  requests : a.requests.Alike ChannelRequest.Alike b.requests

inductive Stage.Alike : Stage → Stage → Prop
  | queued {a b : Attempt} (halike : a.Alike b) : Alike (.queued a) (.queued b)
  | ready {a b : Attempt} (halike : a.Alike b) : Alike (.ready a) (.ready b)
  | accepting {a b : Attempt} {forwardOpen other : Option ForwardOpen} (halike : a.Alike b)
      (hport : forwardOpen.map (·.port) = other.map (·.port)) :
      Alike (.accepting a forwardOpen) (.accepting b other)
  | rejecting {a b : Attempt} {fault : Option Wire.Error} (halike : a.Alike b) :
      Alike (.rejecting a fault) (.rejecting b fault)
  | serving {h k : Channel.Handler} (halike : h.Alike k) : Alike (.serving h) (.serving k)
  | ended : Alike .ended .ended
  | crashed : Alike .crashed .crashed

structure State.Alike (s t : State) : Prop where
  context : s.context = t.context
  clock : s.clock = t.clock
  cancelled : s.cancelled = t.cancelled
  phase : s.phase = t.phase
  channels : List.Forall₂ Stage.Alike s.channels t.channels
  opensEnded : s.opensEnded = t.opensEnded
  opensDropped : s.opensDropped = t.opensDropped
  keepalive : s.keepalive = t.keepalive
  discard : s.discard.Alike t.discard

@[simp] theorem calls_nil : calls [] = [] := rfl

@[simp] theorem calls_cons (a : Act) (acts : List Act) :
    calls (a :: acts) = a.call?.toList ++ calls acts := by
  cases h : a.call? <;> simp [calls, h]

@[simp] theorem calls_append (acts more : List Act) :
    calls (acts ++ more) = calls acts ++ calls more := by
  simp [calls]

theorem calls_channel (n : Nat) (own : List Channel.Act) :
    calls (own.map (.channel n)) = (Channel.calls own).map (n, ·) := by
  induction own with
  | nil => rfl
  | cons a rest ih =>
      rw [List.map_cons, calls_cons, ih]
      cases h : Channel.Operation.call.begins a <;> simp [Act.call?, Channel.calls, h]

theorem calls_quiet {acts : List Act} (h : ∀ a ∈ acts, a.call? = none) : calls acts = [] :=
  List.filterMap_eq_nil_iff.2 h

@[simp] theorem calls_forgone (n : Nat) (a : Attempt) : calls (forgone n a) = [] := by
  refine calls_quiet fun act hact => ?_
  obtain ⟨own, hmem, rfl⟩ := List.mem_map.1 hact
  obtain ⟨i, rfl⟩ := forgoFrom_forgo own hmem
  rfl

@[simp] theorem calls_faultWarning (fault : Option Wire.Error) : calls (faultWarning fault) = [] := by
  cases fault <;> rfl

theorem calls_dropQueued (n : Nat) (stages : List Stage) :
    calls (State.dropQueued n stages).2 = [] := by
  refine calls_quiet fun act hact => ?_
  rcases mem_dropQueued hact with ⟨m, rfl⟩ | ⟨m, i, rfl⟩ <;> rfl

theorem Event.Alike.of_channel {n : Nat} {own : Channel.Event} {e : Event}
    (halike : Event.Alike (.channel n own) e) : ∃ other, e = .channel n other ∧ own.Alike other := by
  cases halike with
  | same => exact ⟨own, rfl, .same own⟩
  | channel hown => exact ⟨_, rfl, hown⟩

/-! ## Attempts -/

theorem verdict_alike {payload other : Wire.Bytes} {o p : ForwardOpen} {a b : Attempt}
    (ho : ForwardOpen.decode payload = .ok o) (hp : ForwardOpen.decode other = .ok p)
    (hport : o.port = p.port) (ha : a = ⟨"direct-tcpip", payload, .fresh⟩)
    (hb : b = ⟨"direct-tcpip", other, .fresh⟩) : a.Alike b := by
  subst ha hb
  have hkind : ChannelKind.ofName "direct-tcpip" = .directTcpip := by decide
  refine ⟨?_, .fresh⟩
  simp only [verdict, hkind, ho, hp]
  exact .accept (by simp [hport])

theorem Verdict.Alike.refl (v : Verdict) : v.Alike v := by
  cases v with
  | accept forwardOpen => exact .accept rfl
  | reject reason message fault => exact .reject

namespace Attempt.Alike

variable {a b : Attempt}

theorem refl (kind : String) (payload : Wire.Bytes) :
    Attempt.Alike ⟨kind, payload, .fresh⟩ ⟨kind, payload, .fresh⟩ :=
  ⟨.refl _, .fresh⟩

theorem accept (halike : a.Alike b) {forwardOpen : Option ForwardOpen}
    (hverdict : Connection.verdict a = .accept forwardOpen) :
    ∃ other, Connection.verdict b = .accept other ∧
      forwardOpen.map (·.port) = other.map (·.port) := by
  have hsame := halike.verdict
  rw [hverdict] at hsame
  cases hb : Connection.verdict b with
  | accept other =>
      rw [hb] at hsame
      cases hsame with
      | accept hport => exact ⟨other, rfl, hport⟩
  | reject reason message fault =>
      rw [hb] at hsame
      cases hsame

theorem reject (halike : a.Alike b) {reason : RejectionReason} {message : String}
    {fault : Option Wire.Error} (hverdict : Connection.verdict a = .reject reason message fault) :
    Connection.verdict b = .reject reason message fault := by
  have hsame := halike.verdict
  rw [hverdict] at hsame
  cases hb : Connection.verdict b with
  | accept other =>
      rw [hb] at hsame
      cases hsame
  | reject reason message fault =>
      rw [hb] at hsame
      cases hsame
      rfl

theorem early {c : Attempt} {e f : Channel.Event} (halike : a.Alike b) (hevent : e.Alike f)
    (hearly : State.arriveEarly a e = some c) :
    ∃ d, State.arriveEarly b f = some d ∧ c.Alike d := by
  cases hevent with
  | @arrive r q hrequests =>
      obtain rfl := Option.some.inj hearly
      exact ⟨_, rfl, halike.verdict, halike.requests.send hrequests⟩
  | same =>
      cases e with
      | arrive r =>
          obtain rfl := Option.some.inj hearly
          exact ⟨_, rfl, halike.verdict, halike.requests.send (.same r)⟩
      | hangUp =>
          obtain rfl := Option.some.inj hearly
          exact ⟨_, rfl, halike.verdict, halike.requests.finish⟩
      | _ => cases hearly

end Attempt.Alike

theorem tableFor_alike {ctx : Context} {a b : Attempt} {forwardOpen other : Option ForwardOpen}
    (halike : a.Alike b) (hport : forwardOpen.map (·.port) = other.map (·.port)) :
    Channel.Handler.Alike
      { Channel.Handler.accepted ctx (tableFor forwardOpen) forwardOpen false with
        inbox := a.requests }
      { Channel.Handler.accepted ctx (tableFor other) other false with inbox := b.requests } := by
  have hscratch : Channel.Scratch.Alike (.fresh ctx.config.queueCapacity.toNat false forwardOpen)
      (.fresh ctx.config.queueCapacity.toNat false other) :=
    ⟨rfl, rfl, rfl, rfl, rfl, rfl, hport⟩
  cases forwardOpen with
  | none =>
      cases other with
      | none => exact ⟨rfl, .inl rfl, hscratch, halike.requests, rfl, rfl⟩
      | some _ => cases hport
  | some _ =>
      cases other with
      | none => cases hport
      | some _ => exact ⟨rfl, .inr rfl, hscratch, halike.requests, rfl, rfl⟩

namespace Stage.Alike

variable {ctx : Context} {cancelled : Bool} {n : Nat} {stage other after : Stage} {e f : Event}
  {acts : List Act}

theorem finished (halike : stage.Alike other) : stage.finished = other.finished := by
  cases halike with
  | serving halike => simp [Stage.finished, halike.phase]
  | _ => rfl

theorem isQueued (halike : stage.Alike other) : stage.isQueued = other.isQueued := by
  cases halike <;> rfl

theorem cancel (halike : stage.Alike other) : stage.cancel.Alike other.cancel := by
  cases halike with
  | serving halike => exact .serving { halike with scratch := halike.scratch.close }
  | queued halike => exact .queued halike
  | ready halike => exact .ready halike
  | accepting halike hport => exact .accepting halike hport
  | rejecting halike => exact .rejecting halike
  | ended => exact .ended
  | crashed => exact .crashed

theorem drop (halike : stage.Alike other) : stage.drop.Alike other.drop := by
  cases halike with
  | queued _ => exact .ended
  | serving halike => exact .serving halike
  | ready halike => exact .ready halike
  | accepting halike hport => exact .accepting halike hport
  | rejecting halike => exact .rejecting halike
  | ended => exact .ended
  | crashed => exact .crashed

/-- Attempts that are alike go on side by side, and call the cluster for the same. -/
theorem step (halike : stage.Alike other) (hevent : e.Alike f)
    (hstep : stage.Step ctx cancelled n e acts after) :
    ∃ later acts', other.Step ctx cancelled n f acts' later ∧ after.Alike later ∧
      calls acts = calls acts' := by
  cases hstep with
  | accept hlive hverdict =>
      cases hevent
      cases halike with
      | ready halike =>
          obtain ⟨_, hverdict', hport⟩ := halike.accept hverdict
          exact ⟨_, _, .accept hlive hverdict', .accepting halike hport, rfl⟩
  | reject hlive hverdict =>
      cases hevent
      cases halike with
      | ready halike => exact ⟨_, _, .reject hlive (halike.reject hverdict), .rejecting halike, rfl⟩
  | abandon hcancel =>
      cases hevent
      cases halike with
      | ready halike => exact ⟨_, _, .abandon hcancel, .ended, by simp [Act.call?]⟩
  | withdrawAccept hcancel =>
      cases hevent
      cases halike with
      | accepting _ _ => exact ⟨_, _, .withdrawAccept hcancel, .ended, by simp [Act.call?]⟩
  | withdrawReject hcancel =>
      cases hevent
      cases halike with
      | rejecting _ => exact ⟨_, _, .withdrawReject hcancel, .ended, by simp [Act.call?]⟩
  | serve hlive hcapacity =>
      cases hevent
      cases halike with
      | accepting halike hport =>
          exact ⟨_, _, .serve hlive hcapacity, .serving (tableFor_alike halike hport), rfl⟩
  | crash hlive hcapacity =>
      cases hevent
      cases halike with
      | accepting _ _ => exact ⟨_, _, .crash hlive hcapacity, .crashed, by simp⟩
  | acceptFails hlive =>
      cases hevent
      cases halike with
      | accepting _ _ => exact ⟨_, _, .acceptFails hlive, .ended, by simp [Act.call?, failed]⟩
  | rejected hlive =>
      cases hevent
      cases halike with
      | rejecting _ => exact ⟨_, _, .rejected hlive, .ended, by simp⟩
  | rejectFails hlive =>
      cases hevent
      cases halike with
      | rejecting _ => exact ⟨_, _, .rejectFails hlive, .ended, by simp [Act.call?, failed]⟩
  | @early _ a b own hattempt hearly =>
      obtain ⟨own', rfl, hown⟩ := hevent.of_channel
      cases halike with
      | queued halike =>
          obtain rfl := Option.some.inj hattempt
          obtain ⟨_, hearly', hlater⟩ := halike.early hown hearly
          exact ⟨_, _, .early rfl hearly', .queued hlater, rfl⟩
      | ready halike =>
          obtain rfl := Option.some.inj hattempt
          obtain ⟨_, hearly', hlater⟩ := halike.early hown hearly
          exact ⟨_, _, .early rfl hearly', .ready hlater, rfl⟩
      | accepting halike hport =>
          obtain rfl := Option.some.inj hattempt
          obtain ⟨_, hearly', hlater⟩ := halike.early hown hearly
          exact ⟨_, _, .early rfl hearly', .accepting hlater hport, rfl⟩
      | rejecting halike =>
          obtain rfl := Option.some.inj hattempt
          obtain ⟨_, hearly', hlater⟩ := halike.early hown hearly
          exact ⟨_, _, .early rfl hearly', .rejecting hlater, rfl⟩
      | _ => cases hattempt
  | @work h t own acts hne hwork =>
      obtain ⟨own', rfl, hown⟩ := hevent.of_channel
      cases halike with
      | serving halike =>
          obtain ⟨u, acts', hmove, hlater, hcalls⟩ :=
            halike.move hown (Channel.Handler.move_of_step hwork)
          have hne' : own' ≠ .cancel := by
            rintro rfl
            cases hown
            exact hne rfl
          refine ⟨_, _, .work hne' (Channel.Handler.step_of_move hmove), .serving hlater, ?_⟩
          rw [calls_channel, calls_channel, hcalls]

end Stage.Alike

/-! ## One step -/

namespace State.Alike

variable {s s' t : State} {e e' : Event} {acts : List Act}

theorem refl_fresh (ctx : Context) (cancelled : Bool) :
    (State.fresh ctx cancelled).Alike (State.fresh ctx cancelled) :=
  ⟨rfl, rfl, rfl, rfl, .nil, rfl, rfl, rfl, .fresh, rfl, rfl⟩

theorem cancel (halike : s.Alike s') : s.cancel.Alike s'.cancel :=
  { halike with
    cancelled := rfl
    channels := List.rel_map (fun _ _ h => h.cancel) halike.channels }

theorem setStage (halike : s.Alike s') {n : Nat} {stage other : Stage}
    (hstage : stage.Alike other) : (s.setStage n stage).Alike (s'.setStage n other) :=
  { halike with channels := forall₂_set halike.channels hstage }

theorem push (halike : s.Alike s') {stage other : Stage} (hstage : stage.Alike other) :
    State.Alike { s with channels := s.channels ++ [stage] }
      { s' with channels := s'.channels ++ [other] } :=
  { halike with channels := List.rel_append halike.channels (.cons hstage .nil) }

theorem leave (halike : s.Alike s') : s.leave.1.Alike s'.leave.1 := by
  refine { halike with phase := rfl, opensDropped := rfl, channels := ?_ }
  rw [leave_channels, leave_channels]
  exact List.rel_map (fun _ _ h => h.drop) halike.channels

theorem receivesOpens (halike : s.Alike s') : s.receivesOpens = s'.receivesOpens := by
  rw [State.receivesOpens, State.receivesOpens, halike.opensEnded, halike.opensDropped]

theorem all_finished (halike : s.Alike s') :
    s.channels.all Stage.finished = s'.channels.all Stage.finished := by
  have hmap := map_eq_of_forall₂ halike.channels fun _ _ h => h.finished
  have hall : ∀ stages : List Stage,
      stages.all Stage.finished = (stages.map Stage.finished).all id := by simp
  rw [hall, hmap, ← hall]

theorem any_isQueued (halike : s.Alike s') :
    s.channels.any Stage.isQueued = s'.channels.any Stage.isQueued ∧
      s.channels.findIdx? Stage.isQueued = s'.channels.findIdx? Stage.isQueued := by
  have hmap := map_eq_of_forall₂ halike.channels fun _ _ h => h.isQueued
  have hany : ∀ stages : List Stage,
      stages.any Stage.isQueued = (stages.map Stage.isQueued).any id := by simp
  have hfind : ∀ stages : List Stage,
      stages.findIdx? Stage.isQueued = (stages.map Stage.isQueued).findIdx? id := by
    intro stages
    rw [List.findIdx?_map]
    rfl
  rw [hany, hfind, hmap, ← hany, ← hfind]
  exact ⟨rfl, rfl⟩

theorem leaves (halike : s.Alike s') {report : List Act} (hleaves : s.Leaves e report) :
    s'.Leaves e report := by
  have hphase := halike.phase
  have hcancelled := halike.cancelled
  cases hleaves with
  | early h hcancel => exact .early (hphase ▸ h) (hcancelled ▸ hcancel)
  | giveUpPod h hcancel => exact .giveUpPod (hphase ▸ h) (hcancelled ▸ hcancel)
  | noPod h =>
      rw [hcancelled, halike.context]
      exact .noPod (hphase ▸ h)
  | done h hend =>
      rw [hcancelled, halike.opensEnded, halike.any_isQueued.1] at hend
      exact .done (hphase ▸ h) hend

theorem attempt (halike : s.Alike s') {n : Nat} {stage after : Stage} (hevent : e.Alike e')
    (hstage : s.channels[n]? = some stage)
    (hstep : stage.Step s.context s.cancelled n e acts after) :
    ∃ t' acts', s'.Move e' acts' t' ∧ (s.setStage n after).Alike t' ∧ calls acts = calls acts' := by
  obtain ⟨other, hother, hsame⟩ := forall₂_getElem? halike.channels hstage
  obtain ⟨later, acts', hlater, hafter, hcalls⟩ := hsame.step hevent hstep
  rw [halike.context, halike.cancelled] at hlater
  exact ⟨_, _, .attempt hother hlater, halike.setStage hafter, hcalls⟩

/-- Connections that are alike go on side by side, and call the cluster for the same. -/
theorem move (halike : s.Alike s') (hevent : e.Alike e') (hmove : s.Move e acts t) :
    ∃ t' acts', s'.Move e' acts' t' ∧ t.Alike t' ∧ calls acts = calls acts' := by
  have hphase := halike.phase
  have hcancelled := halike.cancelled
  cases hmove with
  | elapse ms =>
      cases hevent
      exact ⟨_, _, .elapse ms, { halike with clock := congrArg (· + ms) halike.clock }, rfl⟩
  | cancel =>
      cases hevent
      exact ⟨_, _, .cancel, halike.cancel, rfl⟩
  | arrive kind payload hreceives =>
      rw [halike.receivesOpens] at hreceives
      cases hevent with
      | same =>
          exact ⟨_, _, .arrive kind payload hreceives, halike.push (.queued (.refl kind payload)), rfl⟩
      | forward ho hp hport =>
          have hattempt := verdict_alike ho hp hport rfl rfl
          exact ⟨_, _, .arrive _ _ hreceives, halike.push (.queued hattempt), rfl⟩
  | refuse kind payload hrefuses =>
      rw [halike.receivesOpens] at hrefuses
      cases hevent with
      | same => exact ⟨_, _, .refuse kind payload hrefuses, halike.push .ended, rfl⟩
      | forward _ _ _ => exact ⟨_, _, .refuse _ _ hrefuses, halike.push .ended, rfl⟩
  | endOpens =>
      cases hevent
      exact ⟨_, _, .endOpens, { halike with opensEnded := rfl }, rfl⟩
  | globalRequest r =>
      have hdiscard := halike.discard
      cases hevent with
      | same =>
          have harrive : (s.discard.arrive r).Alike (s'.discard.arrive r) :=
            { hdiscard with inbox := hdiscard.inbox.send rfl }
          exact ⟨_, _, .globalRequest r, { halike with discard := harrive }, rfl⟩
      | @globalRequest _ q hreply =>
          have harrive : (s.discard.arrive r).Alike (s'.discard.arrive q) :=
            { hdiscard with inbox := hdiscard.inbox.send hreply }
          exact ⟨_, _, .globalRequest q, { halike with discard := harrive }, rfl⟩
  | endGlobals =>
      cases hevent
      have hdiscard := halike.discard
      have hfinish : s.discard.finish.Alike s'.discard.finish :=
        { hdiscard with inbox := hdiscard.inbox.finish }
      exact ⟨_, _, .endGlobals, { halike with discard := hfinish }, rfl⟩
  | provision h hlive =>
      cases hevent
      exact ⟨_, _, .provision (hphase ▸ h) (hcancelled ▸ hlive), { halike with phase := rfl }, rfl⟩
  | provisioned h =>
      cases hevent
      exact ⟨_, _, .provisioned (hphase ▸ h), { halike with phase := rfl }, rfl⟩
  | leave hleaves =>
      obtain rfl : e' = e := by
        cases hleaves <;> cases hevent <;> rfl
      refine ⟨_, _, .leave (halike.leaves hleaves), halike.leave, ?_⟩
      rw [calls_append, calls_append, State.leave, State.leave, calls_dropQueued, calls_dropQueued]
  | join h hfinished =>
      cases hevent
      have hstopping : State.Alike { s with phase := .stopping } { s' with phase := .stopping } :=
        { halike with phase := rfl }
      exact ⟨_, _, .join (hphase ▸ h) (halike.all_finished ▸ hfinished), hstopping.cancel, rfl⟩
  | close h hkeepalive hdiscard =>
      cases hevent
      refine ⟨_, _, .close (hphase ▸ h) (halike.keepalive ▸ hkeepalive)
        (halike.discard.stopped ▸ hdiscard), { halike with phase := rfl }, ?_⟩
      rw [halike.keepalive]
  | takeOpen h hfirst hqueued =>
      cases hevent
      obtain ⟨other, hother, hsame⟩ := forall₂_getElem? halike.channels hqueued
      cases hsame with
      | queued hattempt =>
          exact ⟨_, _, .takeOpen (hphase ▸ h) (halike.any_isQueued.2 ▸ hfirst) hother,
            halike.setStage (.ready hattempt), rfl⟩
  | attempt hstage hstep => exact halike.attempt hevent hstage hstep
  | @keepalive e k own h hstep =>
      cases hevent
      have hkept : State.Alike { s with keepalive := k } { s' with keepalive := k } :=
        { halike with keepalive := rfl }
      rw [hcancelled, halike.clock, halike.keepalive] at hstep
      refine ⟨_, _, .keepalive (hphase ▸ h) hstep, ?_, by rw [halike.keepalive]⟩
      split
      · exact hkept.cancel
      · exact hkept
  | discard h hstep =>
      cases hevent
      rw [hcancelled] at hstep
      obtain ⟨c, own, hstep', hsame⟩ := halike.discard.step hstep
      refine ⟨_, _, .discard (hphase ▸ h) hstep', { halike with discard := hsame }, ?_⟩
      have hquiet : ∀ acts : List Discard.Act, calls (acts.map .discard) = [] := by
        refine fun acts => calls_quiet fun a ha => ?_
        obtain ⟨_, _, rfl⟩ := List.mem_map.1 ha
        rfl
      rw [hquiet, hquiet]
  | closed h hreport =>
      cases hevent
      exact ⟨_, _, .closed (hphase ▸ h) hreport, { halike with phase := rfl }, rfl⟩

theorem step (halike : s.Alike s') (hevent : e.Alike e') (hstep : s.step e = some (t, acts)) :
    ∃ t' acts', s'.step e' = some (t', acts') ∧ t.Alike t' ∧ calls acts = calls acts' := by
  obtain ⟨t', acts', hmove, hafter, hcalls⟩ := halike.move hevent (move_of_step hstep)
  exact ⟨t', acts', step_of_move hmove, hafter, hcalls⟩

end State.Alike

end Connection

end SessionGateway
