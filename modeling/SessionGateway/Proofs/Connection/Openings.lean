import SessionGateway.Proofs.Channel.Calls
import SessionGateway.Proofs.Connection.Records

/-!
# Opening channels

An attempt to open a channel gets the answer that is due for its kind and its payload, and gets it
once: with the step in which its task runs for the first time, unless the connection is cancelled by
then. An attempt that is turned away leaves no channel behind. A forward that has been accepted calls
the cluster once, from a task that is there before the first request is taken; the one exception is
a queue of sizes that is larger than a queue can be.
-/

namespace SessionGateway

/-! ## The task of a forward -/

namespace Channel.Forward

/-- A forward has its one task as soon as it takes requests, and none before. -/
inductive Tasked (request : ForwardRequest) (h : Handler) : Prop
  | before (hphase : h.phase = .ready) (htaken : h.taken = 0) (hworks : h.scratch.works = [])
  | after (hphase : h.phase ≠ .ready) (hworks : h.scratch.works.map Work.job = [.forward request])

variable {ctx : Context} {opened : ForwardOpen} {request : ForwardRequest} {h t : Handler} {e : Event}
  {acts : List Act}

theorem Tasked.move {asked : List ChannelRequest} (htasked : Tasked (ctx.forward opened.port) h)
    (hrooted : h.Rooted ctx (some opened) asked) (hmove : h.Move ctx e acts t) :
    Tasked (ctx.forward opened.port) t := by
  have hkeep : t.phase = h.phase → t.taken = h.taken →
      t.scratch.works.map Work.job = h.scratch.works.map Work.job →
      Tasked (ctx.forward opened.port) t := by
    intro hphase htaken hjobs
    cases htasked with
    | before hready hnone hempty =>
        exact .before (hphase.trans hready) (htaken.trans hnone) (by simpa [hempty] using hjobs)
    | after hstarted hworks => exact .after (hphase ▸ hstarted) (hjobs.trans hworks)
  have hgo : h.phase ≠ .ready → t.phase ≠ .ready → t.scratch.works = h.scratch.works →
      Tasked (ctx.forward opened.port) t := by
    intro hstarted hgoes hworks
    cases htasked with
    | before hready _ _ => exact absurd hready hstarted
    | after _ hjobs => exact .after hgoes (by rw [hworks, hjobs])
  cases hmove with
  | start hphase =>
      cases htasked with
      | before _ _ hempty =>
          refine .after (by simp) ?_
          rw [hrooted.table]
          simp [Connection.tableFor, runStartup_table hrooted.opened, Scratch.spawn, hempty]
      | after hstarted _ => exact absurd hphase hstarted
  | take hphase _ _ =>
      refine hgo (by simp [hphase]) (by simp [hphase]) ?_
      rw [hrooted.table]
      exact congrArg Scratch.works (dispatch_scratch _ _)
  | leave hphase _ | close hphase _ | streamClosed hphase =>
      exact hgo (by simp [hphase]) (by simp [Handler.leave]) rfl
  | call _ _ | write _ _ _ => exact hkeep rfl rfl (Scratch.setStage_jobs _ _ _)
  | brief _ | join _ _ | execEnds _ _ | forwardEnds _ | written _ =>
      exact hkeep (by simp) (by simp) (by simp)
  | _ => exact hkeep rfl rfl rfl

theorem tasked_of_run {cancelled ended : Bool} {early : List ChannelRequest} {log : Log}
    (hrun : Run (Handler.step ctx)
      (Handler.opened ctx (Connection.tableFor (some opened)) (some opened) cancelled early ended)
      log h) : Tasked (ctx.forward opened.port) h := by
  induction hrun with
  | nil => exact .before rfl rfl rfl
  | snoc hbefore hstep ih =>
      obtain ⟨asked, hrooted⟩ := Handler.rooted_of_run hbefore
      exact ih.move hrooted (Handler.move_of_step hstep)

namespace Tasked

theorem length_le (htasked : Tasked request h) : h.scratch.works.length ≤ 1 := by
  cases htasked with
  | before _ _ hworks => simp [hworks]
  | after _ hworks =>
      have hlength := congrArg List.length hworks
      rw [List.length_map] at hlength
      exact Nat.le_of_eq hlength

/-- The task calls with the request that it was started with, if it has called. -/
theorem called (htasked : Tasked request h) :
    h.scratch.called? 0 = none ∨ h.scratch.called? 0 = some (.forward 0 request) := by
  cases htasked with
  | before _ _ hworks => exact .inl (by simp [Scratch.called?, hworks])
  | after _ hworks =>
      obtain ⟨⟨job, stage⟩, hwork, rfl⟩ := List.map_eq_singleton_iff.1 hworks
      by_cases hready : stage = .ready
      · exact .inl (by simp [Scratch.called?, hwork, Work.called?, hready])
      · exact .inr (by simp [Scratch.called?, hwork, Work.called?, hready, Job.callAct?])

/-- A task that has been started calls unless it has not run yet. -/
theorem called_of_started (htasked : Tasked request h) (hstarted : h.phase ≠ .ready)
    (hran : ∀ w ∈ h.scratch.works, w.stage ≠ .ready) :
    h.scratch.called? 0 = some (.forward 0 request) := by
  cases htasked with
  | before hready _ _ => exact absurd hready hstarted
  | after _ hworks =>
      obtain ⟨⟨job, stage⟩, hwork, rfl⟩ := List.map_eq_singleton_iff.1 hworks
      have hcalled : stage ≠ .ready := hran ⟨.forward request, stage⟩ (by simp [hwork])
      simp [Scratch.called?, hwork, Work.called?, hcalled, Job.callAct?]

theorem called_of_settled (htasked : Tasked request h) (hsettled : h.Settled ctx) :
    h.scratch.called? 0 = some (.forward 0 request) := by
  have hstarted : h.phase ≠ .ready := by
    intro hphase
    have hadvance : h.advance? ctx = none := hsettled .advance rfl
    simp [Handler.advance?, hphase] at hadvance
  refine htasked.called_of_started hstarted fun w hw hready => ?_
  cases htasked with
  | before hphase _ _ => exact hstarted hphase
  | after _ hworks =>
      obtain ⟨⟨job, stage⟩, hwork, rfl⟩ := List.map_eq_singleton_iff.1 hworks
      obtain rfl : w = ⟨.forward request, stage⟩ := by simpa [hwork] using hw
      have hrun : h.run? 0 = none := hsettled (.run 0) rfl
      obtain rfl : stage = .ready := hready
      simp [Handler.run?, hwork] at hrun

theorem called_of_closed (htasked : Tasked request h) (hsound : h.Sound)
    (hclosed : h.phase = .closed) : h.scratch.called? 0 = some (.forward 0 request) := by
  refine htasked.called_of_started (by simp [hclosed]) fun w hw hready => ?_
  have hrunning := hsound.running_of_joined (by rw [hclosed]; rfl)
  have hdone : w.stage = .done := by simpa using List.countP_eq_zero.1 hrunning w hw
  rw [hready] at hdone
  cases hdone

end Tasked

/-- What a forward has asked of the cluster is what its task has called for. -/
theorem calls_of_run {cancelled ended : Bool} {early : List ChannelRequest} {log : Log}
    (hrun : Run (Handler.step ctx)
      (Handler.opened ctx (Connection.tableFor (some opened)) (some opened) cancelled early ended)
      log h) : (seen log).filter Operation.call.begins = (h.scratch.called? 0).toList := by
  have hstart : (Handler.opened ctx (Connection.tableFor (some opened)) (some opened) cancelled early
      ended).Sound := Handler.sound_opened table_orderly _ _ _ _
  exact hstart.calls_of_single rfl hrun (tasked_of_run hrun).length_le

end Channel.Forward

namespace Connection

/-! ## What an attempt is due -/

/-- The answer that is due to an attempt by its kind and its payload. -/
inductive Due (n : Nat) (a : Attempt) : Act → Prop
  | session (hkind : a.kind = "session") : Due n a (.accept n)
  | forward {opened : ForwardOpen} (hkind : a.kind = "direct-tcpip")
      (hpayload : ForwardOpen.decode a.payload = .ok opened) : Due n a (.accept n)
  | malformed {e : Wire.Error} (hkind : a.kind = "direct-tcpip")
      (hpayload : ForwardOpen.decode a.payload = .error e) :
      Due n a (.reject n .connectionFailed "malformed direct-tcpip request")
  | unknown (hsession : a.kind ≠ "session") (hforward : a.kind ≠ "direct-tcpip") :
      Due n a (.reject n .unknownChannelType ("unknown channel type: " ++ a.kind))

def Verdict.answer (n : Nat) : Verdict → Act
  | .accept _ => .accept n
  | .reject reason message _ => .reject n reason message

/-- An attempt has been rejected, could not be accepted, or has been given up. -/
inductive TurnedAway (n : Nat) (log : Log) : Prop
  | rejected {reason : RejectionReason} {message : String}
      (hmem : .reject n reason message ∈ seen log)
  | failed {τ : Transition State Event Act} {c : Cause} (hmem : τ ∈ log)
      (hevent : τ.event = .accepted n (.error c))
  | cancelled (hmem : .drop n ∈ seen log ∨ .withdraw n ∈ seen log)

def Event.endsOpens : Event → Bool
  | .endOpens => true
  | _ => false

/-- The attempts that come from the peer before it is told that no further one comes. -/
def delivered (events : List Event) : List Attempt :=
  attempted (events.takeWhile (!·.endsOpens))

def askedOn (n : Nat) (log : Log) : List Channel.Act :=
  (actsOn n (seen log)).filter Channel.Operation.call.begins

/-- Whether the gateway has begun to accept an attempt, and has not given this up. -/
def Stage.accepted : Stage → Bool
  | .accepting _ _ | .serving _ | .crashed => true
  | _ => false

section

variable {ctx : Context} {cancelled : Bool} {n : Nat} {log pre post : Log} {s t : State} {e : Event}
  {acts : List Act} {stage : Stage} {τ : Transition State Event Act}

theorem due_verdict (a : Attempt) : Due n a ((verdict a).answer n) := by
  unfold verdict ChannelKind.ofName
  by_cases hsession : a.kind = "session"
  · simpa [hsession, Verdict.answer] using Due.session hsession
  · by_cases hforward : a.kind = "direct-tcpip"
    · cases hdecode : ForwardOpen.decode a.payload with
      | ok opened => simpa [hforward, hdecode, Verdict.answer] using Due.forward hforward hdecode
      | error e => simpa [hforward, hdecode, Verdict.answer] using
            Due.malformed hforward hdecode
    · simpa [hsession, hforward, Verdict.answer] using Due.unknown hsession hforward

theorem Due.congr {a b : Attempt} {answer : Act} (hdue : Due n a answer) (hkind : a.kind = b.kind)
    (hpayload : a.payload = b.payload) : Due n b answer := by
  cases hdue with
  | session h => exact .session (hkind ▸ h)
  | forward h hdecode => exact .forward (hkind ▸ h) (hpayload ▸ hdecode)
  | malformed h hdecode => exact .malformed (hkind ▸ h) (hpayload ▸ hdecode)
  | unknown hsession hforward =>
      rw [hkind] at hsession hforward ⊢
      exact .unknown hsession hforward

/-! ## One step -/

theorem Stage.Step.answer {m : Nat} {after : Stage} {answer : Act}
    (hstep : stage.Step ctx cancelled m e acts after) (hmem : answer ∈ acts)
    (hanswers : answer.answers n = true) :
    m = n ∧ e = .runOpen n ∧ cancelled = false ∧ acts = [answer] ∧
      ∃ a, stage = .ready a ∧ Due n a answer := by
  have hquiet : (∀ a ∈ acts, a.answers n = false) → False := by
    intro hnone
    rw [hnone answer hmem] at hanswers
    cases hanswers
  have hforgone : ∀ b, ∀ a ∈ forgone m b, a.answers n = false := by
    intro b a ha
    obtain ⟨own, _, rfl⟩ := List.mem_map.1 ha
    rfl
  have hfault : ∀ fault, ∀ a ∈ faultWarning fault, a.answers n = false := by
    intro fault
    cases fault <;> simp [faultWarning, failed, Act.answers]
  cases hstep with
  | @accept a _ hlive hverdict | @reject a _ _ _ hlive hverdict =>
      obtain rfl := List.mem_singleton.1 hmem
      obtain rfl : m = n := by simpa [Act.answers] using hanswers
      have hdue := due_verdict (n := m) a
      rw [hverdict] at hdue
      exact ⟨rfl, rfl, hlive, rfl, a, rfl, hdue⟩
  | abandon _ | withdrawReject _ =>
      refine (hquiet ?_).elim
      simp only [List.cons_append, List.forall_mem_cons, List.forall_mem_append]
      exact ⟨rfl, hforgone _, hfault _⟩
  | withdrawAccept _ => exact (hquiet (List.forall_mem_cons.2 ⟨rfl, hforgone _⟩)).elim
  | crash _ _ => exact (hquiet (hforgone _)).elim
  | acceptFails _ | rejectFails _ =>
      refine (hquiet ?_).elim
      simp only [List.forall_mem_append, List.forall_mem_singleton]
      exact ⟨hforgone _, rfl⟩
  | rejected _ => exact (hquiet (List.forall_mem_append.2 ⟨hforgone _, hfault _⟩)).elim
  | serve _ _ | early _ _ => cases hmem
  | work _ _ => exact (hquiet (by simp [Act.answers])).elim

namespace State

/-- An answer is given with the first step of the task of an attempt that has been taken, while the
connection is not cancelled, and it is the one that is due. -/
theorem answer_of_move {answer : Act} (hmove : s.Move e acts t) (hmem : answer ∈ acts)
    (hanswers : answer.answers n = true) :
    e = .runOpen n ∧ s.cancelled = false ∧ acts = [answer] ∧
      ∃ a, s.channels[n]? = some (.ready a) ∧ Due n a answer := by
  have hnumber : answer.number? = some n := by
    cases answer <;> simp_all [Act.answers, Act.number?]
  have hquiet : numbered n acts ≠ [] :=
    List.ne_nil_of_mem (List.mem_filter.2 ⟨hmem, by simpa using hnumber⟩)
  cases hmove with
  | attempt hstage hstep =>
      obtain ⟨rfl, rfl, hlive, hacts, a, rfl, hdue⟩ := hstep.answer hmem hanswers
      exact ⟨rfl, hlive, hacts, a, hstage, hdue⟩
  | refuse _ _ _ =>
      rw [List.mem_singleton.1 hmem] at hanswers
      cases hanswers
  | leave hleaves =>
      rcases List.mem_append.1 hmem with hreport | hdropped
      · have hserves := hleaves.serves answer hreport
        rw [Act.serves_of_answers hanswers] at hserves
        cases hserves
      · rcases mem_dropQueued hdropped with ⟨m, rfl⟩ | ⟨m, i, rfl⟩ <;> cases hanswers
  | close _ _ _ =>
      simp only [crashReport] at hquiet
      split at hquiet <;> simp [numbered, Act.number?] at hquiet
  | keepalive _ _ =>
      rw [numbered_append, numbered_probing] at hquiet
      split at hquiet <;> simp [numbered, Act.number?] at hquiet
  | discard _ _ => exact absurd (numbered_discards n _) hquiet
  | @closed outcome _ _ hreport =>
      rw [hreport] at hquiet
      cases outcome <;> simp [numbered, Act.number?] at hquiet
  | provision _ _ => simp [numbered, Act.number?] at hquiet
  | _ => cases hmem

/-- The task of an attempt answers when it runs for a connection that is not cancelled. -/
theorem answers_of_runOpen (hmove : s.Move (.runOpen n) acts t) (hlive : s.cancelled = false) :
    ∃ answer, acts = [answer] ∧ answer.answers n = true := by
  cases hmove with
  | leave hleaves => cases hleaves
  | attempt hstage hstep =>
      cases hstep with
      | accept _ _ | reject _ _ => exact ⟨_, rfl, by simp [Act.answers]⟩
      | abandon hcancel | withdrawAccept hcancel | withdrawReject hcancel =>
          rw [hlive] at hcancel
          cases hcancel

/-- Only an attempt that the gateway has begun to accept becomes a channel. -/
theorem accepted_of_opens (hmove : s.Move e acts t) (hopens : e.opens n = true) :
    ∃ stage, s.channels[n]? = some stage ∧ stage.accepted = true := by
  cases hmove with
  | leave hleaves => cases hleaves <;> cases hopens
  | attempt hstage hstep =>
      cases hstep with
      | serve _ _ | crash _ _ =>
          obtain rfl := of_decide_eq_true hopens
          exact ⟨_, hstage, rfl⟩
      | _ => cases hopens
  | _ => cases hopens

/-- An attempt of a connection that is not cancelled is destroyed only if the user's pod cannot be
made ready, or if the attempt comes too late to be received; and its answer is not given up. -/
theorem destroys_of_move (hmove : s.Move e acts t) (hlive : s.cancelled = false)
    (hmem : .drop n ∈ acts ∨ .withdraw n ∈ acts) :
    (∃ c, e = .provisioned (.error c)) ∨ (s.receivesOpens = false ∧ n = s.channels.length) := by
  obtain ⟨a, ha, hkind⟩ : ∃ a ∈ acts, a = .drop n ∨ a = .withdraw n := by
    rcases hmem with hmem | hmem
    · exact ⟨_, hmem, .inl rfl⟩
    · exact ⟨_, hmem, .inr rfl⟩
  have hnumbered : a ∈ numbered n acts := by
    refine List.mem_filter.2 ⟨ha, ?_⟩
    rcases hkind with rfl | rfl <;> simp [Act.number?]
  have hfate : a ∈ fate n acts := by
    refine List.mem_filter.2 ⟨ha, ?_⟩
    rcases hkind with rfl | rfl <;> simp [Act.settles]
  have hnone : (∀ b ∈ fate n acts, b.answers n = true) → False := by
    intro hall
    have hanswers := hall a hfate
    rcases hkind with rfl | rfl <;> cases hanswers
  cases hmove with
  | refuse _ _ hrefuses =>
      refine .inr ⟨hrefuses, ?_⟩
      rw [List.mem_singleton.1 ha] at hkind
      simpa [eq_comm] using hkind
  | leave hleaves =>
      cases hleaves with
      | noPod _ => exact .inl ⟨_, rfl⟩
      | early _ hcancel | giveUpPod _ hcancel =>
          rw [hlive] at hcancel
          cases hcancel
      | done _ hend =>
          -- Nothing is left to be destroyed when the peer opens no further channel.
          have hempty := (hend.resolve_left (by simp [hlive])).2
          rw [List.nil_append, numbered_leave] at hnumbered
          split at hnumbered
          · rename_i b hqueued
            have hnot := List.any_eq_false.1 hempty _ (List.mem_of_getElem? hqueued)
            exact absurd rfl hnot
          · cases hnumbered
  | @attempt m _ _ _ _ _ hstep =>
      by_cases hm : m = n
      · subst hm
        cases hstep with
        | abandon hcancel | withdrawAccept hcancel | withdrawReject hcancel =>
            rw [hlive] at hcancel
            cases hcancel
        | _ => exact (hnone (by simp [Act.settles, Act.answers, failed])).elim
      · rw [hstep.fate_other hm] at hfate
        cases hfate
  | close _ _ _ =>
      refine (hnone ?_).elim
      simp only [crashReport]
      split <;> simp [Act.settles, Act.answers]
  | keepalive _ _ =>
      rw [numbered_append, numbered_probing] at hnumbered
      split at hnumbered <;> simp [numbered, Act.number?] at hnumbered
  | discard _ _ =>
      rw [numbered_discards] at hnumbered
      cases hnumbered
  | @closed outcome _ _ hreport =>
      refine (hnone ?_).elim
      rw [hreport]
      cases outcome <;> simp [Act.settles, Act.answers]
  | provision _ _ =>
      refine (hnone ?_).elim
      simp [Act.settles, Act.answers]
  | _ => cases ha

end State

/-- An attempt is accepted only after the gateway has begun to accept it. -/
theorem Change.accepted {before : Option Stage}
    (hchange : Change ctx cancelled n e acts before (some stage)) (haccepted : stage.accepted = true) :
    (∃ earlier, before = some earlier ∧ earlier.accepted = true) ∨ .accept n ∈ acts := by
  cases hchange with
  | keep _ _ _ => exact .inl ⟨stage, rfl, haccepted⟩
  | arrive | refuse | takeOpen | drop _ _ _ => cases haccepted
  | cancel _ _ _ => exact .inl ⟨_, rfl, rfl⟩
  | @own _ _ earlier _ hstep =>
      cases hstep with
      | accept _ _ => exact .inr (List.mem_singleton_self _)
      | serve _ _ | crash _ _ | work _ _ => exact .inl ⟨_, rfl, rfl⟩
      | early _ _ =>
          refine .inl ⟨earlier, rfl, ?_⟩
          cases earlier <;> exact haccepted
      | _ => cases haccepted

/-- Apart from what becomes of requests that come early, nothing is seen of a channel before its
attempt has been accepted. -/
theorem Change.serving {before after : Option Stage} {a : Channel.Act}
    (hchange : Change ctx cancelled n e acts before after) (hmem : a ∈ actsOn n acts) :
    (∃ h, before = some (.serving h)) ∨ ∃ i, a = .forgo i := by
  have hforgone : ∀ b, a ∈ actsOn n (forgone n b) → ∃ i, a = .forgo i := by
    intro b ha
    rw [actsOn_forgone, if_pos rfl] at ha
    exact forgoFrom_forgo a ha
  cases hchange with
  | keep _ _ hacts | cancel _ _ hacts =>
      rw [hacts] at hmem
      cases hmem
  | arrive | refuse | takeOpen => simp [Act.on?] at hmem
  | drop _ _ hacts =>
      rw [hacts] at hmem
      exact .inr (forgoFrom_forgo a hmem)
  | own hstep =>
      cases hstep with
      | work _ _ => exact .inl ⟨_, rfl⟩
      | accept _ _ | reject _ _ | serve _ _ | early _ _ => simp [Act.on?] at hmem
      | abandon _ | withdrawAccept _ | withdrawReject _ | crash _ _ | acceptFails _ | rejected _
      | rejectFails _ =>
          exact .inr (hforgone _ (by simpa [Act.on?, failed] using hmem))

/-! ## A whole run -/

theorem settles_of_mem {a : Act} (ha : a ∈ acts) (hsettles : a.settles n = true) : a ∈ fate n acts :=
  List.mem_filter.2 ⟨ha, hsettles⟩

theorem Act.settles_of_answers {a : Act} (hanswers : a.answers n = true) : a.settles n = true := by
  cases a <;> simp_all [answers, settles]

/-- An attempt is answered at most once. -/
theorem Fate.answers_le {stage : Option Stage} (hfate : Fate n stage (fate n acts)) :
    acts.countP (Act.answers n) ≤ 1 := by
  have hsame : acts.countP (Act.answers n) = (fate n acts).countP (Act.answers n) := by
    rw [fate, List.countP_filter]
    apply List.countP_congr
    intro a _
    simpa using Act.settles_of_answers
  rw [hsame]
  generalize fate n acts = done at hfate ⊢
  cases hfate with
  | absent | waiting _ => exact Nat.zero_le _
  | dropped => simp [Act.answers]
  | answered _ _ | failed _ => exact List.countP_le_length
  | withdrawn hanswer =>
      have hnot : (Act.withdraw n).answers n = false := rfl
      simp [hanswer, hnot]

theorem accept_of_accepted (hrun : Run State.step (State.fresh ctx cancelled) log s)
    (hstage : s.channels[n]? = some stage) (haccepted : stage.accepted = true) :
    .accept n ∈ seen log := by
  induction hrun generalizing stage with
  | nil => simp [State.fresh] at hstage
  | snoc _ hstep ih =>
      have hchange := State.change_of_move (State.move_of_step hstep) n
      rw [hstage] at hchange
      rw [seen_append, List.mem_append]
      rcases hchange.accepted haccepted with ⟨earlier, hbefore, hearlier⟩ | hnow
      · exact .inl (ih hbefore hearlier)
      · exact .inr (by simpa using hnow)

/-- Of an attempt that has become a channel nothing else is seen than that it is accepted. -/
theorem fate_of_opens (hrun : Run State.step (State.fresh ctx cancelled) log s)
    (hopens : opens n log ≠ 0) : fate n (seen log) = [.accept n] := by
  have hfate := fate_of_run hrun n
  have htraced := (traced_of_run hrun n).2
  cases hstage : s.channels[n]? with
  | none =>
      rw [hstage] at htraced
      cases htraced with
      | absent _ _ hnone => exact absurd hnone hopens
  | some stage =>
      rw [hstage] at htraced hfate
      have hopen : stage.accepted = true ∧ stage.answered = true := by
        cases htraced with
        | waiting _ _ _ _ hnone => exact absurd hnone hopens
        | ended _ _ hnone => exact absurd hnone hopens
        | crashed _ _ _ _ | serving _ _ _ _ _ _ => exact ⟨rfl, rfl⟩
      obtain ⟨answer, _, hdone⟩ := hfate.of_answered hopen.2
      have haccept := settles_of_mem (n := n) (accept_of_accepted hrun hstage hopen.1)
        (by simp [Act.settles, Act.answers])
      rw [hdone, List.mem_singleton] at haccept
      rw [hdone, haccept]

theorem ended_of_run (hrun : Run State.step s log t) (hended : s.channels[n]? = some .ended) :
    t.channels[n]? = some .ended :=
  hrun.invariant (P := fun s => s.channels[n]? = some .ended) hended fun hended hstep =>
    (State.change_of_move (State.move_of_step hstep) n).ended hended

/-- An attempt that is turned away does not become a channel. -/
theorem TurnedAway.opens (hturned : TurnedAway n log)
    (hrun : Run State.step (State.fresh ctx cancelled) log s) : Connection.opens n log = 0 := by
  by_contra hopens
  have hfate := fate_of_opens hrun hopens
  have hnot : ∀ a ∈ seen log, a.settles n = true → a = .accept n := by
    intro a ha hsettles
    have hmem := settles_of_mem ha hsettles
    rw [hfate] at hmem
    exact List.mem_singleton.1 hmem
  cases hturned with
  | rejected hmem => cases hnot _ hmem (by simp [Act.settles, Act.answers])
  | cancelled hmem =>
      rcases hmem with hmem | hmem <;> cases hnot _ hmem (by simp [Act.settles])
  | @failed τ c hmem hevent =>
      obtain ⟨pre, post, rfl⟩ := List.append_of_mem hmem
      obtain ⟨_, hstep, hpost⟩ := hrun.at_step
      have hended : τ.target.channels[n]? = some .ended := by
        rw [hevent] at hstep
        generalize τ.target = target at hstep
        generalize τ.acts = acts at hstep
        cases State.move_of_step hstep with
        | leave hleaves => cases hleaves
        | attempt hstage hown =>
            cases hown with
            | acceptFails _ => rw [State.getElem?_setStage hstage, if_pos rfl]
      have htraced := (traced_of_run hrun n).2
      rw [ended_of_run hpost hended] at htraced
      cases htraced with
      | waiting hattempt _ _ _ _ => cases hattempt
      | ended _ _ hnone => exact hopens hnone

/-- A connection that is not cancelled and whose pod is not missing receives attempts until it is told
that no further one comes. -/
theorem receives_of_run (hrun : Run State.step (State.fresh ctx cancelled) log s)
    (hlive : s.cancelled = false) (hpod : ∀ τ ∈ log, ∀ c, τ.event ≠ .provisioned (.error c))
    (hrefuses : s.receivesOpens = false) : ∃ τ ∈ log, τ.event.endsOpens = true := by
  induction hrun with
  | nil => cases hrefuses
  | @snoc log s t e acts _ hstep ih =>
      have hmove := State.move_of_step hstep
      have hlast : ⟨s, e, acts, t⟩ ∈ log ++ [⟨s, e, acts, t⟩] := by simp
      have hbefore : s.cancelled = false := by
        rw [Bool.eq_false_iff]
        intro hcancel
        rw [State.cancelled_move hmove hcancel] at hlive
        cases hlive
      by_cases hclosed : s.receivesOpens = false
      · obtain ⟨τ, hτ, hends⟩ := ih hbefore (fun τ hτ => hpod τ (List.mem_append_left _ hτ)) hclosed
        exact ⟨τ, List.mem_append_left _ hτ, hends⟩
      · have hkept : t.receivesOpens ≠ s.receivesOpens := by
          intro hsame
          exact hclosed (hsame ▸ hrefuses)
        cases hmove with
        | endOpens => exact ⟨_, hlast, rfl⟩
        | leave hleaves =>
            cases hleaves with
            | noPod _ => exact absurd rfl (hpod _ hlast _)
            | early _ hcancel | giveUpPod _ hcancel =>
                rw [hbefore] at hcancel
                cases hcancel
            | done _ hend =>
                have hended := (hend.resolve_left (by simp [hbefore])).1
                exact absurd (by simp [State.receivesOpens, hended]) hclosed
        | keepalive _ _ =>
            refine absurd ?_ hkept
            split <;> rfl
        | _ => exact absurd rfl hkept

theorem length_delivered_le {first rest : List Event} (hends : ∃ e ∈ first, e.endsOpens = true) :
    (delivered (first ++ rest)).length ≤ (attempted first).length := by
  obtain ⟨e, hmem, hends⟩ := hends
  have hstops : (first.takeWhile (!·.endsOpens)).length ≠ first.length := by
    intro hall
    have hwhole := (List.takeWhile_prefix fun e : Event => !e.endsOpens).eq_of_length hall
    have hnone : first.all (!·.endsOpens) = true := by
      rw [← hwhole]
      exact List.all_takeWhile
    have hnot := List.all_eq_true.1 hnone e hmem
    simp [hends] at hnot
  rw [delivered, List.takeWhile_append, if_neg hstops]
  exact ((List.takeWhile_prefix _).filterMap _).length_le

theorem length_delivered_le_attempted (events : List Event) :
    (delivered events).length ≤ (attempted events).length :=
  ((List.takeWhile_prefix _).filterMap _).length_le

/-- An attempt that has been delivered is not destroyed, and its answer is not given up, as long as
the connection is not cancelled and the user's pod has become ready. -/
theorem kept_of_run (hrun : Run State.step (State.fresh ctx cancelled) log s)
    (hlive : s.cancelled = false) (hready : ∃ τ ∈ log, grants τ = true)
    (hn : n < (delivered (log.map (·.event))).length) :
    .drop n ∉ seen log ∧ .withdraw n ∉ seen log := by
  have hpod : ∀ τ ∈ log, ∀ c, τ.event ≠ .provisioned (.error c) := by
    intro τ hτ c hevent
    obtain ⟨σ, hσ, hgrants⟩ := hready
    have hbarring : Barring ctx cancelled log s := .failed hτ hevent
    rw [hbarring.not_grants hrun σ hσ] at hgrants
    cases hgrants
  rw [← not_or]
  intro hdestroyed
  obtain ⟨τ, hτ, hacts⟩ : ∃ τ ∈ log, .drop n ∈ τ.acts ∨ .withdraw n ∈ τ.acts := by
    rcases hdestroyed with hmem | hmem <;> obtain ⟨τ, hτ, hact⟩ := List.mem_flatMap.1 hmem
    · exact ⟨τ, hτ, .inl hact⟩
    · exact ⟨τ, hτ, .inr hact⟩
  obtain ⟨pre, post, rfl⟩ := List.append_of_mem hτ
  obtain ⟨hpre, hstep, hpost⟩ := hrun.at_step
  have hsource : τ.source.cancelled = false := by
    rw [Bool.eq_false_iff]
    intro hcancel
    have hlater := cancelled_of_run ((Run.single hstep).trans hpost) hcancel
    rw [hlive] at hlater
    cases hlater
  rcases State.destroys_of_move (State.move_of_step hstep) hsource hacts with
    ⟨c, hevent⟩ | ⟨hrefuses, hlate⟩
  · exact hpod τ hτ c hevent
  · obtain ⟨σ, hσ, hends⟩ := receives_of_run hpre hsource
      (fun σ hσ => hpod σ (List.mem_append_left _ hσ)) hrefuses
    have hlength := length_of_run hpre
    have hfew : (delivered (pre.map (·.event) ++ (τ :: post).map (·.event))).length ≤
        (attempted (pre.map (·.event))).length :=
      length_delivered_le ⟨σ.event, List.mem_map_of_mem hσ, hends⟩
    rw [List.map_append] at hn
    omega

/-- In a settled connection that is not cancelled and whose pod has become ready, no attempt waits to
be taken, or for its task to run. -/
theorem not_waits_of_settled (hrun : Run State.step (State.fresh ctx cancelled) log s)
    (hsettled : s.Settled) (hlive : s.cancelled = false) (hready : ∃ τ ∈ log, grants τ = true)
    (hstage : s.channels[n]? = some stage) : stage.waits = false := by
  have hserving : s.phase.awaits = false := by
    obtain ⟨τ, hτ, hgrants⟩ := hready
    have htold := (awaits_of_run hrun).2
    have hpos : 0 < log.countP fun τ => τ.event.isProvisioned := by
      have hevent : τ.event.isReady = true := (Bool.and_eq_true_iff.1 hgrants).1
      refine List.countP_pos_iff.2 ⟨τ, hτ, ?_⟩
      rw [Event.eq_of_isReady hevent]
      rfl
    cases hawaits : s.phase.awaits with
    | false => rfl
    | true =>
        rw [hawaits, Bool.toNat_true] at htold
        omega
  cases stage with
  | queued a =>
      have hmem := List.mem_of_getElem? hstage
      by_cases hphase : s.phase = .accepting
      · have htake : s.takeOpen? = none := hsettled .takeOpen rfl
        cases hfirst : s.channels.findIdx? Stage.isQueued with
        | none => cases List.findIdx?_eq_none_iff.1 hfirst _ hmem
        | some m =>
            obtain ⟨hlt, hqueued, _⟩ := List.findIdx?_eq_some_iff_getElem.1 hfirst
            have hat := List.getElem?_eq_getElem hlt
            generalize s.channels[m] = first at hqueued hat
            cases first <;> simp_all [State.takeOpen?, Stage.isQueued]
      · have hleft : s.phase.left = true := by
          cases hcase : s.phase <;> simp_all [Phase.awaits, Phase.left]
        cases (prompt_of_run hrun).taken hleft _ hmem
  | ready a =>
      have hopen : s.runOpen? n = none := hsettled (.runOpen n) rfl
      cases hverdict : verdict a <;> simp [State.runOpen?, hstage, hlive, hverdict] at hopen
  | _ => rfl

/-- An answer is what is due to the attempt as it has come from the peer. -/
theorem due_of_step (hrun : Run State.step (State.fresh ctx cancelled) log s)
    (hstep : s.step e = some (t, acts)) {answer : Act} (hmem : answer ∈ acts)
    (hanswers : answer.answers n = true) :
    e = .runOpen n ∧ s.cancelled = false ∧
      ∃ a, (attempted (log.map (·.event)))[n]? = some a ∧ Due n a answer := by
  obtain ⟨hevent, hlive, _, a, hstage, hdue⟩ :=
    State.answer_of_move (State.move_of_step hstep) hmem hanswers
  have hlt : n < (attempted (log.map (·.event))).length := by
    rw [← length_of_run hrun]
    exact (List.getElem?_eq_some_iff.1 hstage).1
  have hb := List.getElem?_eq_getElem hlt
  have hmatches := ((confined_of_run hrun n).1 _ _ hstage hb).of_attempt rfl
  exact ⟨hevent, hlive, _, hb, hdue.congr hmatches.kind hmatches.payload⟩

/-- In a settled connection that is not cancelled and whose pod has become ready, nothing else has
been done with an attempt that was delivered than that it got its answer. -/
theorem answered_of_settled (hrun : Run State.step (State.fresh ctx cancelled) log s)
    (hsettled : s.Settled) (hlive : s.cancelled = false) (hready : ∃ τ ∈ log, grants τ = true)
    (hn : n < (delivered (log.map (·.event))).length) :
    ∃ a answer, (attempted (log.map (·.event)))[n]? = some a ∧ Due n a answer ∧
      fate n (seen log) = [answer] := by
  have hkept := kept_of_run hrun hlive hready hn
  have hlt : n < s.channels.length := by
    rw [length_of_run hrun]
    exact Nat.lt_of_lt_of_le hn (length_delivered_le_attempted _)
  have hwaits := not_waits_of_settled hrun hsettled hlive hready (List.getElem?_eq_getElem hlt)
  obtain ⟨answer, hdone, hanswers⟩ :
      ∃ answer, fate n (seen log) = [answer] ∧ answer.answers n = true := by
    have hfate := fate_of_run hrun n
    have hnone : ∀ a, a = .drop n ∨ a = .withdraw n → a ∉ fate n (seen log) := by
      rintro a (rfl | rfl) hmem
      · exact hkept.1 (List.mem_filter.1 hmem).1
      · exact hkept.2 (List.mem_filter.1 hmem).1
    rw [List.getElem?_eq_getElem hlt] at hfate
    generalize s.channels[n] = stage at hfate hwaits
    generalize fate n (seen log) = done at hfate hnone
    cases hfate with
    | waiting hwaiting =>
        rw [hwaits] at hwaiting
        cases hwaiting
    | answered _ hanswer | failed hanswer => exact ⟨_, rfl, hanswer⟩
    | dropped => exact absurd (List.mem_singleton_self _) (hnone _ (.inl rfl))
    | withdrawn _ => exact absurd (by simp) (hnone _ (.inr rfl))
  have hseen : answer ∈ seen log := by
    have hmem : answer ∈ fate n (seen log) := by simp [hdone]
    exact (List.mem_filter.1 hmem).1
  obtain ⟨τ, hτ, hact⟩ := List.mem_flatMap.1 hseen
  obtain ⟨pre, post, rfl⟩ := List.append_of_mem hτ
  obtain ⟨hpre, hstep, _⟩ := hrun.at_step
  obtain ⟨_, _, a, ha, hdue⟩ := due_of_step hpre hstep hact hanswers
  refine ⟨a, answer, ?_, hdue, hdone⟩
  rw [List.map_append, attempted_append, List.getElem?_append_left, ha]
  exact (List.getElem?_eq_some_iff.1 ha).1

/-- What is asked of the cluster on the channel of a forward, and when. -/
structure ForwardsOnce (ctx : Context) (request : ForwardRequest) (n : Nat) (log : Log) (s : State) :
    Prop where
  /-- Nothing is asked of the cluster but the one forward. -/
  most : askedOn n log = [] ∨ askedOn n log = [.forward 0 request]
  /-- If the channel has been opened, the forward has been asked for as soon as nothing can go on by
  itself, or the channel has come to its end; unless the channel could not be set up because the
  queue of sizes is to be larger than a queue can be. -/
  exactly : (s.Settled ∨ ∃ stage, s.channels[n]? = some stage ∧ stage.finished = true) →
    askedOn n log = if Terminal.SizeQueue.maxCapacity < ctx.config.queueCapacity.toNat then []
      else List.replicate (opens n log) (.forward 0 request)
  /-- The task that asks for it is there before the first request on the channel is taken. -/
  tasked : ∀ h, s.channels[n]? = some (.serving h) → Channel.Forward.Tasked request h

theorem askedOn_of_forgo (hforgo : ∀ a ∈ actsOn n (seen log), ∃ i, a = .forgo i) :
    askedOn n log = [] := by
  rw [askedOn, List.filter_eq_nil_iff]
  intro a ha
  obtain ⟨i, rfl⟩ := hforgo a ha
  simp [Channel.Operation.begins]

theorem verdict_of_forward {a : Attempt} {opened : ForwardOpen} (hkind : a.kind = "direct-tcpip")
    (hdecode : ForwardOpen.decode a.payload = .ok opened) : verdict a = .accept (some opened) := by
  simp [verdict, ChannelKind.ofName, hkind, hdecode]

theorem forwards_once (hrun : Run State.step (State.fresh ctx cancelled) log s) {a : Attempt}
    {opened : ForwardOpen} (ha : (attempted (log.map (·.event)))[n]? = some a)
    (hkind : a.kind = "direct-tcpip") (hdecode : ForwardOpen.decode a.payload = .ok opened) :
    ForwardsOnce ctx (ctx.forward opened.port) n log s := by
  obtain ⟨hctx, htraced⟩ := traced_of_run hrun n
  have hquiet : (∀ a ∈ actsOn n (seen log), ∃ i, a = .forgo i) →
      (∀ h, s.channels[n]? ≠ some (.serving h)) →
      (opens n log = 0 ∨ Terminal.SizeQueue.maxCapacity < ctx.config.queueCapacity.toNat) →
      ForwardsOnce ctx (ctx.forward opened.port) n log s := by
    intro hforgo hnot hunopened
    have hnone := askedOn_of_forgo hforgo
    refine ⟨.inl hnone, fun _ => ?_, fun h hh => absurd hh (hnot h)⟩
    rw [hnone]
    split
    · rfl
    · rw [hunopened.resolve_right ‹_›]
      rfl
  cases hstage : s.channels[n]? with
  | none =>
      rw [hstage] at htraced hquiet
      cases htraced with
      | absent hacts _ hopens => exact hquiet (by simp [hacts]) (by simp) (.inl hopens)
  | some stage =>
      have hrooted := (confined_of_run hrun n).1 stage a hstage ha
      rw [hstage] at htraced hquiet
      cases htraced with
      | waiting hattempt _ hacts _ hopens =>
          refine hquiet (by simp [hacts]) (fun h hh => ?_) (.inl hopens)
          obtain rfl := Option.some.inj hh
          cases hattempt
      | ended hacts _ hopens => exact hquiet hacts (by simp) (.inl hopens)
      | crashed hcapacity hacts _ _ => exact hquiet hacts (by simp) (.inr hcapacity)
      | @serving h forwardOpen _ _ own _ hcapacity hown hacts _ _ hopens =>
          -- The channel was opened with the payload of its attempt.
          obtain rfl : forwardOpen = some opened := by
            obtain ⟨_, hknown⟩ := Channel.Handler.rooted_of_run hown
            cases hrooted with
            | waiting hwaits _ => rcases hwaits with hh | hh <;> cases hh
            | serving hverdict hrooted =>
                rw [verdict_of_forward hkind hdecode] at hverdict
                rw [← hknown.opened, hrooted.opened]
                exact (Verdict.accept.inj hverdict).symm
          have htasked := Channel.Forward.tasked_of_run hown
          have hasked : askedOn n log = (h.scratch.called? 0).toList := by
            rw [askedOn, hacts]
            exact Channel.Forward.calls_of_run hown
          have hcalled : (s.Settled ∨ ∃ stage, s.channels[n]? = some stage ∧ stage.finished = true) →
              h.scratch.called? 0 = some (.forward 0 (ctx.forward opened.port)) := by
            rintro (hsettled | ⟨stage, hsome, hfinished⟩)
            · exact htasked.called_of_settled (hsettled.channel hstage)
            · rw [hstage] at hsome
              obtain rfl := Option.some.inj hsome
              exact htasked.called_of_closed (channels_sound hrun n h hstage)
                (by simpa [Stage.finished] using hfinished)
          refine ⟨?_, fun hdone => ?_, fun other hother => ?_⟩
          · rw [hasked]
            rcases htasked.called with hnone | hsome
            · exact .inl (by rw [hnone]; rfl)
            · exact .inr (by rw [hsome]; rfl)
          · rw [hasked, hcalled hdone, if_neg hcapacity, hopens]
            rfl
          · obtain rfl := Stage.serving.inj (Option.some.inj (hstage.symm.trans hother))
            exact htasked

structure AnswersOpens (ctx : Context) (log : Log) (s : State) : Prop where
  once : ∀ n, (seen log).countP (Act.answers n) ≤ 1
  /-- It is answered by its own task, while the connection is not cancelled, with what is due. -/
  due : ∀ {pre post : Log} {τ : Transition State Event Act}, log = pre ++ τ :: post →
    ∀ n, ∀ answer ∈ τ.acts, answer.answers n = true →
      τ.event = .runOpen n ∧ τ.source.cancelled = false ∧
        ∃ a, (attempted (pre.map (·.event)))[n]? = some a ∧ Due n a answer
  /-- Unless the connection is cancelled by then, the task answers as soon as it runs. -/
  prompt : ∀ {pre post : Log} {τ : Transition State Event Act}, log = pre ++ τ :: post →
    ∀ n, τ.event = .runOpen n → τ.source.cancelled = false →
      ∃ answer, τ.acts = [answer] ∧ answer.answers n = true
  /-- When nothing can go on by itself in a connection whose pod has become ready and which is not
  cancelled, every attempt that was delivered has been taken and answered, whatever has become of the
  other answers. -/
  settled : s.Settled → s.cancelled = false → (∃ τ ∈ log, grants τ = true) →
    ∀ n < (delivered (log.map (·.event))).length, ∃ a answer,
      (attempted (log.map (·.event)))[n]? = some a ∧ Due n a answer ∧ fate n (seen log) = [answer]
  turnedAway : ∀ n, TurnedAway n log → opens n log = 0
  /-- Without a channel nothing is seen of one, apart from what becomes of requests that came early;
  with one, the gateway has accepted the attempt before. -/
  silent : ∀ n, opens n log = 0 → (∀ h, s.channels[n]? ≠ some (.serving h)) ∧
    ∀ a ∈ actsOn n (seen log), ∃ i, a = .forgo i
  accepted : ∀ {pre post : Log} {τ : Transition State Event Act}, log = pre ++ τ :: post →
    ∀ n, τ.event.opens n = true → .accept n ∈ seen pre
  after : ∀ {pre post : Log} {τ : Transition State Event Act}, log = pre ++ τ :: post →
    ∀ n, ∀ a ∈ actsOn n τ.acts, opens n pre = 1 ∨ ∃ i, a = .forgo i
  /-- On the channel of a session no forward is asked for. -/
  session : ∀ n a, (attempted (log.map (·.event)))[n]? = some a → a.kind = "session" →
    ∀ i request, .forward i request ∉ actsOn n (seen log)
  /-- On the channel of a forward only the forward to the port of its payload is asked for, once. -/
  forward : ∀ n a opened, (attempted (log.map (·.event)))[n]? = some a → a.kind = "direct-tcpip" →
    ForwardOpen.decode a.payload = .ok opened →
      ForwardsOnce ctx (ctx.forward opened.port) n log s

/-- The attempts to open channels are answered as they are due, each at most once, and only accepted
attempts become channels. In every settled state of a connection that is ready and not cancelled each
of them has been answered. -/
theorem opens_answered (hrun : Run State.step (State.fresh ctx cancelled) log s) :
    AnswersOpens ctx log s := by
  constructor
  case once => exact fun n => (fate_of_run hrun n).answers_le
  case due =>
    rintro pre post τ rfl n answer hmem hanswers
    obtain ⟨hpre, hstep, _⟩ := hrun.at_step
    exact due_of_step hpre hstep hmem hanswers
  case prompt =>
    rintro pre post τ rfl n hevent hlive
    obtain ⟨_, hstep, _⟩ := hrun.at_step
    exact State.answers_of_runOpen (hevent ▸ State.move_of_step hstep) hlive
  case settled =>
    intro hsettled hlive hready n hn
    exact answered_of_settled hrun hsettled hlive hready hn
  case turnedAway => exact fun n hturned => hturned.opens hrun
  case silent =>
    intro n hopens
    have htraced := (traced_of_run hrun n).2
    generalize s.channels[n]? = stage at htraced ⊢
    cases htraced with
    | absent hacts _ _ => exact ⟨by simp, by simp [hacts]⟩
    | waiting hattempt _ hacts _ _ =>
        refine ⟨fun h hh => ?_, by simp [hacts]⟩
        obtain rfl := Option.some.inj hh
        cases hattempt
    | ended hacts _ _ => exact ⟨by simp, hacts⟩
    | crashed _ _ _ hone | serving _ _ _ _ _ hone => omega
  case accepted =>
    rintro pre post τ rfl n hopens
    obtain ⟨hpre, hstep, _⟩ := hrun.at_step
    obtain ⟨stage, hstage, haccepted⟩ := State.accepted_of_opens (State.move_of_step hstep) hopens
    exact accept_of_accepted hpre hstage haccepted
  case after =>
    rintro pre post τ rfl n a ha
    obtain ⟨hpre, hstep, _⟩ := hrun.at_step
    have hchange := State.change_of_move (State.move_of_step hstep) n
    rcases hchange.serving ha with ⟨h, hserving⟩ | hforgo
    · have htraced := (traced_of_run hpre n).2
      rw [hserving] at htraced
      cases htraced with
      | waiting hattempt _ _ _ _ => cases hattempt
      | serving _ _ _ _ _ hopens => exact .inl hopens
    · exact .inr hforgo
  case session =>
    intro n a ha hkind i request hmem
    obtain ⟨b, opened, hb, hforward, _⟩ := (confined_of_run hrun n).2 _ hmem
    obtain rfl := Option.some.inj (ha.symm.trans hb)
    rw [hkind] at hforward
    exact absurd hforward (by decide)
  case forward => exact fun n a opened ha hkind hdecode => forwards_once hrun ha hkind hdecode

/-- While a session is still being accepted, three later attempts get their answers: a forward is
accepted and asks the cluster for its port, one with a payload that cannot be read and an attempt of
another kind are rejected. -/
theorem opens_answered_pending :
    ∃ log s, Run State.step (State.fresh ⟨⟨"team", "ada"⟩, .standard⟩ false) log s ∧
      s.Settled ∧ s.cancelled = false ∧ (delivered (log.map (·.event))).length = 4 ∧
      (seen log).filter Act.serves = [.accept 0, .accept 1,
        .reject 2 .connectionFailed "malformed direct-tcpip request",
        .reject 3 .unknownChannelType "unknown channel type: x11",
        .channel 1 (.forward 0 ⟨"team", "ada", 8080⟩)] ∧
      AnswersOpens ⟨⟨"team", "ada"⟩, .standard⟩ log s := by
  have hcheck : ∃ log s, Run State.step (State.fresh ⟨⟨"team", "ada"⟩, .standard⟩ false) log s ∧
      s.Settled ∧ s.cancelled = false ∧ (delivered (log.map (·.event))).length = 4 ∧
      (seen log).filter Act.serves = [.accept 0, .accept 1,
        .reject 2 .connectionFailed "malformed direct-tcpip request",
        .reject 3 .unknownChannelType "unknown channel type: x11",
        .channel 1 (.forward 0 ⟨"team", "ada", 8080⟩)] :=
    exists_run_of_replay
      [.advance, .keepalive (.start ""), .openChannel "session" [], .provisioned (.ok ()), .takeOpen,
        .runOpen 0,
        .openChannel "direct-tcpip" [0, 0, 0, 1, 104, 0, 0, 31, 144, 0, 0, 0, 1, 111, 0, 0, 0, 9],
        .openChannel "direct-tcpip" [], .openChannel "x11" [], .takeOpen, .takeOpen, .takeOpen,
        .runOpen 1, .runOpen 2, .runOpen 3, .accepted 1 (.ok ()), .rejected 3 (.ok ()),
        .channel 1 .advance, .channel 1 (.run 0)]
      (by decide +kernel)
  obtain ⟨log, s, hrun, hsettled, hlive, hdelivered, hserves⟩ := hcheck
  exact ⟨log, s, hrun, hsettled, hlive, hdelivered, hserves, opens_answered hrun⟩

/-- With a queue of sizes that cannot be made, a forward that has been accepted asks nothing of the
cluster. -/
theorem no_forward_of_large_queue :
    ∃ config, config.problem? = none ∧
      ∃ log s, Run State.step (State.fresh ⟨⟨"team", "ada"⟩, config⟩ false) log s ∧
        s.Settled ∧ s.cancelled = false ∧
        attempted (log.map (·.event)) = [⟨"direct-tcpip",
          [0, 0, 0, 1, 104, 0, 0, 31, 144, 0, 0, 0, 1, 111, 0, 0, 0, 9], .fresh⟩] ∧
        ForwardOpen.decode [0, 0, 0, 1, 104, 0, 0, 31, 144, 0, 0, 0, 1, 111, 0, 0, 0, 9] =
          .ok ⟨"h", 8080, "o", 9⟩ ∧
        opens 0 log = 1 ∧ askedOn 0 log = [] := by
  refine ⟨{ Config.standard with queueCapacity := 2305843009213693952 }, by decide +kernel, ?_⟩
  exact exists_run_of_replay
    [.advance, .keepalive (.start ""), .provisioned (.ok ()),
      .openChannel "direct-tcpip" [0, 0, 0, 1, 104, 0, 0, 31, 144, 0, 0, 0, 1, 111, 0, 0, 0, 9],
      .takeOpen, .runOpen 0, .accepted 0 (.ok ())]
    (by decide +kernel)

end

end Connection

end SessionGateway
