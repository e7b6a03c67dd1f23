import SessionGateway.Proofs.Channel.Command
import SessionGateway.Proofs.Channel.Exit
import SessionGateway.Proofs.Channel.Records

/-!
# The closing line

The only thing that the gateway itself writes to a peer is a closing line after a shell. It is
written if the shell returns before the tasks of its channel have been told to stop, and there is
something to say. Nothing else of the channel depends on the line: however its writing ends, the
channel goes on as if the shell had returned without one.
-/

namespace SessionGateway.Channel

/-- By the steps so far the tasks of a session have been told to stop: its token was cancelled from
the start, the connection has been cancelled, or its loop has found that no request can come any
more. -/
inductive ToldToStop (cancelled : Bool) (log : Log) : Prop
  | start (hcancelled : cancelled = true)
  | cancel {σ : Transition Handler Event Act} (hmem : σ ∈ log) (hevent : σ.event = .cancel)
  | ended {σ : Transition Handler Event Act} (hmem : σ ∈ log) (hphase : σ.source.phase = .serving)
      (hended : σ.source.inbox.exhausted = true) (hleft : σ.target.phase = .draining)

/-- The first request of a session that can start a command is one for a shell. -/
def ShellFirst (config : Config) (history : List ChannelRequest) : Prop :=
  ∃ r, history.find? (·.startable config) = some r ∧ r.name = "shell"

/-- What there is to say when a shell has ended. -/
inductive Says (config : Config) : Except Cause Unit → String → Prop
  | farewell : Says config (.ok ()) config.farewell
  | error (c : Cause) : Says config (.error c) ("\r\nerror: " ++ c.message ++ "\r\n")

theorem says_iff {ctx : Context} {outcome : Except Cause Unit} {line : String} :
    Says ctx.config outcome line ↔ line = Handler.closingLine ctx outcome := by
  constructor
  · rintro (_ | _) <;> rfl
  · rintro rfl
    cases outcome with
    | ok _ => exact .farewell
    | error c => exact .error c

namespace ToldToStop

variable {cancelled : Bool} {log : Log} {τ : Transition Handler Event Act}

theorem mono (h : ToldToStop cancelled log) : ToldToStop cancelled (log ++ [τ]) := by
  cases h with
  | start hcancelled => exact .start hcancelled
  | cancel hmem hevent => exact .cancel (List.mem_append_left _ hmem) hevent
  | ended hmem hphase hended hleft =>
      exact .ended (List.mem_append_left _ hmem) hphase hended hleft

/-- A step tells the tasks to stop only if the connection is cancelled with it, or the channel
leaves its loop. -/
theorem of_snoc (h : ToldToStop cancelled (log ++ [τ])) (hevent : τ.event ≠ .cancel)
    (hphase : τ.source.phase = .serving → τ.target.phase ≠ .draining) :
    ToldToStop cancelled log := by
  cases h with
  | start hcancelled => exact .start hcancelled
  | cancel hmem hcancel =>
      rcases List.mem_append.1 hmem with hold | hnew
      · exact .cancel hold hcancel
      · rw [List.mem_singleton.1 hnew] at hcancel
        exact absurd hcancel hevent
  | ended hmem hserving hended hleft =>
      rcases List.mem_append.1 hmem with hold | hnew
      · exact .ended hold hserving hended hleft
      · rw [List.mem_singleton.1 hnew] at hserving hleft
        exact absurd hleft (hphase hserving)

end ToldToStop

namespace Handler

variable {ctx : Context} {h t : Handler} {e : Event} {acts : List Act}

/-- A line is written only with the step in which a shell has returned before the tasks were told to
stop. -/
theorem write_of_move (hmove : Move ctx h e acts t) {i : Nat} {line : String}
    (hmem : .write i line ∈ acts) :
    ∃ request outcome, e = .returned i outcome ∧
      h.scratch.works[i]? = some ⟨.exec request true, .calling⟩ ∧ h.scratch.stopped = false ∧
      line = closingLine ctx outcome ∧ line ≠ "" ∧
      acts = execWarning outcome ++ [.write i line] ∧
      t = h.mapScratch (·.setStage i (.writing line)) := by
  have hnone : ∀ acts : List Act, (∀ a ∈ acts, a.isCall = false) → .write i line ∉ acts := by
    intro acts hquiet hmem
    cases hquiet _ hmem
  have hwarnings : ∀ outcome, .write i line ∉ execWarning outcome ∧
      .write i line ∉ forwardWarning outcome := fun outcome =>
    ⟨hnone _ fun a ha => Act.isCall_of_isReport ((warnings_isReport outcome).1 a ha),
      hnone _ fun a ha => Act.isCall_of_isReport ((warnings_isReport outcome).2 a ha)⟩
  cases hmove with
  | @write j request interactive outcome hwork hstop hline =>
      obtain ⟨hshell, htext⟩ := hline
      rcases List.mem_append.1 hmem with hwarn | hown
      · exact absurd hwarn (hwarnings outcome).1
      · obtain ⟨rfl, rfl⟩ := Act.write.inj (List.mem_singleton.1 hown)
        exact ⟨request, outcome, rfl, hshell ▸ hwork, hstop, rfl, htext, rfl, rfl⟩
  | start _ => exact absurd hmem (hnone _ Table.runStartup_isCall)
  | take _ _ _ => exact absurd hmem (hnone _ Table.dispatch_isCall)
  | leave _ _ => exact absurd hmem (hnone _ forgoFrom_isCall)
  | @call j job act _ hact =>
      cases job <;> simp only [Job.callAct?, Option.some.injEq, reduceCtorEq] at hact <;>
        subst hact <;> simp at hmem
  | @execEnds _ _ _ outcome _ _ =>
      split at hmem
      · cases hmem
      · exact absurd hmem (hwarnings outcome).1
  | @forwardEnds _ _ outcome _ =>
      split at hmem
      · cases hmem
      · exact absurd hmem (hwarnings outcome).2
  | _ => simp at hmem

/-- With each return at most one line is written. -/
theorem countP_write (hmove : Move ctx h e acts t) :
    acts.countP Operation.write.begins ≤ (Operation.call.ends e).toNat := by
  by_cases hwrites : ∃ i line, Act.write i line ∈ acts
  · obtain ⟨i, line, hmem⟩ := hwrites
    obtain ⟨request, outcome, rfl, _, _, _, _, rfl, _⟩ := write_of_move hmove hmem
    rw [List.countP_append, (countP_begins_warnings .write outcome).1]
    exact Nat.le_refl 1
  · have hnone : acts.countP Operation.write.begins = 0 := by
      rw [List.countP_eq_zero]
      intro a ha hbegins
      cases a with
      | write i line => exact hwrites ⟨i, line, ha⟩
      | _ => cases hbegins
    omega

theorem countP_write_of_run {log : Log} (hrun : Run (Handler.step ctx) h log t) :
    (seen log).countP Operation.write.begins ≤ log.countP fun τ => Operation.call.ends τ.event := by
  induction hrun with
  | nil => simp
  | @snoc _ _ _ e _ _ hstep ih =>
      have hlast := countP_write (move_of_step hstep)
      have hends : (if Operation.call.ends e = true then 1 else 0) =
          (Operation.call.ends e).toNat := by
        cases Operation.call.ends e <;> rfl
      rw [seen_append, List.countP_append, List.countP_append, List.countP_singleton, seen_cons,
        seen_nil, List.append_nil, hends]
      exact Nat.add_le_add ih hlast

/-- A task that has ended is never taken up again. -/
theorem done_of_move (hsound : h.Sound) (hmove : Move ctx h e acts t)
    (hdone : ∃ w ∈ h.scratch.works, w.stage = .done) : ∃ w ∈ t.scratch.works, w.stage = .done := by
  obtain ⟨w, hw, hstage⟩ := hdone
  obtain ⟨i, hi⟩ := List.mem_iff_getElem?.1 hw
  have hset : ∀ (j : Nat) (stage : Job.Stage), (stage = .done ∨ i ≠ j) →
      ∃ w ∈ (h.scratch.setStage j stage).works, w.stage = .done := by
    intro j stage hother
    have hwork := getElem?_setStage (s := h.scratch) i j stage
    rw [hi] at hwork
    refine ⟨_, List.mem_of_getElem? hwork, ?_⟩
    by_cases hij : i = j <;> simp_all
  have hgrow : h.scratch.Grows t.scratch → ∃ w ∈ t.scratch.works, w.stage = .done := by
    rintro ⟨⟨jobs, hworks⟩, _⟩
    exact ⟨w, by simp [hworks, hw], hstage⟩
  have hbusy : ∀ {j : Nat} {other : Work}, h.scratch.works[j]? = some other →
      other.stage ≠ .done → i ≠ j := by
    rintro j other hother hnot rfl
    rw [hi] at hother
    obtain rfl := Option.some.inj hother
    exact hnot hstage
  cases hmove with
  | start _ => exact hgrow (Table.runStartup_grows hsound.orderly.startup)
  | @take raw _ _ _ _ => exact hgrow (hsound.orderly.dispatch_grows h.taken raw)
  | call hwork _ => exact hset _ _ (.inr (hbusy hwork (by simp)))
  | write hwork _ _ => exact hset _ _ (.inr (hbusy hwork (by simp)))
  | brief _ | join _ _ | execEnds _ _ | forwardEnds _ | written _ =>
      simpa using hset _ .done (.inl rfl)
  | _ => exact ⟨w, hw, hstage⟩

/-- A channel that has waited for its tasks writes nothing. -/
theorem unwritten_of_joined {log : Log} (hsound : h.Sound) (hrun : Run (Handler.step ctx) h log t)
    (hjoined : h.phase.joined = true) : (seen log).countP Operation.write.begins = 0 := by
  have hkept : (t.Sound ∧ t.phase.joined = true) ∧
      (seen log).countP Operation.write.begins = 0 := by
    induction hrun with
    | nil => exact ⟨⟨hsound, hjoined⟩, rfl⟩
    | @snoc log s t e acts _ hstep ih =>
        obtain ⟨⟨hsound, hjoined⟩, hnone⟩ := ih
        have hmove := move_of_step hstep
        have hcount := countP_close hmove
        have hafter : t.phase.joined = true := by
          cases hnot : t.phase.joined with
          | true => rfl
          | false =>
              rw [hjoined, hnot, Bool.toNat_true, Bool.toNat_false] at hcount
              omega
        refine ⟨⟨hsound.step hstep, hafter⟩, ?_⟩
        rw [seen_append, List.countP_append, hnone, seen_cons, seen_nil, List.append_nil,
          Nat.zero_add, List.countP_eq_zero]
        intro a ha hbegins
        cases a with
        | write i line =>
            obtain ⟨_, _, _, hwork, _⟩ := write_of_move hmove ha
            rw [hsound.not_joined hwork (by simp)] at hjoined
            cases hjoined
        | _ => cases hbegins
  exact hkept.2

/-- Nothing is being written when all tasks have ended. -/
theorem pending_write_of_idle (hidle : h.scratch.running = 0) : h.pending .write = 0 := by
  have hnone : h.scratch.works.countP Operation.write.waits = 0 := by
    rw [List.countP_eq_zero]
    intro w hw hwaits
    have hdone := List.countP_eq_zero.1 hidle w hw
    exact Operation.stage_ne_done_of_waits hwaits (by simpa using hdone)
  rw [pending, hnone]
  rfl

/-- Where a task was when it ends makes no difference to the channel. -/
theorem finishWork_setStage (i : Nat) (stage : Job.Stage) :
    (h.mapScratch (·.setStage i stage)).finishWork i true = h.finishWork i true := by
  simp only [finishWork, mapScratch, Scratch.setStage, if_true, List.modify_modify_eq]
  rfl

theorem sound_of_opened {forwardOpen : Option ForwardOpen} {cancelled ended : Bool}
    {early : List ChannelRequest} {log : Log}
    (hrun : Run (Handler.step ctx)
      (Handler.opened ctx (Connection.tableFor forwardOpen) forwardOpen cancelled early ended) log h) :
    h.Sound := by
  refine hrun.invariant (sound_opened ?_ forwardOpen cancelled early ended) Sound.step
  cases forwardOpen with
  | none => exact Session.table_orderly
  | some _ => exact Forward.table_orderly

end Handler

/-! ## A session -/

namespace Session

variable {ctx : Context} {cancelled ended : Bool} {early : List ChannelRequest} {log : Log}
  {h : Handler}

/-- The task of a session waits for a command after which a line is written if the first startable
request was for a shell. -/
theorem interactive_iff
    (hrun : Run (Handler.step ctx) (Handler.opened ctx table none cancelled early ended) log h)
    {i : Nat} {request : ExecRequest} {interactive : Bool} {stage : Job.Stage}
    (hwork : h.scratch.works[i]? = some ⟨.exec request interactive, stage⟩) :
    interactive = true ↔ ShellFirst ctx.config (processed log) := by
  have hjob : Job.exec request interactive ∈ jobs ctx false false (processed log) := by
    rw [← (remembers_of_run hrun).jobs]
    exact List.mem_map_of_mem (List.mem_of_getElem? hwork)
  obtain ⟨before, r, after, hhistory, hnone, hfirst⟩ := mem_jobs hjob
  have hstartable : r.startable ctx.config = true := by
    rw [startable_eq ctx, hfirst]
    rfl
  have hfind : (processed log).find? (·.startable ctx.config) = some r := by
    rw [hhistory, List.find?_append, List.find?_cons_of_pos hstartable]
    have hbefore : before.find? (·.startable ctx.config) = none := by simpa using hnone
    rw [hbefore, Option.none_or]
  have hname : ShellFirst ctx.config (processed log) ↔ r.name = "shell" := by
    simp [ShellFirst, hfind]
  rw [hname, ← ChannelRequest.asked_shell]
  unfold job? at hfirst
  split at hfirst
  · rename_i hasked
    obtain ⟨_, rfl⟩ := Job.exec.inj (Option.some.inj hfirst)
    simp [hasked]
  · rename_i name hasked
    obtain ⟨path, _, hexec⟩ := Option.map_eq_some_iff.1 hfirst
    obtain ⟨_, rfl⟩ := Job.exec.inj hexec
    simp [hasked]
  · cases hfirst

theorem length_works
    (hrun : Run (Handler.step ctx) (Handler.opened ctx table none cancelled early ended) log h) :
    h.scratch.works.length ≤ 1 := by
  rw [← List.length_map Work.job, (remembers_of_run hrun).jobs]
  exact length_jobs false (processed log)

/-- A session asks the cluster at most once. -/
theorem countP_call_le
    (hrun : Run (Handler.step ctx) (Handler.opened ctx table none cancelled early ended) log h) :
    (seen log).countP Operation.call.begins ≤ 1 := by
  have hstart : (Handler.opened ctx table none cancelled early ended).Sound :=
    Handler.sound_opened table_orderly none cancelled early ended
  rw [List.countP_eq_length_filter, hstart.calls_of_single rfl hrun (length_works hrun)]
  exact Option.length_toList_le

/-- As long as no task of a session has ended, its tasks have been told to stop only for the reasons
that are listed. -/
theorem stopped_iff
    (hrun : Run (Handler.step ctx) (Handler.opened ctx table none cancelled early ended) log h)
    (hbusy : ∀ w ∈ h.scratch.works, w.stage ≠ .done) :
    h.scratch.stopped = true ↔ ToldToStop cancelled log := by
  induction hrun with
  | nil =>
      constructor
      · exact .start
      · rintro (hcancelled | ⟨hmem, _⟩ | ⟨hmem, _⟩)
        · exact hcancelled
        · cases hmem
        · cases hmem
  | @snoc log h t e acts hbefore hstep ih =>
      have hmove := Handler.move_of_step hstep
      have hopened : Run (Handler.step ctx)
          (Handler.opened ctx (Connection.tableFor none) none cancelled early ended) log h := hbefore
      have hsound := Handler.sound_of_opened hopened
      have hlast : ⟨h, e, acts, t⟩ ∈ log ++ [⟨h, e, acts, t⟩] :=
        List.mem_append_right _ (List.mem_singleton_self _)
      have hknown : h.scratch.stopped = true ↔ ToldToStop cancelled log := by
        refine ih fun w hw hdone => ?_
        obtain ⟨other, hother, hstage⟩ := Handler.done_of_move hsound hmove ⟨w, hw, hdone⟩
        exact hbusy other hother hstage
      have hkeep : t.scratch.stopped = h.scratch.stopped → e ≠ .cancel →
          (h.phase = .serving → t.phase ≠ .draining) →
          (t.scratch.stopped = true ↔ ToldToStop cancelled (log ++ [⟨h, e, acts, t⟩])) := by
        intro hsame hevent hphase
        rw [hsame, hknown]
        exact ⟨.mono, fun htold => htold.of_snoc hevent hphase⟩
      have hends : ∀ {i : Nat} {w : Work} (closes : Bool), h.scratch.works[i]? = some w →
          t = h.finishWork i closes → False := by
        rintro i w closes hwork rfl
        have hdone := Handler.getElem?_setStage (s := h.scratch) i i .done
        rw [hwork, Option.map_some, if_pos rfl] at hdone
        refine hbusy { w with stage := .done } (List.mem_of_getElem? (i := i) ?_) rfl
        rw [Handler.finishWork_scratch]
        split <;> exact hdone
      obtain ⟨asked, hrooted⟩ := Handler.rooted_of_run hopened
      cases hmove with
      | cancel => exact ⟨fun _ => .cancel hlast rfl, fun _ => rfl⟩
      | leave hphase hend =>
          refine ⟨fun _ => ?_, fun _ => rfl⟩
          rcases hend with hclosed | hexhausted
          · exact (hknown.1 (hsound.stopped_of_closed hclosed)).mono
          · exact .ended hlast hphase hexhausted rfl
      | start hphase =>
          have hstartup : h.table.startup = [] := by rw [hrooted.table]; rfl
          refine hkeep ?_ (by simp) (by simp [hphase])
          rw [hstartup]
          rfl
      | take hphase _ _ =>
          refine hkeep ?_ (by simp) (by simp [hphase])
          rw [hrooted.table]
          exact (keeps_dispatch _ _).stopped
      | close hphase _ => exact hkeep rfl (by simp) (by simp)
      | streamClosed _ => exact hkeep rfl (by simp) (by simp)
      | execEnds hwork _ | forwardEnds hwork | written hwork => exact (hends true hwork rfl).elim
      | @brief _ _ closes hwork => exact (hends closes hwork rfl).elim
      | join hwork _ => exact (hends false hwork rfl).elim
      | _ => exact hkeep rfl (by simp) (by simp_all)

end Session

/-! ## Every channel -/

section

variable {ctx : Context} {forwardOpen : Option ForwardOpen} {cancelled ended : Bool}
  {early : List ChannelRequest} {log pre post : Log} {h : Handler}
  {τ : Transition Handler Event Act}

/-- When the gateway itself writes to a peer, and what. -/
structure WritesClosingLine (ctx : Context) (forwardOpen : Option ForwardOpen) (cancelled : Bool)
    (log : Log) : Prop where
  once : (seen log).countP Operation.write.begins ≤ 1
  /-- A line is written with a step if and only if the command of a session has returned with it,
  this command is a shell, the tasks have not been told to stop, and there is something to say. -/
  writes : ∀ {pre post : Log} {τ : Transition Handler Event Act}, log = pre ++ τ :: post →
    ∀ i line, .write i line ∈ τ.acts ↔ ∃ outcome, τ.event = .returned i outcome ∧
      forwardOpen = none ∧ ShellFirst ctx.config (processed pre) ∧ ¬ ToldToStop cancelled pre ∧
      Says ctx.config outcome line ∧ line ≠ ""
  /-- The command was run before, and the stream has not been closed. -/
  during : ∀ {pre post : Log} {τ : Transition Handler Event Act}, log = pre ++ τ :: post →
    ∀ i line, .write i line ∈ τ.acts →
      (∃ request, .exec i request ∈ seen pre) ∧ .closeStream ∉ seen pre ∧ .closeStream ∉ τ.acts
  /-- When the stream is closed, the line that was written has been received or has failed, and none
  is written later. -/
  before : ∀ {pre post : Log} {τ : Transition Handler Event Act}, log = pre ++ τ :: post →
    .closeStream ∈ τ.acts →
      (seen pre).countP Operation.write.begins = pre.countP (fun σ => Operation.write.ends σ.event) ∧
      (seen (τ :: post)).countP Operation.write.begins = 0
  /-- However the writing ends, the channel is then as if the shell had returned without a line. -/
  harmless : ∀ {pre post : Log} {τ : Transition Handler Event Act}, log = pre ++ τ :: post →
    (∀ i line, .write i line ∈ τ.acts →
      τ.target.step ctx (.written i) = some (τ.source.finishWork i true, [])) ∧
    ∀ i, τ.event = .written i → τ.acts = [] ∧ τ.target = τ.source.finishWork i true

theorem session_of_exec
    (hrun : Run (Handler.step ctx)
      (Handler.opened ctx (Connection.tableFor forwardOpen) forwardOpen cancelled early ended) log h)
    {i : Nat} {request : ExecRequest} {interactive : Bool} {stage : Job.Stage}
    (hwork : h.scratch.works[i]? = some ⟨.exec request interactive, stage⟩) :
    forwardOpen = none := by
  obtain ⟨asked, hrooted⟩ := Handler.rooted_of_run hrun
  cases hrooted.works _ (List.mem_of_getElem? hwork) with
  | shell hsession _ _ | subsystem hsession _ _ _ => exact hsession

theorem write_iff
    (hrun : Run (Handler.step ctx)
      (Handler.opened ctx (Connection.tableFor forwardOpen) forwardOpen cancelled early ended) log h)
    {t : Handler} {e : Event} {acts : List Act} (hmove : h.Move ctx e acts t) (i : Nat)
    (line : String) :
    .write i line ∈ acts ↔ ∃ outcome, e = .returned i outcome ∧ forwardOpen = none ∧
      ShellFirst ctx.config (processed log) ∧ ¬ ToldToStop cancelled log ∧
      Says ctx.config outcome line ∧ line ≠ "" := by
  -- While the command has not returned, it is the only task of the session.
  have hbusy : ∀ {request interactive}, forwardOpen = none →
      h.scratch.works[i]? = some ⟨.exec request interactive, .calling⟩ →
      ∀ w ∈ h.scratch.works, w.stage ≠ .done := by
    rintro request interactive rfl hwork w hw
    have hlength := Session.length_works hrun
    have hlt := (List.getElem?_eq_some_iff.1 hwork).1
    obtain ⟨j, hj⟩ := List.mem_iff_getElem?.1 hw
    have hltj := (List.getElem?_eq_some_iff.1 hj).1
    obtain rfl : j = i := by omega
    obtain rfl := Option.some.inj (hj.symm.trans hwork)
    simp
  constructor
  · intro hmem
    obtain ⟨request, outcome, rfl, hwork, hstop, hline, htext, _⟩ := Handler.write_of_move hmove hmem
    obtain rfl := session_of_exec hrun hwork
    refine ⟨outcome, rfl, rfl, (Session.interactive_iff hrun hwork).1 rfl, fun htold => ?_,
      says_iff.2 hline, htext⟩
    rw [(Session.stopped_iff hrun (hbusy rfl hwork)).2 htold] at hstop
    cases hstop
  · rintro ⟨outcome, rfl, rfl, hshell, htold, hsays, htext⟩
    obtain rfl := says_iff.1 hsays
    cases hmove with
    | @execEnds _ request interactive _ hwork hend =>
        rcases hend with hstop | hquiet
        · exact absurd ((Session.stopped_iff hrun (hbusy rfl hwork)).1 hstop) htold
        · exact absurd ⟨(Session.interactive_iff hrun hwork).2 hshell, htext⟩ hquiet
    | write _ _ _ => exact List.mem_append_right _ (List.mem_singleton_self _)
    | forwardEnds hwork =>
        obtain ⟨asked, hrooted⟩ := Handler.rooted_of_run hrun
        cases hrooted.works _ (List.mem_of_getElem? hwork) with
        | forward hopened => cases hopened

/-- The command that has returned was run before. -/
theorem exec_seen_of_write
    (hrun : Run (Handler.step ctx)
      (Handler.opened ctx (Connection.tableFor forwardOpen) forwardOpen cancelled early ended) log h)
    {i : Nat} {request : ExecRequest} {interactive : Bool}
    (hwork : h.scratch.works[i]? = some ⟨.exec request interactive, .calling⟩) :
    .exec i request ∈ seen log := by
  have hstart : (Handler.opened ctx (Connection.tableFor forwardOpen) forwardOpen cancelled early
      ended).Sound := Handler.sound_of_opened .nil
  have hcalled : Act.exec i request ∈ (seen log).filter (Act.calledBy i) := by
    rw [hstart.calls_of_run rfl hrun i, Scratch.called?, hwork]
    simp [Work.called?, Job.callAct?]
  exact (List.mem_filter.1 hcalled).1

theorem countP_write_le
    (hrun : Run (Handler.step ctx)
      (Handler.opened ctx (Connection.tableFor forwardOpen) forwardOpen cancelled early ended) log h) :
    (seen log).countP Operation.write.begins ≤ 1 := by
  cases forwardOpen with
  | none =>
      have hbalance := hrun.balance (Handler.sound_opened Session.table_orderly none _ _ _)
        Handler.Sound.step fun hsound hstep => hsound.balance .call (Handler.move_of_step hstep)
      have hstart : (Handler.opened ctx (Connection.tableFor none) none cancelled early ended).pending
          .call = 0 := rfl
      have hwrites := Handler.countP_write_of_run hrun
      have hcalls := Session.countP_call_le hrun
      omega
  | some opened =>
      have hnone : (seen log).countP Operation.write.begins = 0 := by
        rw [List.countP_eq_zero]
        intro a ha hbegins
        cases a with
        | write i line =>
            obtain ⟨τ, hτ, hact⟩ := List.mem_flatMap.1 ha
            obtain ⟨pre, post, rfl⟩ := List.append_of_mem hτ
            obtain ⟨hpre, hstep, _⟩ := hrun.at_step
            obtain ⟨_, _, hsession, _⟩ := (write_iff hpre (Handler.move_of_step hstep) i line).1 hact
            cases hsession
        | _ => cases hbegins
      omega

/-- The gateway itself writes to a peer at most once: when the shell of a session returns before the
tasks of the channel have been told to stop, and there is something to say. The writing has ended
when the stream is closed, and nothing else depends on it. On a forward, after a subsystem, after the
end of the requests and after a cancellation nothing is written. -/
theorem closing_line_written
    (hrun : Run (Handler.step ctx)
      (Handler.opened ctx (Connection.tableFor forwardOpen) forwardOpen cancelled early ended) log h) :
    WritesClosingLine ctx forwardOpen cancelled log := by
  constructor
  case once => exact countP_write_le hrun
  case writes =>
    rintro pre post τ rfl i line
    obtain ⟨hpre, hstep, _⟩ := hrun.at_step
    exact write_iff hpre (Handler.move_of_step hstep) i line
  case during =>
    rintro pre post τ rfl i line hmem
    obtain ⟨hpre, hstep, _⟩ := hrun.at_step
    obtain ⟨request, _, _, hwork, _, _, _, _, htarget⟩ :=
      Handler.write_of_move (Handler.move_of_step hstep) hmem
    have hopen : τ.source.phase.joined = false :=
      (Handler.sound_of_opened hpre).not_joined hwork (by simp)
    have hclosings : (seen pre).count .closeStream = 0 := by
      rw [← countP_closeStream, Handler.countP_close_of_run hpre rfl, hopen]
      rfl
    refine ⟨⟨request, exec_seen_of_write hpre hwork⟩, List.count_eq_zero.1 hclosings,
      fun hclose => ?_⟩
    have hclosing := (Handler.idle_of_closeStream (Handler.move_of_step hstep) hclose).2.2
    rw [htarget, Handler.mapScratch_phase] at hclosing
    rw [hclosing] at hopen
    cases hopen
  case before =>
    rintro pre post τ rfl hclose
    obtain ⟨hpre, hstep, hpost⟩ := hrun.at_step
    have hmove := Handler.move_of_step hstep
    obtain ⟨hphase, hidle, hclosing⟩ := Handler.idle_of_closeStream hmove hclose
    have hsource := Handler.sound_of_opened hpre
    constructor
    · have hnone : τ.source.pending .write = 0 := Handler.pending_write_of_idle hidle
      have hbalance := hpre.balance (Handler.sound_of_opened .nil) Handler.Sound.step
        fun hsound hstep => hsound.balance .write (Handler.move_of_step hstep)
      have hstart : (Handler.opened ctx (Connection.tableFor forwardOpen) forwardOpen cancelled early
          ended).pending .write = 0 := rfl
      omega
    · have hjoined : τ.target.phase.joined = true := by rw [hclosing]; rfl
      have hlater := Handler.unwritten_of_joined (hsource.step hstep) hpost hjoined
      have hnow : τ.acts.countP Operation.write.begins = 0 := by
        rw [List.countP_eq_zero]
        intro a ha hbegins
        cases a with
        | write i line =>
            obtain ⟨_, _, _, hwork, _⟩ := Handler.write_of_move hmove ha
            have hpos := Scratch.running_pos hwork (by simp)
            omega
        | _ => cases hbegins
      rw [seen_cons, List.countP_append, hnow, hlater]
  case harmless =>
    rintro pre post τ rfl
    obtain ⟨hpre, hstep, _⟩ := hrun.at_step
    constructor
    · intro i line hmem
      obtain ⟨request, _, _, hwork, _, _, _, _, htarget⟩ :=
        Handler.write_of_move (Handler.move_of_step hstep) hmem
      have hwriting : τ.target.scratch.works[i]? = some ⟨.exec request true, .writing line⟩ := by
        rw [htarget, Handler.mapScratch_scratch, Handler.getElem?_setStage, hwork]
        simp
      rw [Handler.step_of_move (.written hwriting), htarget, Handler.finishWork_setStage]
    · rintro i hevent
      generalize hacts : τ.acts = acts at hstep
      generalize htarget : τ.target = target at hstep
      rw [hevent] at hstep
      cases Handler.move_of_step hstep with
      | written _ => exact ⟨rfl, rfl⟩

/-- A shell fails after a second request for one has been refused. The peer sees the outermost
context of the failure, the warning tells all of them, and the stream is closed after that. -/
theorem closing_line_written_failed :
    ∃ log t, Run (Handler.step ⟨⟨"team", "ada"⟩, .standard⟩)
      (Handler.opened ⟨⟨"team", "ada"⟩, .standard⟩ (Connection.tableFor none) none false
        [⟨"shell", [], true⟩] false) log t ∧
      t.phase = .closed ∧
      (seen log).filter Act.isCall =
        [.exec 0 ⟨"team", "ada", ["bash"], false, false⟩,
          .write 0 "\r\nerror: pod is gone\r\n", .closeStream] ∧
      WritesClosingLine ⟨⟨"team", "ada"⟩, .standard⟩ none false log := by
  have hcheck : ∃ log t, Run (Handler.step ⟨⟨"team", "ada"⟩, .standard⟩)
      (Handler.opened ⟨⟨"team", "ada"⟩, .standard⟩ (Connection.tableFor none) none false
        [⟨"shell", [], true⟩] false) log t ∧
      t.phase = .closed ∧
      (seen log).filter Act.isCall =
        [.exec 0 ⟨"team", "ada", ["bash"], false, false⟩,
          .write 0 "\r\nerror: pod is gone\r\n", .closeStream] :=
    exists_run_of_replay [.advance, .advance, .run 0, .arrive ⟨"shell", [], true⟩, .advance,
      .returned 0 (.error ⟨"pod is gone", ["evicted"]⟩), .written 0, .advance, .advance,
      .streamClosed] (by decide +kernel)
  obtain ⟨log, t, hrun, hclosed, hseen⟩ := hcheck
  exact ⟨log, t, hrun, hclosed, hseen, closing_line_written hrun⟩

end

end SessionGateway.Channel
