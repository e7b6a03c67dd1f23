import SessionGateway.Proofs.Channel.Calls
import SessionGateway.Proofs.Channel.History

/-!
# The command of a session

A session runs one command, which the first startable request starts: a shell, or a subsystem that
is configured. Requests before it that cannot be started leave the session's command unused, and
every later one is refused. The command has a terminal if it is a shell and a request for a terminal
came before it.
-/

namespace SessionGateway.Channel

def Act.isExec : Act → Bool
  | .exec _ _ => true
  | _ => false

namespace Session

variable {ctx : Context}

/-- A request is the first that can start a command, and this is the command that it starts. -/
structure Commands (ctx : Context) (before : List ChannelRequest) (r : ChannelRequest)
    (request : ExecRequest) : Prop where
  first : before.any (·.startable ctx.config) = false
  startable : r.startable ctx.config = true
  tty : request.tty = (r.name = "shell" && before.any (·.asksTerminal))
  takesSizes : request.takesSizes = request.tty
  command : (r.name = "shell" ∧ request.command = ctx.config.shellCommand) ∨
    ∃ name path, r.asked? = some (.subsystem name) ∧ ctx.config.subsystem? name = some path ∧
      request.command = [path]

theorem commands_of_job {before : List ChannelRequest} {r : ChannelRequest} {job : Job}
    (hfirst : before.any (·.startable ctx.config) = false)
    (hjob : job? ctx (before.any (·.asksTerminal)) r = some job) :
    ∃ request interactive, job = .exec request interactive ∧ Commands ctx before r request := by
  have hstartable : r.startable ctx.config = true := by
    rw [startable_eq ctx (before.any (·.asksTerminal)), hjob]
    rfl
  unfold job? at hjob
  split at hjob
  · rename_i hasked
    have hname := ChannelRequest.asked_shell.1 hasked
    obtain rfl := Option.some.inj hjob
    exact ⟨_, true, rfl, hfirst, hstartable, by simp [hname, Context.exec], rfl,
      .inl ⟨hname, rfl⟩⟩
  · rename_i name hasked
    have hname : ¬ r.name = "shell" := by
      rw [← ChannelRequest.asked_shell, hasked]
      simp
    obtain ⟨path, hpath, rfl⟩ := Option.map_eq_some_iff.1 hjob
    exact ⟨_, false, rfl, hfirst, hstartable, by simp [hname, Context.exec], rfl,
      .inr ⟨name, path, hasked, hpath, rfl⟩⟩
  · cases hjob

theorem jobs_started (terminal : Bool) (history : List ChannelRequest) :
    jobs ctx true terminal history = [] := by
  induction history generalizing terminal with
  | nil => rfl
  | cons r rest ih => simpa [jobs] using ih (terminal || r.asksTerminal)

/-- The task of a history is that of its first startable request. -/
theorem mem_jobs {terminal : Bool} {history : List ChannelRequest} {job : Job}
    (hjob : job ∈ jobs ctx false terminal history) :
    ∃ before r after, history = before ++ r :: after ∧
      before.any (·.startable ctx.config) = false ∧
      job? ctx (terminal || before.any (·.asksTerminal)) r = some job := by
  induction history generalizing terminal with
  | nil => simp [jobs] at hjob
  | cons r rest ih =>
      have hstartable := startable_eq ctx terminal r
      cases hfirst : job? ctx terminal r with
      | some own =>
          rw [hfirst] at hstartable
          obtain rfl : job = own := by
            simpa [jobs, hfirst, hstartable, jobs_started] using hjob
          exact ⟨[], r, rest, rfl, rfl, by simpa using hfirst⟩
      | none =>
          rw [hfirst] at hstartable
          have hlater : job ∈ jobs ctx false (terminal || r.asksTerminal) rest := by
            simpa [jobs, hfirst, hstartable] using hjob
          obtain ⟨before, found, after, hrest, hnone, hfound⟩ := ih hlater
          refine ⟨r :: before, found, after, by rw [hrest]; rfl, ?_, ?_⟩
          · simpa [hstartable] using hnone
          · simpa [Bool.or_assoc] using hfound

theorem length_jobs (terminal : Bool) (history : List ChannelRequest) :
    (jobs ctx false terminal history).length ≤ 1 := by
  induction history generalizing terminal with
  | nil => simp [jobs]
  | cons r rest ih =>
      have hstartable := startable_eq ctx terminal r
      cases hfirst : job? ctx terminal r with
      | some own =>
          rw [hfirst] at hstartable
          simp [jobs, hfirst, hstartable, jobs_started]
      | none =>
          rw [hfirst] at hstartable
          simpa [jobs, hfirst, hstartable] using ih (terminal || r.asksTerminal)

variable {cancelled ended : Bool} {early : List ChannelRequest} {log : Log} {h t : Handler}
  {e : Event} {acts : List Act}

/-- What a session has called for is the command of its first startable request. -/
theorem commands_of_exec
    (hrun : Run (Handler.step ctx) (Handler.opened ctx table none cancelled early ended) log h)
    {i : Nat} {request : ExecRequest} (hexec : Act.exec i request ∈ seen log) :
    i = 0 ∧ ∃ before r after, processed log = before ++ r :: after ∧
      Commands ctx before r request := by
  have hsound : (Handler.opened ctx table none cancelled early ended).Sound :=
    Handler.sound_opened table_orderly none cancelled early ended
  have hjobs := (remembers_of_run hrun).jobs
  have hcalls := hsound.calls_of_run rfl hrun i
  have hmem : Act.exec i request ∈ (seen log).filter (Act.calledBy i) := by
    rw [List.mem_filter]
    exact ⟨hexec, by simp [Act.calledBy]⟩
  rw [hcalls, Option.mem_toList] at hmem
  obtain ⟨w, hwork, hcalled⟩ := Option.bind_eq_some_iff.1 hmem
  -- There is at most one task, so the task that has called has number zero.
  have hlength : h.scratch.works.length ≤ 1 := by
    rw [← List.length_map Work.job, hjobs]
    exact length_jobs false (processed log)
  have hindex : i < h.scratch.works.length := (List.getElem?_eq_some_iff.1 hwork).1
  have hjob : w.job ∈ jobs ctx false false (processed log) := by
    rw [← hjobs]
    exact List.mem_map_of_mem (List.mem_of_getElem? hwork)
  obtain ⟨before, r, after, hhistory, hnone, hfirst⟩ := mem_jobs hjob
  rw [Bool.false_or] at hfirst
  obtain ⟨own, interactive, hown, hcommands⟩ := commands_of_job hnone hfirst
  have hsame : own = request := by
    unfold Work.called? at hcalled
    split at hcalled
    · cases hcalled
    · rw [hown] at hcalled
      simpa [Job.callAct?] using hcalled
  rw [← hsame]
  exact ⟨by omega, before, r, after, hhistory, hcommands⟩

theorem starts_step (hknown : Remembers ctx (processed log) h.scratch) (htable : h.table = table)
    (hturn : h.Turn ctx e acts t) {r : ChannelRequest} (htakes : h.takes? e = some r)
    (hstartable : r.startable ctx.config = true)
    (hfirst : (processed log).any (·.startable ctx.config) = false) :
    ∃ request interactive, h.scratch.works = [] ∧
      t.scratch.works = [⟨.exec request interactive, .ready⟩] ∧
      Commands ctx (processed log) r request := by
  -- A task that is there already would have been started for a startable request before.
  have hempty : h.scratch.works = [] := by
    cases hjobs : jobs ctx false false (processed log) with
    | nil =>
        have hmap := hknown.jobs
        rw [hjobs] at hmap
        exact List.map_eq_nil_iff.1 hmap
    | cons job rest =>
        have hjob : job ∈ jobs ctx false false (processed log) := by
          rw [hjobs]
          exact List.mem_cons_self
        obtain ⟨before, found, after, hhistory, _, hfound⟩ := mem_jobs hjob
        have hstarts : found.startable ctx.config = true := by
          rw [startable_eq, hfound]
          rfl
        rw [hhistory] at hfirst
        simp [hstarts] at hfirst
  cases hturn with
  | @take raw rest hphase hopen hqueue =>
      obtain rfl : raw = r := by simpa [Handler.takes?, hphase, hopen, hqueue] using htakes
      have hhandled : Handled ctx raw h.scratch
          (h.table.dispatch ctx h.taken raw h.scratch).1 := by
        rw [htable]
        exact handled_dispatch h.taken
      have hworks := hhandled.works
      rw [startable_eq ctx ((processed log).any (·.asksTerminal))] at hstartable
      obtain ⟨job, hjob⟩ := Option.isSome_iff_exists.1 hstartable
      obtain ⟨request, interactive, rfl, hcommands⟩ := commands_of_job hfirst hjob
      rw [hknown.command, hfirst, hknown.terminal, hempty, hjob] at hworks
      exact ⟨request, interactive, hempty, hworks, hcommands⟩
  | leave _ hend => rw [Handler.takes_of_end hend] at htakes; cases htakes
  | idle hidle => rw [hidle.takes] at htakes; cases htakes

theorem jobs_step
    (hrun : Run (Handler.step ctx) (Handler.opened ctx table none cancelled early ended) log h)
    (hstep : h.step ctx e = some (t, acts))
    (hother : ∀ r, h.takes? e = some r → r.startable ctx.config = true →
      (processed log).any (·.startable ctx.config) = true) :
    t.scratch.works.map Work.job = h.scratch.works.map Work.job := by
  have hafter := (remembers_of_run (hrun.snoc hstep)).jobs
  rw [hafter, (remembers_of_run hrun).jobs, processed_append, jobs_append, processed_cons,
    processed_nil, List.append_nil, Bool.false_or, Bool.false_or]
  cases hstarted : (processed log).any (·.startable ctx.config) with
  | true => rw [jobs_started, List.append_nil]
  | false =>
      cases htakes : h.takes? e with
      | none => simp [jobs]
      | some r =>
          have hnot : r.startable ctx.config = false := by
            rw [Bool.eq_false_iff]
            intro hstartable
            have hbefore := hother r htakes hstartable
            rw [hstarted] at hbefore
            cases hbefore
          rw [startable_eq ctx ((processed log).any (·.asksTerminal))] at hnot
          have hnone : job? ctx ((processed log).any (·.asksTerminal)) r = none := by
            simpa using hnot
          simp [jobs, hnone]

/-- A session runs one command. The cluster is asked to run at most one, for the first startable
request of the history, and the task that asks is started in the step that takes this request; no
other step starts a task. A request for a shell or for a subsystem is granted if it is this one, and
refused otherwise. -/
theorem one_command
    (hrun : Run (Handler.step ctx) (Handler.opened ctx table none cancelled early ended) log h) :
    (seen log).countP Act.isExec ≤ 1 ∧
    (∀ i request, Act.exec i request ∈ seen log → ∃ before r after,
      processed log = before ++ r :: after ∧ Commands ctx before r request) ∧
    (∀ pre τ post, log = pre ++ τ :: post →
      (∀ r, τ.source.takes? τ.event = some r → r.startable ctx.config →
        (processed pre).any (·.startable ctx.config) = false →
        ∃ request interactive, τ.source.scratch.works = [] ∧
          τ.target.scratch.works = [⟨.exec request interactive, .ready⟩] ∧
          Commands ctx (processed pre) r request) ∧
      ((∀ r, τ.source.takes? τ.event = some r → r.startable ctx.config →
          (processed pre).any (·.startable ctx.config) = true) →
        τ.target.scratch.works.map Work.job = τ.source.scratch.works.map Work.job) ∧
      ∀ r, τ.source.takes? τ.event = some r → r.wantReply →
        (r.name = "shell" ∨ ∃ name, r.asked? = some (.subsystem name)) →
        answers τ.acts = [((processed pre).length,
          r.startable ctx.config && !(processed pre).any (·.startable ctx.config))]) := by
  refine ⟨?_, fun i request hexec => (commands_of_exec hrun hexec).2, ?_⟩
  · have hsound : (Handler.opened ctx table none cancelled early ended).Sound :=
      Handler.sound_opened table_orderly none cancelled early ended
    calc (seen log).countP Act.isExec
        ≤ (seen log).countP (Act.calledBy 0) := by
          apply List.countP_mono_left
          intro a ha hexec
          cases a with
          | exec i request => simp [Act.calledBy, (commands_of_exec hrun ha).1]
          | _ => cases hexec
      _ = (h.scratch.called? 0).toList.length := by
          rw [List.countP_eq_length_filter, hsound.calls_of_run rfl hrun 0]
      _ ≤ 1 := Option.length_toList_le
  · rintro pre τ post rfl
    obtain ⟨hpre, hstep, _⟩ := hrun.at_step
    have hknown := remembers_of_run hpre
    have hserved := served_of_run table_orderly table_answering hpre
    have hturn := Handler.turn_of_step hstep
    refine ⟨fun r htakes hstartable hfirst =>
      starts_step hknown hserved.table hturn htakes hstartable hfirst, jobs_step hpre hstep, ?_⟩
    intro r htakes hwant hkind
    have hasked : r.asked? = some .shell ∨ ∃ name, r.asked? = some (.subsystem name) := by
      rw [ChannelRequest.asked_shell]
      exact hkind
    rw [hserved.answers_step table_answering hturn, htakes]
    simp only [hwant, if_true]
    rw [← hknown.command]
    rcases hasked with hasked | ⟨name, hasked⟩ <;> simp [answer, hasked]

/-- A subsystem that does not decode leaves the command to the shell, which has a terminal; the
second shell is refused. -/
theorem one_command_shell :
    ∃ log h, Run (Handler.step ⟨⟨"team", "ada"⟩, .standard⟩)
      (Handler.opened ⟨⟨"team", "ada"⟩, .standard⟩ table none false
        [⟨"pty-req", List.replicate 24 0, true⟩, ⟨"subsystem", [7], true⟩, ⟨"shell", [], true⟩,
          ⟨"shell", [], true⟩] false) log h ∧
      answers (seen log) = [(0, true), (1, false), (2, true), (3, false)] ∧
      (seen log).countP Act.isExec = 1 := by
  have hcheck : ∃ log h, Run (Handler.step ⟨⟨"team", "ada"⟩, .standard⟩)
      (Handler.opened ⟨⟨"team", "ada"⟩, .standard⟩ table none false
        [⟨"pty-req", List.replicate 24 0, true⟩, ⟨"subsystem", [7], true⟩, ⟨"shell", [], true⟩,
          ⟨"shell", [], true⟩] false) log h ∧
      answers (seen log) = [(0, true), (1, false), (2, true), (3, false)] ∧
      0 < (seen log).countP Act.isExec :=
    exists_run_of_replay [.advance, .advance, .advance, .advance, .run 0, .advance]
      (by decide +kernel)
  obtain ⟨log, h, hrun, hanswers, hcalled⟩ := hcheck
  have honce := (one_command hrun).1
  exact ⟨log, h, hrun, hanswers, by omega⟩

end Session

end SessionGateway.Channel
