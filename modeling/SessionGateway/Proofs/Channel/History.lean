import SessionGateway.Connection.Machine
import SessionGateway.Proofs.Channel.Answers

/-!
# The history of a session

A session remembers of the requests that it has taken whether one of them could start a command and
whether one of them asked for a terminal. This is all that its answers depend on, besides the room
in the queue of sizes, and so the answer to every request can be told from the requests before it.
-/

namespace SessionGateway.Channel

namespace Session

/-- The task that a request starts on a session without a command. -/
def job? (ctx : Context) (terminal : Bool) (r : ChannelRequest) : Option Job :=
  match r.asked? with
  | some .shell => some (.exec (ctx.exec ctx.config.shellCommand terminal) true)
  | some (.subsystem name) =>
    (ctx.config.subsystem? name).map fun path => .exec (ctx.exec [path] false) false
  | _ => none

/-- The terminal size that a request brings, if there is a command that might read it. -/
def broughtSize? (terminal : Bool) (r : ChannelRequest) : Option Terminal.Size :=
  match r.asked? with
  | some (.pty pty) => some pty.dimensions.size
  | some (.windowChange dimensions) => if terminal then some dimensions.size else none
  | _ => none

def offered (sizes : Terminal.SizeQueue) : Option Terminal.Size → Terminal.SizeQueue
  | none => sizes
  | some size =>
    match sizes.fill size with
    | .ok filled => filled
    | .error _ => sizes

theorem startable_eq (ctx : Context) (terminal : Bool) (r : ChannelRequest) :
    r.startable ctx.config = (job? ctx terminal r).isSome := by
  by_cases hname : r.name = "shell"
  · have hasked := ChannelRequest.asked_shell.2 hname
    simp [ChannelRequest.startable, job?, hname, hasked]
  · have hasked : r.asked? ≠ some .shell := fun h => hname (ChannelRequest.asked_shell.1 h)
    simp only [ChannelRequest.startable, job?, hname, decide_false, Bool.false_or]
    split
    · rename_i name hsubsystem
      simp [hsubsystem]
    · rename_i hother
      split
      · contradiction
      · rename_i name hsubsystem
        exact absurd hsubsystem (hother name)
      · rfl

/-- What a session changes when it handles a request. -/
structure Handled (ctx : Context) (r : ChannelRequest) (s t : Scratch) : Prop where
  command : t.commandStarted = (s.commandStarted || r.startable ctx.config)
  terminal : t.pty.isSome = (s.pty.isSome || r.asksTerminal)
  works : t.works = s.works ++
    (if s.commandStarted then none else job? ctx s.pty.isSome r).toList.map fun job => ⟨job, .ready⟩
  sizes : t.sizes = offered s.sizes (broughtSize? s.pty.isSome r)

variable {ctx : Context} {s : Scratch} {raw : ChannelRequest}

theorem handled_handlerFor {request : Request} (hasked : raw.asked? = some request) (p : Pending)
    (hrequest : p.request = request) :
    Handled ctx raw s ((handlerFor request.kind).run ctx p s).2.1 := by
  have hstartable := startable_eq ctx s.pty.isSome raw
  cases request with
  | shell =>
      simp only [Request.kind, handlerFor, onShell]
      cases hstarted : s.commandStarted <;>
        exact ⟨by simp [hstartable, job?, hasked, hstarted, start, Scratch.spawn],
          by simp [ChannelRequest.asksTerminal, hasked, start, Scratch.spawn],
          by simp [job?, hasked, hstarted, start, Scratch.spawn],
          by simp [broughtSize?, hasked, offered, start, Scratch.spawn]⟩
  | pty pty =>
      simp only [Request.kind, handlerFor, onPty, hrequest]
      cases hfill : s.sizes.fill pty.dimensions.size <;>
        exact ⟨by simp [hstartable, job?, hasked], by simp [ChannelRequest.asksTerminal, hasked],
          by simp [job?, hasked], by simp [broughtSize?, hasked, offered, hfill]⟩
  | windowChange dimensions =>
      simp only [Request.kind, handlerFor, onWindowChange, hrequest]
      cases hpty : s.pty with
      | none =>
          exact ⟨by simp [hstartable, job?, hasked],
            by simp [ChannelRequest.asksTerminal, hasked, hpty],
            by simp [job?, hasked], by simp [broughtSize?, hasked, offered, hpty]⟩
      | some pty =>
          cases hfill : s.sizes.fill dimensions.size <;>
            exact ⟨by simp [hstartable, job?, hasked],
              by simp [ChannelRequest.asksTerminal, hasked, hpty],
              by simp [job?, hasked], by simp [broughtSize?, hasked, offered, hpty, hfill]⟩
  | subsystem name =>
      simp only [Request.kind, handlerFor, onSubsystem, hrequest]
      cases hpath : ctx.config.subsystem? name with
      | none =>
          exact ⟨by simp [hstartable, job?, hasked, hpath],
            by simp [ChannelRequest.asksTerminal, hasked], by simp [job?, hasked, hpath],
            by simp [broughtSize?, hasked, offered]⟩
      | some path =>
          cases hstarted : s.commandStarted <;>
            exact ⟨by simp [hstartable, job?, hasked, hpath, hstarted, start, Scratch.spawn],
              by simp [ChannelRequest.asksTerminal, hasked, start, Scratch.spawn],
              by simp [job?, hasked, hpath, hstarted, start, Scratch.spawn],
              by simp [broughtSize?, hasked, offered, start, Scratch.spawn]⟩
  | other name =>
      simp only [Request.kind, handlerFor, refuse]
      exact ⟨by simp [hstartable, job?, hasked], by simp [ChannelRequest.asksTerminal, hasked],
        by simp [job?, hasked], by simp [broughtSize?, hasked, offered]⟩

theorem handled_dispatch (n : Nat) : Handled ctx raw s (table.dispatch ctx n raw s).1 := by
  cases hasked : raw.asked? with
  | none =>
      have hstartable := startable_eq ctx s.pty.isSome raw
      rw [(Table.dispatch_malformed hasked).1]
      exact ⟨by simp [hstartable, job?, hasked], by simp [ChannelRequest.asksTerminal, hasked],
        by simp [job?, hasked], by simp [broughtSize?, hasked, offered]⟩
  | some request =>
      rw [(Table.dispatch_single hasked (handlers_table _) (reply_handlerFor hasked)).1]
      exact handled_handlerFor hasked _ rfl

/-- The tasks that a history of requests starts on a session. -/
def jobs (ctx : Context) (started terminal : Bool) : List ChannelRequest → List Job
  | [] => []
  | r :: rest =>
    (if started then none else job? ctx terminal r).toList ++
      jobs ctx (started || r.startable ctx.config) (terminal || r.asksTerminal) rest

theorem jobs_append (started terminal : Bool) (first second : List ChannelRequest) :
    jobs ctx started terminal (first ++ second) = jobs ctx started terminal first ++
      jobs ctx (started || first.any (·.startable ctx.config))
        (terminal || first.any (·.asksTerminal)) second := by
  induction first generalizing started terminal with
  | nil => simp [jobs]
  | cons r rest ih =>
      simp only [List.cons_append, jobs, ih, List.any_cons, List.append_assoc, Bool.or_assoc]

/-- What a session remembers of the requests that it has taken, and the tasks that it has started
for them. -/
structure Remembers (ctx : Context) (history : List ChannelRequest) (s : Scratch) : Prop where
  command : s.commandStarted = history.any (·.startable ctx.config)
  terminal : s.pty.isSome = history.any (·.asksTerminal)
  jobs : s.works.map Work.job = jobs ctx false false history

theorem Remembers.take {history : List ChannelRequest} {t : Scratch}
    (hknown : Remembers ctx history s) (hhandled : Handled ctx raw s t) :
    Remembers ctx (history ++ [raw]) t where
  command := by
    rw [hhandled.command, hknown.command]
    simp
  terminal := by
    rw [hhandled.terminal, hknown.terminal]
    simp
  jobs := by
    rw [hhandled.works, List.map_append, hknown.jobs, jobs_append, ← hknown.command,
      ← hknown.terminal]
    simp [Session.jobs, Function.comp_def]

theorem Remembers.keep {history : List ChannelRequest} {h t : Handler} {e : Event} {acts : List Act}
    (hknown : Remembers ctx history h.scratch) (htable : h.table = table)
    (htakes : h.takes? e = none) (hmove : Handler.Move ctx h e acts t) :
    Remembers ctx history t.scratch := by
  obtain ⟨hcommand, hterminal, hjobs⟩ := hknown
  cases hmove with
  | start _ =>
      have hstartup : h.table.startup = [] := by rw [htable]; rfl
      rw [hstartup]
      exact ⟨hcommand, hterminal, hjobs⟩
  | take hphase hopen hqueue => simp [Handler.takes?, hphase, hopen, hqueue] at htakes
  | call _ _ | write _ _ _ =>
      exact ⟨hcommand, hterminal, by simpa using hjobs⟩
  | brief _ | join _ _ | execEnds _ _ | forwardEnds _ | written _ =>
      exact ⟨by simpa using hcommand, by simpa using hterminal, by simpa using hjobs⟩
  | _ => exact ⟨hcommand, hterminal, hjobs⟩

theorem remembers_of_run {forwardOpen : Option ForwardOpen} {cancelled ended : Bool}
    {early : List ChannelRequest} {log : Log} {h : Handler}
    (hrun : Run (Handler.step ctx) (Handler.opened ctx table forwardOpen cancelled early ended)
      log h) : Remembers ctx (processed log) h.scratch := by
  induction hrun with
  | nil => exact ⟨rfl, rfl, rfl⟩
  | @snoc log h t e acts hbefore hstep ih =>
      have hserved := served_of_run table_orderly table_answering hbefore
      rw [processed_append, processed_cons, processed_nil, List.append_nil]
      cases htakes : h.takes? e with
      | none =>
          rw [Option.toList_none, List.append_nil]
          exact ih.keep hserved.table htakes (Handler.move_of_step hstep)
      | some raw =>
          rw [Option.toList_some]
          cases Handler.turn_of_step hstep with
          | @take first rest hphase hopen hqueue =>
              obtain rfl : first = raw := by
                simpa [Handler.takes?, hphase, hopen, hqueue] using htakes
              refine ih.take ?_
              rw [hserved.table]
              exact handled_dispatch h.taken
          | leave _ hend => rw [Handler.takes_of_end hend] at htakes; cases htakes
          | idle hidle => rw [hidle.takes] at htakes; cases htakes

end Session

/-! ## Every request is settled once -/

section

variable {ctx : Context} {forwardOpen : Option ForwardOpen} {cancelled ended : Bool}
  {early : List ChannelRequest} {log : Log} {h : Handler}

/-- The answer to a request for which the requests `before` have been taken and the queue of sizes
is `sizes`. A channel that was opened as a forward refuses everything. -/
def answerAfter (config : Config) (forwardOpen : Option ForwardOpen)
    (before : List ChannelRequest) (sizes : Terminal.SizeQueue) (r : ChannelRequest) : Bool :=
  match forwardOpen with
  | some _ => false
  | none => Session.answer config (before.any (·.startable config)) (before.any (·.asksTerminal))
      sizes r

/-- The tables of both kinds of channel are orderly, and answer as the history of the requests
tells. -/
theorem served_of_opened
    (hrun : Run (Handler.step ctx)
      (Handler.opened ctx (Connection.tableFor forwardOpen) forwardOpen cancelled early ended)
      log h) :
    ∃ value, (Connection.tableFor forwardOpen).Answering value ∧
      Served (Connection.tableFor forwardOpen) early log h ∧
      ∀ r, value ctx h.scratch r =
        answerAfter ctx.config forwardOpen (processed log) h.scratch.sizes r := by
  cases forwardOpen with
  | some opened =>
      exact ⟨_, Forward.table_answering,
        served_of_run Forward.table_orderly Forward.table_answering hrun, fun _ => rfl⟩
  | none =>
      have hknown := Session.remembers_of_run hrun
      refine ⟨_, Session.table_answering,
        served_of_run Session.table_orderly Session.table_answering hrun, fun r => ?_⟩
      rw [answerAfter, hknown.command, hknown.terminal]

/-- Once a channel has left its loop, every request that has arrived and wants an answer has either
been answered once or been destroyed once. -/
theorem Served.settled {table : Table} (hserved : Served table early log h)
    (hleft : h.phase.left = true) {i : Nat} {r : ChannelRequest}
    (hrequest : (early ++ arrived log)[i]? = some r) (hwant : r.wantReply = true) :
    ((answers (seen log)).map Prod.fst).count i = (if i < (processed log).length then 1 else 0) ∧
      (forgone (seen log)).count i = if i < (processed log).length then 0 else 1 := by
  obtain ⟨rest, hall, hforgone⟩ := hserved.dropped hleft
  have hpresent : ((early ++ arrived log)[i]?).any (·.wantReply) = true := by
    rw [hrequest]
    exact hwant
  rw [hall] at hpresent
  rw [hserved.answered, hforgone, count_wantedFrom, count_wantedFrom]
  by_cases hprocessed : i < (processed log).length
  · rw [List.getElem?_append_left hprocessed] at hpresent
    have hlow : ¬ (processed log).length ≤ i := by omega
    rw [if_pos ⟨Nat.zero_le i, hpresent⟩, if_pos hprocessed, if_pos hprocessed,
      if_neg fun h => hlow h.1]
    exact ⟨rfl, rfl⟩
  · have hhigh : (processed log).length ≤ i := by omega
    have hnone : (processed log)[i]? = none := List.getElem?_eq_none hhigh
    rw [List.getElem?_append_right hhigh] at hpresent
    rw [if_neg (by simp [hnone]), if_neg hprocessed, if_neg hprocessed, if_pos ⟨hhigh, hpresent⟩]
    exact ⟨rfl, rfl⟩

theorem Session.offers_step {h t : Handler} {e : Event} {acts : List Act} {r : ChannelRequest}
    (hknown : Session.Remembers ctx (processed log) h.scratch) (htable : h.table = Session.table)
    (htakes : h.takes? e = some r) (hturn : h.Turn ctx e acts t) :
    t.scratch.sizes = Session.offered h.scratch.sizes
      (Session.broughtSize? ((processed log).any (·.asksTerminal)) r) := by
  cases hturn with
  | @take raw rest hphase hopen hqueue =>
      obtain rfl : raw = r := by simpa [Handler.takes?, hphase, hopen, hqueue] using htakes
      have hhandled : Session.Handled ctx raw h.scratch
          (h.table.dispatch ctx h.taken raw h.scratch).1 := by
        rw [htable]
        exact Session.handled_dispatch h.taken
      rw [← hknown.terminal]
      exact hhandled.sizes
  | leave _ hend => rw [Handler.takes_of_end hend] at htakes; cases htakes
  | idle hidle => rw [hidle.takes] at htakes; cases htakes

/-- What a channel does with its requests. Each step answers the request that it takes, with the
answer that the history tells, and no other; so requests are answered in the order of their arrival.
A session offers the size that a request brings to its queue in the same step. Requests that are not
taken when the channel leaves its loop are destroyed without an answer, and once the stream is
closed no request that has arrived waits for an answer any more. -/
theorem requests_settled_once
    (hrun : Run (Handler.step ctx)
      (Handler.opened ctx (Connection.tableFor forwardOpen) forwardOpen cancelled early ended)
      log h) :
    (∀ pre τ post, log = pre ++ τ :: post →
      answers τ.acts = match τ.source.takes? τ.event with
        | some r =>
          if r.wantReply then [((processed pre).length, answerAfter ctx.config forwardOpen
            (processed pre) τ.source.scratch.sizes r)] else []
        | none => []) ∧
    (∀ pre τ post r, log = pre ++ τ :: post → τ.source.takes? τ.event = some r →
      forwardOpen = none → τ.target.scratch.sizes = Session.offered τ.source.scratch.sizes
        (Session.broughtSize? ((processed pre).any (·.asksTerminal)) r)) ∧
    (answers (seen log)).map Prod.fst = wantedFrom 0 (processed log) ∧
    (∃ rest, early ++ arrived log = processed log ++ rest ∧
      forgone (seen log) =
        if h.phase.left then wantedFrom (processed log).length rest else []) ∧
    (Act.closeStream ∈ seen log → ∀ i r, (early ++ arrived log)[i]? = some r → r.wantReply →
      ((answers (seen log)).map Prod.fst).count i = (if i < (processed log).length then 1 else 0) ∧
        (forgone (seen log)).count i = if i < (processed log).length then 0 else 1) := by
  obtain ⟨_, _, hserved, _⟩ := served_of_opened hrun
  refine ⟨?_, ?_, hserved.answered, ?_, ?_⟩
  · rintro pre τ post rfl
    obtain ⟨hpre, hstep, _⟩ := hrun.at_step
    obtain ⟨value, hanswering, hbefore, hvalue⟩ := served_of_opened hpre
    rw [hbefore.answers_step hanswering (Handler.turn_of_step hstep)]
    cases τ.source.takes? τ.event with
    | none => rfl
    | some r => simp only [hvalue]
  · rintro pre τ post r rfl htakes rfl
    obtain ⟨hpre, hstep, _⟩ := hrun.at_step
    have hbefore := served_of_run Session.table_orderly Session.table_answering hpre
    exact Session.offers_step (Session.remembers_of_run hpre) hbefore.table htakes
      (Handler.turn_of_step hstep)
  · cases hleft : h.phase.left with
    | false =>
        obtain ⟨hall, hnone⟩ := hserved.waiting hleft
        exact ⟨h.inbox.queued, hall, hnone⟩
    | true => exact hserved.dropped hleft
  · intro hclose i r hrequest hwant
    have hcount := Handler.countP_close_of_run hrun rfl
    have hpos : 0 < (seen log).countP Operation.close.begins :=
      List.countP_pos_iff.2 ⟨_, hclose, rfl⟩
    have hjoined : h.phase.joined = true := by
      by_cases hphase : h.phase.joined = true
      · exact hphase
      · simp [hcount, hphase] at hpos
    exact hserved.settled (Phase.left_of_joined hjoined) hrequest hwant

/-- A session that has a terminal takes a new size and starts a shell. It is closed while the shell
runs, and the last of its five requests is destroyed. -/
theorem requests_settled_once_shell :
    ∃ log h, Run (Handler.step ⟨⟨"team", "ada"⟩, .standard⟩)
      (Handler.opened ⟨⟨"team", "ada"⟩, .standard⟩ (Connection.tableFor none) none false
        [⟨"pty-req", List.replicate 24 0, true⟩] false) log h ∧
      answers (seen log) = [(0, true), (1, true), (2, true), (3, false)] ∧
      ((answers (seen log)).map Prod.fst).count 4 = 0 ∧ (forgone (seen log)).count 4 = 1 := by
  have hcheck : ∃ log h, Run (Handler.step ⟨⟨"team", "ada"⟩, .standard⟩)
      (Handler.opened ⟨⟨"team", "ada"⟩, .standard⟩ (Connection.tableFor none) none false
        [⟨"pty-req", List.replicate 24 0, true⟩] false) log h ∧
      Act.closeStream ∈ seen log ∧
      answers (seen log) = [(0, true), (1, true), (2, true), (3, false)] ∧
      ([⟨"pty-req", List.replicate 24 0, true⟩] ++ arrived log)[4]? = some ⟨"env", [], true⟩ ∧
      (processed log).length = 4 :=
    exists_run_of_replay
      [.advance, .advance, .arrive ⟨"window-change", List.replicate 16 0, true⟩, .advance,
        .arrive ⟨"shell", [], true⟩, .advance, .run 0, .arrive ⟨"subsystem", [7], true⟩, .advance,
        .arrive ⟨"env", [], true⟩, .cancel, .advance, .returned 0 (.ok ()), .advance]
      (by decide +kernel)
  obtain ⟨log, h, hrun, hclose, hanswers, hlast, htaken⟩ := hcheck
  have hsettled := (requests_settled_once hrun).2.2.2.2 hclose 4 _ hlast rfl
  rw [htaken] at hsettled
  exact ⟨log, h, hrun, hanswers, hsettled⟩

end

end SessionGateway.Channel
