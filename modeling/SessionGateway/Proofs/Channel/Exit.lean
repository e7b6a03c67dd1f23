import SessionGateway.Proofs.Channel.Dispatch
import SessionGateway.Proofs.Channel.Sizes

/-!
# The end of a channel

Whatever makes a channel leave its loop, the same follows. No callback runs any more, and the queue
of sizes is closed at once, so that consumers are served without the tasks. The stream is closed
once, after the tasks have been told to stop and have ended, and the channel's own task returns only
then. A task that ends, unless it only waited to be told to stop, makes the channel leave its loop.
-/

namespace SessionGateway.Channel

namespace Handler

variable {ctx : Context} {h t : Handler} {e : Event} {acts : List Act} {log : Log}

/-! ## What is kept -/

theorem left_of_move (hmove : Move ctx h e acts t) (hleft : h.phase.left = true) :
    t.phase.left = true := by
  cases turn_of_move hmove with
  | take _ _ _ => exact hleft
  | leave _ _ => rfl
  | idle hidle => rw [hidle.left, hleft]

theorem left_of_run (hrun : Run (Handler.step ctx) h log t) (hleft : h.phase.left = true) :
    t.phase.left = true :=
  hrun.invariant (P := fun s => s.phase.left = true) hleft fun hleft hstep =>
    left_of_move (move_of_step hstep) hleft

/-- Callbacks run only in steps after which the channel is in its loop. -/
theorem uninvoked_of_left (hmove : Move ctx h e acts t) (hleft : t.phase.left = true) :
    invocations acts = [] := by
  cases calls_of_move hmove with
  | startup _ _ hserving | request _ _ hserving =>
      rw [hserving] at hleft
      cases hleft
  | none _ _ hquiet => exact hquiet

theorem ended_of_move (hmove : Move ctx h e acts t) (hended : h.inbox.ended = true) :
    t.inbox.ended = true := by
  cases hmove with
  | arrive r =>
      show (h.inbox.send r).ended = true
      unfold Inbox.send
      split <;> exact hended
  | hangUp => rfl
  | brief _ | join _ _ | execEnds _ _ | forwardEnds _ | written _ => simpa using hended
  | _ => exact hended

/-- The queue of sizes is closed in the step with which the channel leaves its loop. -/
theorem sizes_closed_of_move (hmove : Move ctx h e acts t)
    (hkept : h.phase.left = true → h.scratch.sizes.closed = true) (hleft : t.phase.left = true) :
    t.scratch.sizes.closed = true := by
  cases hmove with
  | leave _ _ => rfl
  | start _ => cases hleft
  | take hphase _ _ =>
      have hnot : h.phase.left = false := by rw [hphase]; rfl
      cases hnot.symm.trans hleft
  | close hphase _ => exact hkept (by rw [hphase]; rfl)
  | streamClosed hphase => exact hkept (by rw [hphase]; rfl)
  | pollSize hpoll =>
      have hgives := Terminal.SizeQueue.gives_of_poll hpoll
      exact hgives.closed.trans (hkept hleft)
  | serveSize hserve =>
      have hgives := Terminal.SizeQueue.gives_of_serve hserve
      exact hgives.closed.trans (hkept hleft)
  | awaitSize _ | abandonSize _ => exact hkept hleft
  | _ => simpa using hkept (by simpa using hleft)

theorem sizes_closed_of_run (hrun : Run (Handler.step ctx) h log t) (hstart : h.phase.left = false)
    (hleft : t.phase.left = true) : t.scratch.sizes.closed = true := by
  have hkept : t.phase.left = true → t.scratch.sizes.closed = true := by
    apply hrun.invariant (P := fun h => h.phase.left = true → h.scratch.sizes.closed = true)
    · intro hleft
      cases hstart.symm.trans hleft
    · intro s u e acts hkept hstep
      exact sizes_closed_of_move (move_of_step hstep) hkept
  exact hkept hleft

/-! ## Closing the stream -/

/-- The stream is closed only when no task of the channel runs. -/
theorem idle_of_closeStream (hmove : Move ctx h e acts t) (hmem : .closeStream ∈ acts) :
    h.phase = .draining ∧ h.scratch.running = 0 ∧ t.phase = .closing := by
  have hnone : ∀ acts : List Act, (∀ a ∈ acts, a.isCall = false) → .closeStream ∉ acts := by
    intro acts hquiet hmem
    cases hquiet _ hmem
  cases hmove with
  | close hphase hidle => exact ⟨hphase, hidle, rfl⟩
  | start _ => exact absurd hmem (hnone _ Table.runStartup_isCall)
  | take _ _ _ => exact absurd hmem (hnone _ Table.dispatch_isCall)
  | leave _ _ => exact absurd hmem (hnone _ forgoFrom_isCall)
  | @call i job act _ hact =>
      cases job <;> simp only [Job.callAct?, Option.some.injEq, reduceCtorEq] at hact <;>
        subst hact <;> simp at hmem
  | @execEnds i request interactive outcome _ _ =>
      split at hmem
      · cases hmem
      · cases (warnings_isReport outcome).1 _ hmem
  | @write i request interactive outcome _ _ _ =>
      rcases List.mem_append.1 hmem with hmem | hmem
      · cases (warnings_isReport outcome).1 _ hmem
      · simp at hmem
  | @forwardEnds i request outcome _ =>
      split at hmem
      · cases hmem
      · cases (warnings_isReport outcome).2 _ hmem
  | _ => simp at hmem

theorem joined_of_closed (hmove : Move ctx h e acts t) (hclosed : t.phase = .closed) :
    h.phase.joined = true := by
  have hcount := countP_close hmove
  rw [hclosed, countP_closeStream] at hcount
  cases hjoined : h.phase.joined with
  | true => rfl
  | false =>
      have hmem : .closeStream ∈ acts := by
        apply List.count_pos_iff.1
        rw [hjoined] at hcount
        simp [Phase.joined] at hcount
        omega
      have hclosing := (idle_of_closeStream hmove hmem).2.2
      rw [hclosed] at hclosing
      cases hclosing

/-! ## Tasks that end -/

theorem getElem?_setStage {s : Scratch} (i j : Nat) (stage : Job.Stage) :
    (s.setStage j stage).works[i]? =
      s.works[i]?.map fun w => if i = j then { w with stage := stage } else w := by
  unfold Scratch.setStage
  rw [List.getElem?_modify]
  cases s.works[i]? <;> simp [eq_comm]

/-- The end of a task closes the channel if the task was started so. -/
theorem closed_of_finish {i : Nat} {job : Job} {before : Job.Stage} (hsound : h.Sound)
    (hmove : Move ctx h e acts t) (hwork : h.scratch.works[i]? = some ⟨job, before⟩)
    (hbefore : before ≠ .done) (hafter : t.scratch.works[i]? = some ⟨job, .done⟩)
    (hcloses : job.closes = true) : t.scratch.closed = true := by
  -- A step that ends no task leaves task `i` in a stage that is not the last.
  have hkeep : t.scratch.works[i]? = h.scratch.works[i]? → t.scratch.closed = true := by
    intro hsame
    rw [hafter, hwork] at hsame
    cases hsame
    exact absurd rfl hbefore
  have hgrow : h.scratch.Grows t.scratch → t.scratch.closed = true := by
    intro hgrows
    obtain ⟨jobs, hworks⟩ := hgrows.works
    obtain ⟨hlt, _⟩ := List.getElem?_eq_some_iff.1 hwork
    apply hkeep
    rw [hworks, List.getElem?_append_left hlt]
  cases hmove with
  | start _ => exact hgrow (Table.runStartup_grows hsound.orderly.startup)
  | @take raw _ _ _ _ => exact hgrow (hsound.orderly.dispatch_grows h.taken raw)
  | execEnds _ _ | forwardEnds _ | written _ => simp
  | @brief j _ _ hends | @join j _ hends _ =>
      -- The task that ends is this one, which closes the channel, or another one.
      by_cases hij : i = j
      · subst hij
        rw [hwork] at hends
        obtain ⟨rfl, -⟩ := Work.mk.inj (Option.some.inj hends)
        simp_all [Job.closes]
      · apply hkeep
        simp [getElem?_setStage, hij]
  | @call j _ _ _ _ | @write j _ _ _ _ _ _ =>
      rw [mapScratch_scratch, getElem?_setStage, hwork] at hafter
      by_cases hij : i = j <;> simp_all
  | _ => exact hkeep rfl

/-! ## The consumers of sizes -/

/-- After the loop a step gives out a size, or that there is none, or nothing. -/
theorem gives_of_move (hmove : Move ctx h e acts t) (hleft : h.phase.left = true) :
    (deliveries acts = [] ∧ t.scratch.sizes.pending = h.scratch.sizes.pending) ∨
      ∃ size, deliveries acts = [size] ∧ h.scratch.sizes.Gives size t.scratch.sizes := by
  cases hmove with
  | start hphase | take hphase _ _ | leave hphase _ =>
      rw [hphase] at hleft
      cases hleft
  | pollSize hpoll => exact .inr ⟨_, rfl, Terminal.SizeQueue.gives_of_poll hpoll⟩
  | serveSize hserve => exact .inr ⟨_, rfl, Terminal.SizeQueue.gives_of_serve hserve⟩
  | @call i job act _ hact =>
      refine .inl ⟨?_, rfl⟩
      cases job <;> simp only [Job.callAct?, Option.some.injEq, reduceCtorEq] at hact <;>
        subst hact <;> rfl
  | @execEnds i request interactive outcome _ _ =>
      refine .inl ⟨?_, by simp⟩
      split
      · rfl
      · exact deliveries_of_isReport (warnings_isReport outcome).1
  | @write i request interactive outcome _ _ _ =>
      refine .inl ⟨?_, rfl⟩
      rw [deliveries_append, deliveries_of_isReport (warnings_isReport outcome).1]
      rfl
  | @forwardEnds i request outcome _ =>
      refine .inl ⟨?_, by simp⟩
      split
      · rfl
      · exact deliveries_of_isReport (warnings_isReport outcome).2
  | awaitSize _ | abandonSize _ => exact .inl ⟨rfl, rfl⟩
  | _ => exact .inl ⟨rfl, by simp⟩

/-- After the loop consumers get the sizes that are left, and then that there are no more. -/
theorem deliveries_after_leaving (hrun : Run (Handler.step ctx) h log t)
    (hleft : h.phase.left = true) :
    ∃ given rest, deliveries (seen log) = given.map some ++ List.replicate rest none ∧
      h.scratch.sizes.pending = given ++ t.scratch.sizes.pending ∧
      (rest ≠ 0 → t.scratch.sizes.pending = []) := by
  induction hrun with
  | nil => exact ⟨[], 0, rfl, rfl, fun hrest => absurd rfl hrest⟩
  | @snoc log s t e acts hbefore hstep ih =>
      obtain ⟨given, rest, hgiven, hpending, hrest⟩ := ih
      have hkept := left_of_run hbefore hleft
      rcases gives_of_move (move_of_step hstep) hkept with ⟨hquiet, hsame⟩ | ⟨size, hgets, hgives⟩
      · exact ⟨given, rest, by simp [hgiven, hquiet], by rw [hpending, hsame],
          fun hsome => hsame.trans (hrest hsome)⟩
      · have htaken := hgives.pending
        cases size with
        | some size =>
            -- A size is given only before the first answer that there is none.
            have hnone : rest = 0 := by
              by_contra hsome
              simp [hrest hsome] at htaken
            subst hnone
            exact ⟨given ++ [size], 0, by simp [hgiven, hgets], by simp [hpending, htaken],
              fun hsome => absurd rfl hsome⟩
        | none =>
            have hempty : t.scratch.sizes.pending = [] := by
              simpa [(hgives.ended rfl).2] using htaken.symm
            refine ⟨given, rest + 1, ?_, ?_, fun _ => hempty⟩
            · simp [hgiven, hgets, List.replicate_succ']
            · rw [hpending, htaken]
              rfl

/-- Once the queue of sizes is closed, all consumers that wait can be served one after the other,
and nothing else has to happen. -/
theorem exists_serving (hclosed : h.scratch.sizes.closed = true) :
    ∃ log, Run (Handler.step ctx) h log
        (h.setSizes { h.scratch.sizes with
          pending := h.scratch.sizes.pending.drop h.scratch.sizes.waiting.length
          waiting := [] }) ∧
      log.map (·.event) = List.replicate h.scratch.sizes.waiting.length .serveSize ∧
      seen log = h.scratch.sizes.waiting.mapIdx
        fun i consumer => .delivered (some consumer) h.scratch.sizes.pending[i]? := by
  generalize hwaiting : h.scratch.sizes.waiting = waiting
  induction waiting generalizing h with
  | nil =>
      have hsame : h.setSizes { h.scratch.sizes with waiting := [] } = h := by
        rw [← hwaiting]
        rfl
      refine ⟨[], ?_, rfl, rfl⟩
      rw [List.length_nil, List.drop_zero, hsame]
      exact .nil
  | cons consumer rest ih =>
      have hserve := Terminal.SizeQueue.serve_of_closed hclosed hwaiting
      have hmove : Move ctx h .serveSize _ _ := .serveSize hserve
      have hfirst := step_of_move hmove
      obtain ⟨log, hrun, hevents, hseen⟩ := ih (h := h.setSizes
        { h.scratch.sizes with pending := h.scratch.sizes.pending.tail, waiting := rest }) hclosed rfl
      refine ⟨_ :: log, (Run.single hfirst).trans ?_, ?_, ?_⟩
      · rw [List.length_cons, ← List.drop_tail]
        exact hrun
      · simp [hevents, List.replicate_succ]
      · rw [seen_cons, hseen, List.mapIdx_cons]
        simp [List.head?_eq_getElem?]

end Handler

/-- What makes a channel leave its loop: its token is cancelled, the peer sends nothing more, or a
task ends that was started to end the channel. -/
inductive Exit (ctx : Context) (τ : Transition Handler Event Act) : Prop
  | cancelled (hclosing : Closing ctx τ)
  | hungUp (hevent : τ.event = .hangUp)
  | finished {i : Nat} {job : Job} {before : Job.Stage}
      (hwork : τ.source.scratch.works[i]? = some ⟨job, before⟩) (hbefore : before ≠ .done)
      (hafter : τ.target.scratch.works[i]? = some ⟨job, .done⟩)
      (hcloses : job.closes = true)

/-- How a channel that begins in `start` comes to its end in a run. -/
structure ShutsDown (ctx : Context) (start : Handler) (log : Log) (t : Handler) : Prop where
  /-- Whatever makes the channel leave its loop, its own task does not wait before it has left. -/
  leaves : start.scratch.closed = true ∨ start.inbox.ended = true ∨ (∃ τ ∈ log, Exit ctx τ) →
    t.step ctx .advance = none → t.phase.left = true
  quiet : ∀ {pre post : Log} {τ : Transition Handler Event Act}, log = pre ++ τ :: post →
    τ.target.phase.left = true → invocations τ.acts = [] ∧ invocations (seen post) = []
  /-- The consumers that wait are served at once, by no other events than these: each gets a size as
  long as there is one, and learns otherwise that there are no more. -/
  serves : t.phase.left = true → ∃ served,
    Run (Handler.step ctx) t served (t.setSizes { t.scratch.sizes with
      pending := t.scratch.sizes.pending.drop t.scratch.sizes.waiting.length
      waiting := [] }) ∧
    served.map (·.event) = List.replicate t.scratch.sizes.waiting.length .serveSize ∧
    seen served = t.scratch.sizes.waiting.mapIdx
      fun i consumer => .delivered (some consumer) t.scratch.sizes.pending[i]?
  /-- All that consumers get from then on are the sizes that are left, and after the last of them
  that there are no more. -/
  drains : ∀ {pre post : Log} {τ : Transition Handler Event Act}, log = pre ++ τ :: post →
    τ.target.phase.left = true → ∃ given rest,
      deliveries (seen post) = given.map some ++ List.replicate rest none ∧
      τ.target.scratch.sizes.pending = given ++ t.scratch.sizes.pending ∧
      (rest ≠ 0 → t.scratch.sizes.pending = [])
  /-- The stream is closed when no task runs any more, all having been told to stop, and the queue of
  sizes is closed. -/
  idle : ∀ {pre post : Log} {τ : Transition Handler Event Act}, log = pre ++ τ :: post →
    .closeStream ∈ τ.acts → τ.source.phase.left = true ∧ τ.source.scratch.stopped = true ∧
      τ.source.scratch.sizes.closed = true ∧ τ.source.scratch.running = 0
  once : (seen log).count .closeStream ≤ 1
  /-- It is closed as soon as nothing can go on without it and the calls and the writes of the tasks
  have ended. -/
  closes : t.phase.left = true → t.Settled ctx →
    (∀ op ∈ [Operation.call, .write],
      (seen log).countP op.begins = log.countP fun τ => op.ends τ.event) →
    (seen log).count .closeStream = 1
  /-- The channel's own task returns only after that. -/
  returns : ∀ {pre post : Log} {τ : Transition Handler Event Act}, log = pre ++ τ :: post →
    τ.target.phase = .closed → (seen pre).count .closeStream = 1

section

variable {ctx : Context} {table : Table} {forwardOpen : Option ForwardOpen} {cancelled ended : Bool}
  {early : List ChannelRequest} {log pre post : Log} {h t : Handler}
  {τ : Transition Handler Event Act}

theorem leaves_of_exit (hsound : h.Sound) (hrun : Run (Handler.step ctx) h log t)
    (hexit : h.scratch.closed = true ∨ h.inbox.ended = true ∨ ∃ τ ∈ log, Exit ctx τ)
    (hwaits : t.step ctx .advance = none) : t.phase.left = true := by
  have hended : ∀ {h log}, Run (Handler.step ctx) h log t → h.inbox.ended = true →
      t.inbox.ended = true := by
    intro h log hrun hended
    exact hrun.invariant (P := fun h => h.inbox.ended = true) hended
      fun hended hstep => Handler.ended_of_move (Handler.move_of_step hstep) hended
  apply Handler.left_of_waits hwaits
  rcases hexit with hclosed | hhungUp | ⟨τ, hmem, hexit⟩
  · exact .inl (Handler.closed_of_run hrun hsound.orderly.lasting hclosed)
  · exact .inr (hended hrun hhungUp)
  · obtain ⟨pre, post, rfl⟩ := List.append_of_mem hmem
    obtain ⟨hpre, hstep, hpost⟩ := hrun.at_step
    have hsource : τ.source.Sound := hpre.invariant hsound fun hsound hstep => hsound.step hstep
    have htarget := (hsource.step hstep).orderly.lasting
    cases hexit with
    | cancelled hclosing =>
        have hclosed := hclosing.closed hsource.orderly.lasting hstep
        exact .inl (Handler.closed_of_run hpost htarget hclosed)
    | hungUp hevent =>
        rw [hevent] at hstep
        obtain ⟨heq, _⟩ := Prod.mk.inj (Option.some.inj hstep)
        exact .inr (hended hpost (by rw [← heq]; rfl))
    | finished hwork hbefore hafter hcloses =>
        have hclosed := Handler.closed_of_finish hsource (Handler.move_of_step hstep) hwork hbefore
          hafter hcloses
        exact .inl (Handler.closed_of_run hpost htarget hclosed)

theorem quiet_after_leaving (hrun : Run (Handler.step ctx) h log t) (hleft : h.phase.left = true) :
    invocations (seen log) = [] := by
  induction hrun with
  | nil => rfl
  | @snoc log s t e acts hbefore hstep ih =>
      have hkept := Handler.left_of_run (hbefore.snoc hstep) hleft
      have hlast := Handler.uninvoked_of_left (Handler.move_of_step hstep) hkept
      simp [ih, hlast]

/-- However a channel leaves its loop, its shutdown is complete. -/
theorem shuts_down_completely (horderly : table.Orderly)
    (hrun : Run (Handler.step ctx) (Handler.opened ctx table forwardOpen cancelled early ended)
      log t) :
    ShutsDown ctx (Handler.opened ctx table forwardOpen cancelled early ended) log t := by
  have hstart : (Handler.opened ctx table forwardOpen cancelled early ended).Sound :=
    Handler.sound_opened horderly forwardOpen cancelled early ended
  have hcount : ∀ {log h}, Run (Handler.step ctx)
      (Handler.opened ctx table forwardOpen cancelled early ended) log h →
      (seen log).count .closeStream = h.phase.joined.toNat := by
    intro log h hrun
    rw [← countP_closeStream]
    exact Handler.countP_close_of_run hrun rfl
  constructor
  case leaves => exact leaves_of_exit hstart hrun
  case quiet =>
    intro pre post τ hlog hleft
    subst hlog
    obtain ⟨_, hstep, hpost⟩ := hrun.at_step
    exact ⟨Handler.uninvoked_of_left (Handler.move_of_step hstep) hleft,
      quiet_after_leaving hpost hleft⟩
  case serves =>
    intro hleft
    exact Handler.exists_serving (Handler.sizes_closed_of_run hrun rfl hleft)
  case drains =>
    intro pre post τ hlog hleft
    subst hlog
    exact Handler.deliveries_after_leaving hrun.at_step.2.2 hleft
  case idle =>
    intro pre post τ hlog hmem
    subst hlog
    obtain ⟨hpre, hstep, _⟩ := hrun.at_step
    obtain ⟨hphase, hidle, _⟩ := Handler.idle_of_closeStream (Handler.move_of_step hstep) hmem
    have hleft : τ.source.phase.left = true := by rw [hphase]; rfl
    have hsource : τ.source.Sound := hpre.invariant hstart fun hsound hstep => hsound.step hstep
    exact ⟨hleft, hsource.stopped_of_left hleft, Handler.sizes_closed_of_run hpre rfl hleft, hidle⟩
  case once =>
    rw [hcount hrun]
    cases t.phase.joined <;> simp
  case closes =>
    intro hleft hsettled hended
    have hpending : ∀ op ∈ [Operation.call, .write], t.pending op = 0 := by
      intro op hop
      have hbalance := hrun.balance hstart (fun hsound hstep => hsound.step hstep)
        fun hsound hstep => hsound.balance op (Handler.move_of_step hstep)
      have hnone : (Handler.opened ctx table forwardOpen cancelled early ended).pending op = 0 := by
        cases op <;> rfl
      have hall := hended op hop
      omega
    have hsound : t.Sound := hrun.invariant hstart fun hsound hstep => hsound.step hstep
    rw [hcount hrun, hsound.joined_of_settled hsettled hleft (hpending .call (by simp))
      (hpending .write (by simp))]
    rfl
  case returns =>
    intro pre post τ hlog hclosed
    subst hlog
    obtain ⟨hpre, hstep, _⟩ := hrun.at_step
    rw [hcount hpre, Handler.joined_of_closed (Handler.move_of_step hstep) hclosed]
    rfl

/-- A script that starts a task which waits to be told to stop, and for a shell one that returns at
once. -/
def briefScript : Simulation.Script where
  startup := [⟨"watcher", none, true, false, false, none⟩]
  callbacks := [(.shell, ⟨"shell", some true, false, true, false, none⟩)]
  fallback := none
  observers := []

/-- A consumer waits for a size when the task of the shell returns. The channel leaves its loop with
a request still queued, the consumer learns that there is no size while the other task still runs,
and then the stream is closed. -/
theorem shuts_down_completely_brief :
    ∃ log t, Run (Handler.step ⟨⟨"team", "ada"⟩, .standard⟩)
      (Handler.opened ⟨⟨"team", "ada"⟩, .standard⟩ briefScript.table none false
        [⟨"shell", [], true⟩] false) log t ∧
      t.phase = .closed ∧
      (seen log).drop 3 = [.forgo 1, .delivered (some 4) none, .joined "watcher", .closeStream] ∧
      ShutsDown ⟨⟨"team", "ada"⟩, .standard⟩
        (Handler.opened ⟨⟨"team", "ada"⟩, .standard⟩ briefScript.table none false
          [⟨"shell", [], true⟩] false) log t := by
  have hcheck : ∃ log t, Run (Handler.step ⟨⟨"team", "ada"⟩, .standard⟩)
      (Handler.opened ⟨⟨"team", "ada"⟩, .standard⟩ briefScript.table none false
        [⟨"shell", [], true⟩] false) log t ∧
      t.phase = .closed ∧
      (seen log).drop 3 = [.forgo 1, .delivered (some 4) none, .joined "watcher", .closeStream] :=
    exists_run_of_replay [.advance, .awaitSize 4, .advance, .run 1, .arrive ⟨"shell", [], true⟩,
      .advance, .serveSize, .run 0, .advance, .streamClosed] (by decide +kernel)
  obtain ⟨log, t, hrun, hclosed, hseen⟩ := hcheck
  exact ⟨log, t, hrun, hclosed, hseen, shuts_down_completely briefScript.table_orderly hrun⟩

end

end SessionGateway.Channel
