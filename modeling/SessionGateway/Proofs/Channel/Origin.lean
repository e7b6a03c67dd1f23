import SessionGateway.Proofs.Channel.History

/-!
# Where the calls of a channel come from

A channel asks the cluster for what its tasks were started with, and its tasks are started with what
the connection's context holds: the user's pod, the shell, the programs of subsystems. The peer
chooses among these by the requests that it sends on the channel, and for a forward it chooses the
port with the payload that the channel was opened with.
-/

namespace SessionGateway.Channel

/-- What a task can be started with on a channel that was opened as a session or with the payload of
a forward, and on which these requests have been sent. -/
inductive Origin (ctx : Context) (forwardOpen : Option ForwardOpen) (asked : List ChannelRequest) :
    Job → Prop
  | shell {r : ChannelRequest} {terminal : Bool} (hsession : forwardOpen = none)
      (hmem : r ∈ asked) (hname : r.name = "shell") :
      Origin ctx forwardOpen asked (.exec (ctx.exec ctx.config.shellCommand terminal) true)
  | subsystem {r : ChannelRequest} {name path : String} (hsession : forwardOpen = none)
      (hmem : r ∈ asked) (hasked : r.asked? = some (.subsystem name))
      (hpath : ctx.config.subsystem? name = some path) :
      Origin ctx forwardOpen asked (.exec (ctx.exec [path] false) false)
  | forward {opened : ForwardOpen} (hopened : forwardOpen = some opened) :
      Origin ctx forwardOpen asked (.forward (ctx.forward opened.port))

def Act.Rooted (ctx : Context) (forwardOpen : Option ForwardOpen) (asked : List ChannelRequest)
    (a : Act) : Prop :=
  Operation.call.begins a = true →
    ∃ i job, job.callAct? i = some a ∧ Origin ctx forwardOpen asked job

/-- A channel whose tasks have such an origin, and which will start no others. -/
structure Handler.Rooted (ctx : Context) (forwardOpen : Option ForwardOpen)
    (asked : List ChannelRequest) (h : Handler) : Prop where
  table : h.table = Connection.tableFor forwardOpen
  opened : h.scratch.forwardOpen = forwardOpen
  queued : ∀ r ∈ h.inbox.queued, r ∈ asked
  works : ∀ w ∈ h.scratch.works, Origin ctx forwardOpen asked w.job

variable {ctx : Context} {forwardOpen : Option ForwardOpen} {asked more : List ChannelRequest}
  {s : Scratch}

theorem Origin.mono {job : Job} (horigin : Origin ctx forwardOpen asked job)
    (hmore : ∀ r ∈ asked, r ∈ more) : Origin ctx forwardOpen more job := by
  cases horigin with
  | shell hsession hmem hname => exact .shell hsession (hmore _ hmem) hname
  | subsystem hsession hmem hasked hpath => exact .subsystem hsession (hmore _ hmem) hasked hpath
  | forward hopened => exact .forward hopened

theorem Act.rooted_of_not_isCall {a : Act} (h : a.isCall = false) :
    a.Rooted ctx forwardOpen asked := by
  intro hcall
  rw [Operation.begins_of_not_isCall h] at hcall
  cases hcall

/-! ## What handling a request adds -/

namespace Session

theorem origin_of_job {terminal : Bool} {raw : ChannelRequest} {job : Job} (hmem : raw ∈ asked)
    (hjob : job? ctx terminal raw = some job) : Origin ctx none asked job := by
  unfold job? at hjob
  split at hjob
  · rename_i hasked
    obtain rfl := Option.some.inj hjob
    exact .shell rfl hmem (ChannelRequest.asked_shell.1 hasked)
  · rename_i name hasked
    obtain ⟨path, hpath, rfl⟩ := Option.map_eq_some_iff.1 hjob
    exact .subsystem rfl hmem hasked hpath
  · cases hjob

/-- The second state has the tokens of the first, and was opened with the same. -/
structure Keeps (s t : Scratch) : Prop where
  closed : t.closed = s.closed
  stopped : t.stopped = s.stopped
  opened : t.forwardOpen = s.forwardOpen

theorem keeps_handlerFor (kind : RequestKind) (p : Pending) :
    Keeps s ((handlerFor kind).run ctx p s).2.1 := by
  cases kind with
  | shell =>
      simp only [handlerFor, onShell]
      split <;> exact ⟨rfl, rfl, rfl⟩
  | pty =>
      simp only [handlerFor, onPty]
      split
      · split <;> exact ⟨rfl, rfl, rfl⟩
      · exact ⟨rfl, rfl, rfl⟩
  | windowChange =>
      simp only [handlerFor, onWindowChange]
      split
      · split
        · exact ⟨rfl, rfl, rfl⟩
        · split <;> exact ⟨rfl, rfl, rfl⟩
      · exact ⟨rfl, rfl, rfl⟩
  | subsystem =>
      simp only [handlerFor, onSubsystem]
      split
      · split
        · exact ⟨rfl, rfl, rfl⟩
        · split <;> exact ⟨rfl, rfl, rfl⟩
      · exact ⟨rfl, rfl, rfl⟩
  | other => exact ⟨rfl, rfl, rfl⟩

theorem keeps_dispatch (n : Nat) (raw : ChannelRequest) :
    Keeps s (table.dispatch ctx n raw s).1 := by
  cases hasked : raw.asked? with
  | none =>
      rw [(Table.dispatch_malformed hasked).1]
      exact ⟨rfl, rfl, rfl⟩
  | some request =>
      rw [(Table.dispatch_single hasked (handlers_table _) (reply_handlerFor hasked)).1]
      exact keeps_handlerFor _ _

end Session

theorem Forward.dispatch_scratch (n : Nat) (raw : ChannelRequest) :
    (Forward.table.dispatch ctx n raw s).1 = s := by
  cases hasked : raw.asked? with
  | none => exact (Table.dispatch_malformed hasked).1
  | some request =>
      exact (Table.dispatch_single hasked (Forward.handlers_table _) fun _ _ => rfl).1

theorem Forward.runStartup_table {opened : ForwardOpen} (hopened : s.forwardOpen = some opened) :
    (Table.runStartup ctx Forward.table.startup s).1 =
      s.spawn (.forward (ctx.forward opened.port)) := by
  simp [Forward.table, Table.empty, Table.onStart, Table.observing, Table.runStartup, Forward.onStart,
    hopened]

/-! ## One step -/

namespace Handler

variable {h t : Handler} {e : Event} {acts : List Act}

theorem Rooted.mono (hrooted : h.Rooted ctx forwardOpen asked) (hmore : ∀ r ∈ asked, r ∈ more) :
    h.Rooted ctx forwardOpen more where
  table := hrooted.table
  opened := hrooted.opened
  queued r hr := hmore r (hrooted.queued r hr)
  works w hw := (hrooted.works w hw).mono hmore

theorem Rooted.setStage (hrooted : h.Rooted ctx forwardOpen asked) (i : Nat) (stage : Job.Stage) :
    ∀ w ∈ (h.scratch.setStage i stage).works, Origin ctx forwardOpen asked w.job := by
  intro w hw
  have hjob : w.job ∈ (h.scratch.setStage i stage).works.map Work.job := List.mem_map_of_mem hw
  rw [Scratch.setStage_jobs] at hjob
  obtain ⟨before, hbefore, hsame⟩ := List.mem_map.1 hjob
  rw [← hsame]
  exact hrooted.works before hbefore

theorem Rooted.finishWork (hrooted : h.Rooted ctx forwardOpen asked) (i : Nat) (closes : Bool) :
    (h.finishWork i closes).Rooted ctx forwardOpen asked where
  table := by rw [finishWork_table, hrooted.table]
  opened := by
    rw [finishWork_scratch, ← hrooted.opened]
    split <;> rfl
  queued := by
    rw [finishWork_inbox]
    exact hrooted.queued
  works := by
    rw [finishWork_scratch]
    split <;> exact hrooted.setStage i .done

theorem Rooted.start (hrooted : h.Rooted ctx forwardOpen asked) :
    Rooted ctx forwardOpen asked { h with
      scratch := (Table.runStartup ctx h.table.startup h.scratch).1
      phase := .serving } := by
  have htable := hrooted.table
  have hopen := hrooted.opened
  cases forwardOpen with
  | none =>
      have hstartup : h.table.startup = [] := by rw [htable]; rfl
      rw [hstartup]
      exact ⟨htable, hopen, hrooted.queued, hrooted.works⟩
  | some opened =>
      rw [htable]
      simp only [Connection.tableFor, Forward.runStartup_table hopen]
      refine ⟨rfl, hopen, hrooted.queued, fun w hw => ?_⟩
      rcases List.mem_append.1 hw with hold | hnew
      · exact hrooted.works w hold
      · rw [List.mem_singleton.1 hnew]
        exact .forward rfl

theorem Rooted.take (hrooted : h.Rooted ctx forwardOpen asked) {raw : ChannelRequest}
    {rest : List ChannelRequest} (hqueue : h.inbox.queued = raw :: rest) :
    Rooted ctx forwardOpen asked { h with
      scratch := (h.table.dispatch ctx h.taken raw h.scratch).1
      inbox := { h.inbox with queued := rest }
      taken := h.taken + 1 } := by
  have htable := hrooted.table
  have hqueued : ∀ r ∈ rest, r ∈ asked := fun r hr =>
    hrooted.queued r (by rw [hqueue]; exact List.mem_cons_of_mem _ hr)
  have hmem : raw ∈ asked := hrooted.queued raw (by rw [hqueue]; exact List.mem_cons_self)
  rw [htable]
  cases forwardOpen with
  | none =>
      have hhandled : Session.Handled ctx raw h.scratch
          (Session.table.dispatch ctx h.taken raw h.scratch).1 := Session.handled_dispatch h.taken
      refine ⟨rfl, (Session.keeps_dispatch _ _).opened.trans hrooted.opened, hqueued,
        fun w hw => ?_⟩
      simp only [Connection.tableFor, hhandled.works] at hw
      rcases List.mem_append.1 hw with hold | hnew
      · exact hrooted.works w hold
      · obtain ⟨job, hjob, rfl⟩ := List.mem_map.1 hnew
        split at hjob
        · cases hjob
        · exact Session.origin_of_job hmem (by simpa using hjob)
  | some opened =>
      simp only [Connection.tableFor, Forward.dispatch_scratch]
      exact ⟨rfl, hrooted.opened, hqueued, hrooted.works⟩

/-- Whatever happens to a channel, its tasks keep their origin, and what is asked of the cluster is
asked by one of them. -/
theorem Rooted.move (hrooted : h.Rooted ctx forwardOpen asked) (hmove : Move ctx h e acts t)
    (harrives : ∀ r, e = .arrive r → r ∈ asked) :
    t.Rooted ctx forwardOpen asked ∧ ∀ a ∈ acts, a.Rooted ctx forwardOpen asked := by
  have hquiet : (∀ a ∈ acts, a.isCall = false) → ∀ a ∈ acts, a.Rooted ctx forwardOpen asked :=
    fun hcalls a ha => Act.rooted_of_not_isCall (hcalls a ha)
  cases hmove with
  | arrive r =>
      refine ⟨⟨hrooted.table, hrooted.opened, fun q hq => ?_, hrooted.works⟩, by simp⟩
      simp only [Inbox.send] at hq
      split at hq
      · rcases List.mem_append.1 hq with hold | hnew
        · exact hrooted.queued q hold
        · rw [List.mem_singleton.1 hnew]
          exact harrives r rfl
      · exact hrooted.queued q hq
  | hangUp | cancel | streamClosed _ | awaitSize _ | abandonSize _ =>
      exact ⟨⟨hrooted.table, hrooted.opened, hrooted.queued, hrooted.works⟩, by simp⟩
  | start _ => exact ⟨hrooted.start, hquiet Table.runStartup_isCall⟩
  | take _ _ hqueue => exact ⟨hrooted.take hqueue, hquiet Table.dispatch_isCall⟩
  | leave _ _ =>
      refine ⟨⟨hrooted.table, hrooted.opened, fun q hq => ?_, hrooted.works⟩,
        hquiet forgoFrom_isCall⟩
      cases hq
  | close _ _ =>
      refine ⟨⟨hrooted.table, hrooted.opened, hrooted.queued, hrooted.works⟩, fun a ha hcall => ?_⟩
      rw [List.mem_singleton.1 ha] at hcall
      cases hcall
  | @call i job act hwork hact =>
      refine ⟨⟨hrooted.table, hrooted.opened, hrooted.queued, hrooted.setStage i .calling⟩,
        fun a ha _ => ?_⟩
      rw [List.mem_singleton.1 ha]
      exact ⟨i, job, hact, hrooted.works _ (List.mem_of_getElem? hwork)⟩
  | brief _ | written _ => exact ⟨hrooted.finishWork _ _, by simp⟩
  | join _ _ =>
      refine ⟨hrooted.finishWork _ _, hquiet fun a ha => ?_⟩
      rw [List.mem_singleton.1 ha]
      rfl
  | @execEnds _ _ _ outcome _ _ =>
      refine ⟨hrooted.finishWork _ _, hquiet ?_⟩
      split
      · simp
      · exact fun a ha => Act.isCall_of_isReport ((warnings_isReport outcome).1 a ha)
  | @write i _ _ outcome _ _ _ =>
      refine ⟨⟨hrooted.table, hrooted.opened, hrooted.queued, hrooted.setStage i _⟩,
        fun a ha hcall => ?_⟩
      rcases List.mem_append.1 ha with hwarn | hline
      · have hreport := (warnings_isReport outcome).1 a hwarn
        exact Act.rooted_of_not_isCall (Act.isCall_of_isReport hreport) hcall
      · rw [List.mem_singleton.1 hline] at hcall
        cases hcall
  | @forwardEnds _ _ outcome _ =>
      refine ⟨hrooted.finishWork _ _, hquiet ?_⟩
      split
      · simp
      · exact fun a ha => Act.isCall_of_isReport ((warnings_isReport outcome).2 a ha)
  | pollSize _ | serveSize _ =>
      refine ⟨⟨hrooted.table, hrooted.opened, hrooted.queued, hrooted.works⟩, hquiet fun a ha => ?_⟩
      rw [List.mem_singleton.1 ha]
      rfl

end Handler

end SessionGateway.Channel
