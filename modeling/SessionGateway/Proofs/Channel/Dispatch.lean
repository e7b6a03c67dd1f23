import SessionGateway.Proofs.Channel.Answers
import SessionGateway.Proofs.Channel.Scripts
import SessionGateway.Proofs.Channel.Settled

/-!
# The dispatch of requests

Which callbacks run on a channel, and in which order, can be told from the table and from the
requests that are taken: the startup callbacks up to the first that fails, and then for each request
that decodes all the callbacks of its kind, or the fallback, and every observer. Requests are taken
in the order in which they arrive until the channel's token is cancelled. Errors of callbacks for
requests change nothing but the warnings.
-/

namespace SessionGateway.Channel

/-- A callback that runs, and the request that it runs for. -/
inductive Invocation where
  | startup (label : Option String)
  | request (label : Option String) (name : String) (request : Request)
  deriving DecidableEq

def Act.invocation? : Act → Option Invocation
  | .started label _ _ => some (.startup label)
  | .invoked label _ _ p => some (.request label p.name p.request)
  | _ => none

def invocations (acts : List Act) : List Invocation :=
  acts.filterMap Act.invocation?

@[simp] theorem invocations_nil : invocations [] = [] := rfl

@[simp] theorem invocations_append (acts rest : List Act) :
    invocations (acts ++ rest) = invocations acts ++ invocations rest := by
  simp [invocations]

@[simp] theorem invocations_cons (a : Act) (rest : List Act) :
    invocations (a :: rest) = a.invocation?.toList ++ invocations rest := by
  cases h : a.invocation? <;> simp [invocations, h]

theorem invocations_warnings (text : Error → String) (errors : List Error) :
    invocations (errors.map fun e => .warn (text e)) = [] := by
  induction errors with
  | nil => rfl
  | cons e rest ih => simpa [Act.invocation?] using ih

/-! ## What a table runs -/

/-- The startup callbacks that run, the error of the last if it fails, and what they leave: they run
in the order of their registration, and none runs after one that fails. -/
inductive Startup (ctx : Context) : List (Labelled StartupCallback) → Scratch →
    List (Labelled StartupCallback) → Option Error → Scratch → Prop
  | done (s : Scratch) : Startup ctx [] s [] none s
  | fail {callback : Labelled StartupCallback} {rest : List (Labelled StartupCallback)}
      {s t : Scratch} {e : Error} (hrun : callback.run ctx s = (t, some e)) :
      Startup ctx (callback :: rest) s [callback] (some e) t.close
  | next {callback : Labelled StartupCallback} {rest ran : List (Labelled StartupCallback)}
      {s t u : Scratch} {failed : Option Error} (hrun : callback.run ctx s = (t, none))
      (hrest : Startup ctx rest t ran failed u) :
      Startup ctx (callback :: rest) s (callback :: ran) failed u

namespace Table

variable {ctx : Context} {s t : Scratch} {n : Nat} {p : Pending} {raw : ChannelRequest}

/-- What runs for a request: nothing if it does not decode, and otherwise the callbacks registered
for its kind, or the fallback if there are none, and then the observers. -/
def invokes (t : Table) (raw : ChannelRequest) : List Invocation :=
  match raw.asked? with
  | none => []
  | some request =>
    let callbacks := if t.registered request.kind = [] then [t.fallback]
      else t.registered request.kind
    (callbacks ++ t.observers).map fun c => .request c.label raw.name request

theorem startup_runStartup (ctx : Context) (callbacks : List (Labelled StartupCallback)) (s : Scratch) :
    ∃ ran failed, Startup ctx callbacks s ran failed (runStartup ctx callbacks s).1 ∧
      invocations (runStartup ctx callbacks s).2 = ran.map fun c => .startup c.label := by
  induction callbacks generalizing s with
  | nil => exact ⟨[], none, .done s, rfl⟩
  | cons callback rest ih =>
      rcases hrun : callback.run ctx s with ⟨t, _ | e⟩
      · obtain ⟨ran, failed, hstartup, hran⟩ := ih t
        refine ⟨callback :: ran, failed, ?_, ?_⟩
        · simpa only [runStartup, hrun] using .next hrun hstartup
        · simp [runStartup, hrun, Act.invocation?, hran]
      · refine ⟨[callback], some e, ?_, ?_⟩
        · simpa only [runStartup, hrun] using .fail hrun
        · simp [runStartup, hrun, Act.invocation?]

theorem invocations_answered (before after : ReplySlot) :
    invocations (answered n before after) = [] := by
  unfold answered
  split <;> rfl

theorem invocations_runCallbacks {callbacks : List (Labelled RequestCallback)}
    (hsame : ∀ callback ∈ callbacks, ∀ ctx p (s : Scratch),
      (callback.run ctx p s).1.name = p.name ∧ (callback.run ctx p s).1.request = p.request) :
    invocations (runCallbacks ctx n callbacks p s).2.2 =
      callbacks.map fun c => .request c.label p.name p.request := by
  induction callbacks generalizing p s with
  | nil => rfl
  | cons callback rest ih =>
      obtain ⟨hname, hrequest⟩ := hsame callback (by simp) ctx p s
      have hrest := ih (p := (callback.run ctx p s).1) (s := (callback.run ctx p s).2.1)
        fun c hc => hsame c (by simp [hc])
      rw [hname, hrequest] at hrest
      simp [runCallbacks, Act.invocation?, invocations_answered, invocations_warnings, hrest]

theorem Lawful.invocations_dispatch {table : Table} (hlawful : table.Lawful) :
    invocations (table.dispatch ctx n raw s).2 = table.invokes raw := by
  cases hasked : raw.asked? with
  | none =>
      obtain ⟨e, hdecode⟩ := ChannelRequest.asked_eq_none.1 hasked
      simp only [dispatch, hdecode, invokes, hasked]
      split <;> rfl
  | some request =>
      have hdecode := ChannelRequest.asked_eq_some.1 hasked
      have hdestroyed : ∀ slot, invocations (destroyed n slot) = [] := by
        intro slot
        unfold destroyed
        split <;> rfl
      have hhandlers : table.handlers request.kind =
          (if table.registered request.kind = [] then [table.fallback]
            else table.registered request.kind) ++ table.observers := by
        unfold handlers
        split
        · rename_i hnone
          rw [if_pos hnone]
        · rename_i hsome
          rw [if_neg hsome]
      have hrun : invocations (runCallbacks ctx n (table.handlers request.kind)
          ⟨raw.name, request, .ofWanted raw.wantReply⟩ s).2.2 =
          (table.handlers request.kind).map fun c => .request c.label raw.name request :=
        invocations_runCallbacks (hlawful.same request.kind)
      simp only [dispatch, hdecode, invokes, hasked, invocations_append, hdestroyed,
        List.append_nil]
      rw [← hhandlers]
      exact hrun

/-- If the token is cancelled at some callback of a list, then it is when all of them have run. -/
theorem runCallbacks_closed_of_mem {before after : List (Labelled RequestCallback)}
    {callback : Labelled RequestCallback}
    (h : ∀ c ∈ after, ∀ ctx p (s : Scratch), s.closed = true → (c.run ctx p s).2.1.closed = true)
    (hclosed : (callback.run ctx (runCallbacks ctx n before p s).1
      (runCallbacks ctx n before p s).2.1).2.1.closed = true) :
    (runCallbacks ctx n (before ++ callback :: after) p s).2.1.closed = true := by
  induction before generalizing p s with
  | nil =>
      simp only [List.nil_append, runCallbacks] at hclosed ⊢
      exact runCallbacks_closed h hclosed
  | cons first rest ih => exact ih hclosed

theorem runStartup_closed_of_mem {before after ran : List (Labelled StartupCallback)}
    {callback : Labelled StartupCallback}
    (h : ∀ c ∈ after, ∀ ctx (s : Scratch), s.closed = true → (c.run ctx s).1.closed = true)
    (hbefore : Startup ctx before s ran none t) (hclosed : (callback.run ctx t).1.closed = true) :
    (runStartup ctx (before ++ callback :: after) s).1.closed = true := by
  induction before generalizing s ran with
  | nil =>
      cases hbefore
      simp only [List.nil_append, runStartup]
      split
      · rename_i u hrun
        rw [hrun] at hclosed
        exact runStartup_closed h hclosed
      · rfl
  | cons first rest ih =>
      cases hbefore with
      | next hrun hrest => simpa only [List.cons_append, runStartup, hrun] using ih hrest

end Table

theorem Startup.closed {ctx : Context} {callbacks ran : List (Labelled StartupCallback)}
    {s t : Scratch} {e : Error} (h : Startup ctx callbacks s ran (some e) t) : t.closed = true := by
  generalize hfailed : some e = failed at h
  induction h with
  | done s => cases hfailed
  | fail hrun => rfl
  | next hrun hrest ih => exact ih hfailed

/-! ## Tables without errors -/

def Labelled.silenced (callback : Labelled RequestCallback) : Labelled RequestCallback where
  label := callback.label
  run ctx p s := ((callback.run ctx p s).1, (callback.run ctx p s).2.1, none)

namespace Table

/-- The same table, except that nothing that runs for a request fails. -/
def silenced (t : Table) : Table where
  startup := t.startup
  callbacks := t.callbacks.map fun (kind, callback) => (kind, callback.silenced)
  fallback := t.fallback.silenced
  observers := t.observers.map Labelled.silenced

end Table

def Act.isWarning : Act → Bool
  | .warn _ => true
  | _ => false

def withoutWarnings (acts : List Act) : List Act :=
  acts.filter fun a => !a.isWarning

@[simp] theorem withoutWarnings_append (acts rest : List Act) :
    withoutWarnings (acts ++ rest) = withoutWarnings acts ++ withoutWarnings rest := by
  simp [withoutWarnings]

@[simp] theorem withoutWarnings_cons (a : Act) (rest : List Act) :
    withoutWarnings (a :: rest) = (if a.isWarning then [] else [a]) ++ withoutWarnings rest := by
  cases h : a.isWarning <;> simp [withoutWarnings, h]

theorem withoutWarnings_warnings (text : Error → String) (errors : List Error) :
    withoutWarnings (errors.map fun e => .warn (text e)) = [] := by
  simp [withoutWarnings, Act.isWarning]

namespace Table

theorem handlers_silenced (t : Table) (kind : RequestKind) :
    t.silenced.handlers kind = (t.handlers kind).map Labelled.silenced := by
  have hregistered : t.silenced.registered kind = (t.registered kind).map Labelled.silenced := by
    simp only [registered, silenced]
    induction t.callbacks with
    | nil => rfl
    | cons callback rest ih => by_cases hkind : callback.1 = kind <;> simp [hkind, ih]
  simp only [handlers, hregistered, List.map_append]
  cases t.registered kind <;> rfl

theorem runCallbacks_silenced (ctx : Context) (n : Nat) (p : Pending) (s : Scratch)
    (callbacks : List (Labelled RequestCallback)) :
    (runCallbacks ctx n (callbacks.map Labelled.silenced) p s).1 =
        (runCallbacks ctx n callbacks p s).1 ∧
      (runCallbacks ctx n (callbacks.map Labelled.silenced) p s).2.1 =
        (runCallbacks ctx n callbacks p s).2.1 ∧
      withoutWarnings (runCallbacks ctx n (callbacks.map Labelled.silenced) p s).2.2 =
        withoutWarnings (runCallbacks ctx n callbacks p s).2.2 := by
  induction callbacks generalizing p s with
  | nil => exact ⟨rfl, rfl, rfl⟩
  | cons callback rest ih =>
      obtain ⟨hpending, hscratch, hacts⟩ :=
        ih (callback.run ctx p s).1 (callback.run ctx p s).2.1
      refine ⟨hpending, hscratch, ?_⟩
      simp only [List.map_cons, runCallbacks, withoutWarnings_cons, withoutWarnings_append,
        withoutWarnings_warnings]
      rw [← hacts]
      rfl

theorem dispatch_silenced (ctx : Context) (t : Table) (n : Nat) (raw : ChannelRequest)
    (s : Scratch) :
    (t.silenced.dispatch ctx n raw s).1 = (t.dispatch ctx n raw s).1 ∧
      withoutWarnings (t.silenced.dispatch ctx n raw s).2 =
        withoutWarnings (t.dispatch ctx n raw s).2 := by
  simp only [dispatch]
  split
  · exact ⟨rfl, rfl⟩
  · rename_i request hdecode
    obtain ⟨hpending, hscratch, hacts⟩ := runCallbacks_silenced ctx n
      ⟨raw.name, request, .ofWanted raw.wantReply⟩ s (t.handlers request.kind)
    rw [handlers_silenced]
    refine ⟨hscratch, ?_⟩
    simp only [withoutWarnings_append, hacts, hpending]

end Table

/-! ## One step -/

namespace Handler

variable {ctx : Context} {h t : Handler} {e : Event} {acts : List Act} {raw : ChannelRequest}

theorem forgoFrom_uninvoked (n : Nat) (requests : List ChannelRequest) :
    invocations (forgoFrom n requests) = [] := by
  induction requests generalizing n with
  | nil => rfl
  | cons r rest ih =>
      simp only [forgoFrom]
      split
      · simpa [Act.invocation?] using ih (n + 1)
      · exact ih (n + 1)

theorem warnings_uninvoked (outcome : Except Cause Unit) :
    invocations (execWarning outcome) = [] ∧ invocations (forwardWarning outcome) = [] := by
  cases outcome <;> exact ⟨rfl, rfl⟩

theorem table_of_move (hmove : Move ctx h e acts t) : t.table = h.table := by
  cases turn_of_move hmove with
  | take _ _ _ | leave _ _ => rfl
  | idle hidle => exact hidle.table

theorem table_of_run {log : Log} (hrun : Run (Handler.step ctx) h log t) : t.table = h.table :=
  hrun.invariant (P := fun s => s.table = h.table) rfl fun hsame hstep =>
    (table_of_move (move_of_step hstep)).trans hsame

theorem closed_of_run {log : Log} (hrun : Run (Handler.step ctx) h log t)
    (hlasting : h.table.Lasting) (hclosed : h.scratch.closed = true) : t.scratch.closed = true := by
  induction hrun with
  | nil => exact hclosed
  | snoc hbefore hstep ih =>
      exact closed_of_move (table_of_run hbefore ▸ hlasting) (move_of_step hstep) ih

theorem dropped_of_move (hmove : Move ctx h e acts t) (hdropped : h.inbox.dropped = true) :
    t.inbox.dropped = true := by
  cases hmove with
  | arrive r =>
      simp only [Inbox.send]
      split <;> exact hdropped
  | leave _ _ => rfl
  | brief _ | join _ _ | execEnds _ _ | forwardEnds _ | written _ => simpa using hdropped
  | _ => exact hdropped

/-- The callbacks that a step runs: the startup callbacks, or those for the request that it takes,
or none. -/
inductive Calls (ctx : Context) (h : Handler) (e : Event) (acts : List Act) (t : Handler) : Prop
  | startup (hphase : h.phase = .ready) (hevent : e = .advance) (hserving : t.phase = .serving)
      (hscratch : t.scratch = (Table.runStartup ctx h.table.startup h.scratch).1)
      (hacts : acts = (Table.runStartup ctx h.table.startup h.scratch).2)
  | request {raw : ChannelRequest} (htakes : h.takes? e = some raw) (hphase : h.phase = .serving)
      (hserving : t.phase = .serving)
      (hscratch : t.scratch = (h.table.dispatch ctx h.taken raw h.scratch).1)
      (hacts : acts = (h.table.dispatch ctx h.taken raw h.scratch).2)
  | none (htakes : h.takes? e = none) (hready : t.phase = .ready ↔ h.phase = .ready)
      (hquiet : invocations acts = [])

theorem calls_of_move (hmove : Move ctx h e acts t) : Calls ctx h e acts t := by
  cases hmove with
  | start hphase => exact .startup hphase rfl rfl rfl rfl
  | take hphase hopen hqueue =>
      exact .request (by simp [takes?, hphase, hopen, hqueue]) hphase hphase rfl rfl
  | leave hphase hend =>
      exact .none (takes_of_end hend _) (by simp [Handler.leave, hphase]) (forgoFrom_uninvoked _ _)
  | close hphase _ => exact .none (by simp [takes?, hphase]) (by simp [hphase]) rfl
  | @call i job act _ hact =>
      have hquiet : act.invocation? = none := by
        cases job <;> simp only [Job.callAct?, Option.some.injEq, reduceCtorEq] at hact <;>
          subst hact <;> rfl
      exact .none rfl Iff.rfl (by simp [hquiet])
  | @execEnds i request interactive outcome _ _ =>
      refine .none rfl (by simp) ?_
      split
      · rfl
      · exact (warnings_uninvoked outcome).1
  | @write i request interactive outcome _ _ _ =>
      refine .none rfl Iff.rfl ?_
      rw [invocations_append, (warnings_uninvoked outcome).1]
      rfl
  | @forwardEnds i request outcome _ =>
      refine .none rfl (by simp) ?_
      split
      · rfl
      · exact (warnings_uninvoked outcome).2
  | streamClosed hphase => exact .none rfl (by simp [hphase]) rfl
  | _ => exact .none rfl (by simp) rfl

theorem dispatch_of_takes (hmove : Move ctx h e acts t) (htakes : h.takes? e = some raw) :
    t.scratch = (h.table.dispatch ctx h.taken raw h.scratch).1 ∧
      acts = (h.table.dispatch ctx h.taken raw h.scratch).2 := by
  cases calls_of_move hmove with
  | startup hphase hevent =>
      subst hevent
      simp [takes?, hphase] at htakes
  | request htakes' _ _ hscratch hacts =>
      obtain rfl := Option.some.inj (htakes'.symm.trans htakes)
      exact ⟨hscratch, hacts⟩
  | none htakes' =>
      rw [htakes'] at htakes
      cases htakes

/-- On a channel whose token is cancelled no request is taken any more. -/
theorem processed_of_closed {log : Log} (hlasting : h.table.Lasting)
    (hclosed : h.scratch.closed = true) (hrun : Run (Handler.step ctx) h log t) :
    processed log = [] := by
  induction hrun with
  | nil => rfl
  | snoc hbefore _ ih =>
      have hkept := closed_of_run hbefore hlasting hclosed
      rw [processed_append, ih, processed_cons, takes_of_end (.inl hkept)]
      rfl

def silenced (h : Handler) : Handler :=
  { h with table := h.table.silenced }

/-- With silenced callbacks every step stays the same but for the warnings. -/
theorem silenced_move (hmove : Move ctx h e acts t) :
    ∃ acts', Move ctx h.silenced e acts' t.silenced ∧
      withoutWarnings acts = withoutWarnings acts' := by
  cases hmove with
  | arrive r => exact ⟨_, .arrive r, rfl⟩
  | hangUp => exact ⟨_, .hangUp, rfl⟩
  | cancel => exact ⟨_, .cancel, rfl⟩
  | start hphase => exact ⟨_, .start hphase, rfl⟩
  | @take raw rest hphase hopen hqueue =>
      obtain ⟨hscratch, hacts⟩ :=
        Table.dispatch_silenced ctx h.table h.taken raw h.scratch
      have hmove : Move ctx h.silenced _ _ _ := .take hphase hopen hqueue
      simp only [silenced, hscratch] at hmove
      exact ⟨_, hmove, hacts.symm⟩
  | leave hphase hend => exact ⟨_, .leave hphase hend, rfl⟩
  | close hphase hidle => exact ⟨_, .close hphase hidle, rfl⟩
  | call hwork hact => exact ⟨_, .call hwork hact, rfl⟩
  | @brief _ _ closes hwork =>
      have hmove : Move ctx h.silenced _ _ _ := .brief hwork
      cases closes <;> exact ⟨_, hmove, rfl⟩
  | join hwork hstop => exact ⟨_, .join hwork hstop, rfl⟩
  | execEnds hwork hend => exact ⟨_, .execEnds hwork hend, rfl⟩
  | write hwork hstop hline => exact ⟨_, .write hwork hstop hline, rfl⟩
  | forwardEnds hwork => exact ⟨_, .forwardEnds hwork, rfl⟩
  | written hwork => exact ⟨_, .written hwork, rfl⟩
  | streamClosed hphase => exact ⟨_, .streamClosed hphase, rfl⟩
  | pollSize hpoll => exact ⟨_, .pollSize hpoll, rfl⟩
  | awaitSize consumer => exact ⟨_, .awaitSize consumer, rfl⟩
  | abandonSize consumer => exact ⟨_, .abandonSize consumer, rfl⟩
  | serveSize hserve => exact ⟨_, .serveSize hserve, rfl⟩

end Handler

/-! ## A whole run -/

def Began (ctx : Context) (table : Table) (log : Log) (ran : List (Labelled StartupCallback))
    (failed : Option Error) : Prop :=
  ∃ τ ∈ log, τ.source.phase = .ready ∧ τ.event = .advance ∧
    Startup ctx table.startup τ.source.scratch ran failed τ.target.scratch

/-- A step with which the channel's token is cancelled: by the connection, by a startup callback
that fails, or by a callback that closes the channel. -/
inductive Closing (ctx : Context) (τ : Transition Handler Event Act) : Prop
  | parent (hevent : τ.event = .cancel)
  | failure {ran : List (Labelled StartupCallback)} {e : Error} (hphase : τ.source.phase = .ready)
      (hevent : τ.event = .advance)
      (hfails : Startup ctx τ.source.table.startup τ.source.scratch ran (some e) τ.target.scratch)
  | startup {before after ran : List (Labelled StartupCallback)}
      {callback : Labelled StartupCallback} {s : Scratch} (hphase : τ.source.phase = .ready)
      (hevent : τ.event = .advance)
      (htable : τ.source.table.startup = before ++ callback :: after)
      (hbefore : Startup ctx before τ.source.scratch ran none s)
      (hcloses : (callback.run ctx s).1.closed = true)
  | request {raw : ChannelRequest} {request : Request}
      {before after : List (Labelled RequestCallback)} {callback : Labelled RequestCallback}
      {p : Pending} {s : Scratch} {acts : List Act} (htakes : τ.source.takes? τ.event = some raw)
      (hasked : raw.asked? = some request)
      (htable : τ.source.table.handlers request.kind = before ++ callback :: after)
      (hbefore : Table.runCallbacks ctx τ.source.taken before
        ⟨raw.name, request, .ofWanted raw.wantReply⟩ τ.source.scratch = (p, s, acts))
      (hcloses : (callback.run ctx p s).2.1.closed = true)

structure Invoked (ctx : Context) (log : Log) (h : Handler) : Prop where
  lawful : h.table.Lawful
  waiting : h.phase = .ready → invocations (seen log) = [] ∧ processed log = []
  begun : h.phase ≠ .ready → ∃ ran failed, Began ctx h.table log ran failed ∧
    invocations (seen log) =
      (ran.map fun c => .startup c.label) ++ (processed log).flatMap h.table.invokes ∧
    (failed.isSome = true → h.scratch.closed = true ∧ processed log = [])

/-- The requests that have been taken on a channel, against those that have arrived. -/
structure Ordered (early : List ChannelRequest) (log : Log) (h : Handler) : Prop where
  lasting : h.table.Lasting
  taken : h.taken = (processed log).length
  queued : h.phase.left = false → early ++ arrived log = processed log ++ h.inbox.queued
  dropped : h.phase.left = true → h.inbox.dropped = true ∧
    ∃ rest, early ++ arrived log = processed log ++ rest ∧ (h.scratch.closed = false → rest = [])

section

variable {ctx : Context} {table : Table} {forwardOpen : Option ForwardOpen} {cancelled ended : Bool}
  {early : List ChannelRequest} {log : Log} {h t : Handler} {e : Event} {acts : List Act}

theorem Invoked.opened (hlawful : table.Lawful) :
    Invoked ctx [] (Handler.opened ctx table forwardOpen cancelled early ended) where
  lawful := hlawful
  waiting _ := ⟨rfl, rfl⟩
  begun hphase := (hphase rfl).elim

theorem Began.snoc {ran : List (Labelled StartupCallback)} {failed : Option Error}
    (hbegan : Began ctx table log ran failed) (τ : Transition Handler Event Act) :
    Began ctx table (log ++ [τ]) ran failed := by
  obtain ⟨σ, hmem, hfacts⟩ := hbegan
  exact ⟨σ, by simp [hmem], hfacts⟩

theorem Invoked.start (hinvoked : Invoked ctx log h) (htable : t.table = h.table)
    (hphase : h.phase = .ready) (hserving : t.phase = .serving)
    (hscratch : t.scratch = (Table.runStartup ctx h.table.startup h.scratch).1)
    (hacts : acts = (Table.runStartup ctx h.table.startup h.scratch).2) :
    Invoked ctx (log ++ [⟨h, .advance, acts, t⟩]) t := by
  obtain ⟨hnone, hprocessed⟩ := hinvoked.waiting hphase
  obtain ⟨ran, failed, hstartup, hran⟩ := Table.startup_runStartup ctx h.table.startup
    h.scratch
  rw [← hscratch] at hstartup
  have htakes : h.takes? .advance = none := by simp [Handler.takes?, hphase]
  refine ⟨htable ▸ hinvoked.lawful, fun hready => ?_, fun _ => ⟨ran, failed, ?_, ?_, ?_⟩⟩
  · rw [hserving] at hready
    cases hready
  · exact ⟨_, List.mem_append_right _ (List.mem_singleton.2 rfl), hphase, rfl, htable ▸ hstartup⟩
  · simp [hnone, hprocessed, htakes, hacts, hran]
  · intro hfailed
    obtain ⟨error, rfl⟩ := Option.isSome_iff_exists.1 hfailed
    exact ⟨hstartup.closed, by simp [hprocessed, htakes]⟩

theorem Invoked.keep (hinvoked : Invoked ctx log h) (htable : t.table = h.table)
    (hready : t.phase = .ready ↔ h.phase = .ready)
    (hclosed : h.scratch.closed = true → t.scratch.closed = true)
    (hruns : invocations acts = (h.takes? e).toList.flatMap h.table.invokes) :
    Invoked ctx (log ++ [⟨h, e, acts, t⟩]) t := by
  refine ⟨htable ▸ hinvoked.lawful, fun hphase => ?_, fun hphase => ?_⟩
  · have hwaiting := hready.1 hphase
    obtain ⟨hnone, hprocessed⟩ := hinvoked.waiting hwaiting
    have htakes : h.takes? e = none := by cases e <;> simp [Handler.takes?, hwaiting]
    simp [hnone, hprocessed, hruns, htakes]
  · obtain ⟨ran, failed, hbegan, hall, hfailed⟩ :=
      hinvoked.begun fun hwaiting => hphase (hready.2 hwaiting)
    refine ⟨ran, failed, htable ▸ hbegan.snoc _, by simp [hall, hruns, htable], fun hsome => ?_⟩
    obtain ⟨hbefore, hprocessed⟩ := hfailed hsome
    exact ⟨hclosed hbefore, by simp [hprocessed, Handler.takes_of_end (.inl hbefore)]⟩

theorem Invoked.step (hinvoked : Invoked ctx log h) (hstep : h.step ctx e = some (t, acts)) :
    Invoked ctx (log ++ [⟨h, e, acts, t⟩]) t := by
  have hmove := Handler.move_of_step hstep
  have htable := Handler.table_of_move hmove
  have hclosed := Handler.closed_of_move hinvoked.lawful.toLasting hmove
  cases Handler.calls_of_move hmove with
  | startup hphase hevent hserving hscratch hacts =>
      subst hevent
      exact hinvoked.start htable hphase hserving hscratch hacts
  | request htakes hphase hserving _ hacts =>
      refine hinvoked.keep htable (by simp [hphase, hserving]) hclosed ?_
      rw [hacts, hinvoked.lawful.invocations_dispatch, htakes]
      simp
  | none htakes hready hquiet =>
      exact hinvoked.keep htable hready hclosed (by rw [hquiet, htakes]; rfl)

theorem Ordered.opened (hlasting : table.Lasting) :
    Ordered early [] (Handler.opened ctx table forwardOpen cancelled early ended) where
  lasting := hlasting
  taken := rfl
  queued _ := by simp [Handler.opened]
  dropped hleft := by simp [Handler.opened, Handler.accepted, Phase.left] at hleft

theorem Ordered.step (hordered : Ordered early log h) (hstep : h.step ctx e = some (t, acts)) :
    Ordered early (log ++ [⟨h, e, acts, t⟩]) t := by
  have hmove := Handler.move_of_step hstep
  have hlasting : t.table.Lasting := (Handler.table_of_move hmove).symm ▸ hordered.lasting
  cases Handler.turn_of_move hmove with
  | @take raw rest hphase hopen hqueue =>
      have htakes : h.takes? .advance = some raw := by
        simp [Handler.takes?, hphase, hopen, hqueue]
      have hstay : h.phase.left = false := by rw [hphase]; rfl
      refine ⟨hlasting, by simp [htakes, hordered.taken], fun _ => ?_, fun hleft => ?_⟩
      · simp [hordered.queued hstay, htakes, hqueue, Handler.receives?]
      · rw [hstay] at hleft
        cases hleft
  | leave hphase hend =>
      have htakes := Handler.takes_of_end hend .advance
      have hstay : h.phase.left = false := by rw [hphase]; rfl
      refine ⟨hlasting, ?_, fun hleft => ?_, fun _ => ⟨rfl, h.inbox.queued, ?_, fun hopen => ?_⟩⟩
      · simpa [htakes, Handler.leave] using hordered.taken
      · simp [Handler.leave, Phase.left] at hleft
      · simpa [htakes, Handler.receives?] using hordered.queued hstay
      · -- A channel that is not cancelled leaves its loop only when nothing is queued.
        have hexhausted := hend.resolve_left (by simpa [Handler.leave, Scratch.stop] using hopen)
        simp only [Inbox.exhausted, Bool.and_eq_true, List.isEmpty_iff] at hexhausted
        exact hexhausted.1
  | idle hidle =>
      refine ⟨hlasting, ?_, fun hleft => ?_, fun hleft => ?_⟩
      · simpa [hidle.takes, hidle.taken] using hordered.taken
      · rw [hidle.left] at hleft
        simp [hidle.takes, hidle.queued, ← List.append_assoc, hordered.queued hleft]
      · rw [hidle.left] at hleft
        obtain ⟨hdropped, rest, hall, hrest⟩ := hordered.dropped hleft
        have hreceives : h.receives? e = none := by
          cases e <;> simp [Handler.receives?, Inbox.accepts, hdropped]
        refine ⟨Handler.dropped_of_move hmove hdropped, rest, ?_, fun hopen => hrest ?_⟩
        · simpa [hidle.takes, hreceives] using hall
        · by_contra hclosed
          have hkept := Handler.closed_of_move hordered.lasting hmove (by simpa using hclosed)
          rw [hopen] at hkept
          cases hkept

theorem invoked_of_run (hlawful : table.Lawful)
    (hrun : Run (Handler.step ctx) (Handler.opened ctx table forwardOpen cancelled early ended)
      log h) : Invoked ctx log h := by
  induction hrun with
  | nil => exact .opened hlawful
  | snoc _ hstep ih => exact ih.step hstep

theorem ordered_of_run (hlasting : table.Lasting)
    (hrun : Run (Handler.step ctx) (Handler.opened ctx table forwardOpen cancelled early ended)
      log h) : Ordered early log h := by
  induction hrun with
  | nil => exact .opened hlasting
  | snoc _ hstep ih => exact ih.step hstep

theorem Closing.closed {τ : Transition Handler Event Act} (hclosing : Closing ctx τ)
    (hlasting : τ.source.table.Lasting)
    (hstep : τ.source.step ctx τ.event = some (τ.target, τ.acts)) :
    τ.target.scratch.closed = true := by
  obtain ⟨h, e, acts, t⟩ := τ
  cases hclosing with
  | parent hevent =>
      obtain rfl : e = .cancel := hevent
      obtain ⟨htarget, _⟩ := Prod.mk.inj (Option.some.inj hstep)
      rw [← htarget]
      rfl
  | failure _ _ hfails => exact hfails.closed
  | startup hphase hevent htable hbefore hcloses =>
      obtain rfl : e = .advance := hevent
      simp only at hphase htable hbefore
      simp only [Handler.step, Handler.advance?, hphase, htable, Option.some.injEq,
        Prod.mk.injEq] at hstep
      rw [← hstep.1]
      refine Table.runStartup_closed_of_mem (fun c hc => ?_) hbefore hcloses
      exact hlasting.startup c (by simp [htable, hc])
  | @request raw request before after callback p s _ htakes hasked htable hbefore hcloses =>
      have hscratch := (Handler.dispatch_of_takes (Handler.move_of_step hstep) htakes).1
      have hdecode := ChannelRequest.asked_eq_some.1 hasked
      simp only at htable hbefore hscratch hlasting
      rw [hscratch]
      simp only [Table.dispatch, hdecode, htable]
      refine Table.runCallbacks_closed_of_mem (fun c hc => ?_) ?_
      · exact hlasting.handlers request.kind c (by simp [htable, hc])
      · rw [hbefore]
        exact hcloses

/-- Once the token is cancelled, no further request is taken, whatever is queued. -/
theorem processed_after_closing {pre post : Log} {τ : Transition Handler Event Act}
    (hlasting : h.table.Lasting) (hrun : Run (Handler.step ctx) h (pre ++ τ :: post) t)
    (hclosing : Closing ctx τ) : processed post = [] := by
  obtain ⟨hpre, hstep, hpost⟩ := hrun.at_step
  have hsource : τ.source.table.Lasting := Handler.table_of_run hpre ▸ hlasting
  have htarget : τ.target.table.Lasting := Handler.table_of_run (hpre.snoc hstep) ▸ hlasting
  exact Handler.processed_of_closed htarget (hclosing.closed hsource hstep) hpost

theorem silenced_of_run (hrun : Run (Handler.step ctx) h log t) :
    ∃ log' t', Run (Handler.step ctx) h.silenced log' t' ∧
      log'.map (·.event) = log.map (·.event) ∧
      log'.map (fun τ => withoutWarnings τ.acts) = log.map fun τ => withoutWarnings τ.acts := by
  -- The events stay the same; only the tables of the two states differ.
  have hsame : List.Forall₂ (· = ·) (log.map (·.event)) (log.map (·.event)) :=
    List.forall₂_eq_eq_eq ▸ rfl
  obtain ⟨log', t', hrun', hevents, hviews⟩ := hrun.exists_alike (R := fun h k => k = h.silenced)
    (fun {s s' t e e' acts} hsilenced hevent hstep => by
      obtain ⟨acts', hmove, hview⟩ := Handler.silenced_move (Handler.move_of_step hstep)
      subst hsilenced hevent
      exact ⟨_, acts', Handler.step_of_move hmove, rfl, hview⟩) rfl hsame
  exact ⟨log', t', hrun', hevents, hviews.symm⟩

end

/-- How a run of a channel that begins in `start`, where the requests `early` are waiting, deals with
its callbacks and requests. -/
structure Dispatches (ctx : Context) (start : Handler) (early : List ChannelRequest) (log : Log)
    (t : Handler) : Prop where
  /-- First the startup callbacks run, up to the first that fails; after them, unless one has failed,
  everything that the table has for the requests that are taken, one request after the other. -/
  runs : (t.phase = .ready ∧ invocations (seen log) = [] ∧ processed log = []) ∨
    ∃ ran failed, Began ctx start.table log ran failed ∧
      invocations (seen log) =
        (ran.map fun c => .startup c.label) ++ (processed log).flatMap start.table.invokes ∧
      (failed.isSome = true → processed log = [])
  /-- Requests are taken in the order in which they arrive. -/
  ordered : processed log <+: early ++ arrived log
  /-- Every request is taken before the channel's own task waits, unless the token is cancelled. -/
  complete : t.step ctx .advance = none → t.scratch.closed = false →
    processed log = early ++ arrived log
  /-- A request that does not decode is refused, and nothing else happens. -/
  malformed : ∀ {pre post : Log} {τ : Transition Handler Event Act} {raw : ChannelRequest},
    log = pre ++ τ :: post → τ.source.takes? τ.event = some raw → raw.asked? = none →
    invocations τ.acts = [] ∧
      answers τ.acts = (if raw.wantReply then [((processed pre).length, false)] else []) ∧
      τ.target.scratch = τ.source.scratch
  /-- While the token is cancelled no request is taken, whatever is queued. -/
  closed : ∀ {pre post : Log} {τ : Transition Handler Event Act}, log = pre ++ τ :: post →
    τ.source.scratch.closed = true → processed (τ :: post) = []
  /-- The connection, a startup callback that fails and every callback can cancel it. -/
  closing : ∀ {pre post : Log} {τ : Transition Handler Event Act}, log = pre ++ τ :: post →
    Closing ctx τ → processed post = []
  /-- Without the errors of callbacks for requests everything is the same but the warnings. -/
  tolerant : ∃ log' t', Run (Handler.step ctx) start.silenced log' t' ∧
    log'.map (·.event) = log.map (·.event) ∧
    log'.map (fun τ => withoutWarnings τ.acts) = log.map fun τ => withoutWarnings τ.acts

section

variable {ctx : Context} {table : Table} {forwardOpen : Option ForwardOpen} {cancelled ended : Bool}
  {early : List ChannelRequest} {log : Log} {t : Handler}

theorem Ordered.complete (hordered : Ordered early log t) (hwaits : t.step ctx .advance = none)
    (hopen : t.scratch.closed = false) : processed log = early ++ arrived log := by
  cases hleft : t.phase.left with
  | true =>
      obtain ⟨_, rest, hall, hrest⟩ := hordered.dropped hleft
      rw [hall, hrest hopen, List.append_nil]
  | false =>
      have hadvance : t.advance? ctx = none := hwaits
      have hempty : t.inbox.queued = [] := by
        cases hphase : t.phase with
        | ready => simp [Handler.advance?, hphase] at hadvance
        | serving =>
            cases hqueue : t.inbox.queued with
            | nil => rfl
            | cons raw rest =>
                simp [Handler.advance?, hphase, hopen, Inbox.take?, hqueue] at hadvance
        | draining | closing | closed =>
            rw [hphase] at hleft
            cases hleft
      rw [hordered.queued hleft, hempty, List.append_nil]

theorem Ordered.isPrefix (hordered : Ordered early log t) : processed log <+: early ++ arrived log := by
  cases hleft : t.phase.left with
  | true =>
      obtain ⟨_, rest, hall, _⟩ := hordered.dropped hleft
      exact ⟨rest, hall.symm⟩
  | false => exact ⟨t.inbox.queued, (hordered.queued hleft).symm⟩

/-- Whatever its callbacks do, a channel with a lawful table runs them in the order of their
registration, for its requests in the order of their arrival, until its token is cancelled. -/
theorem dispatches_in_order (hlawful : table.Lawful)
    (hrun : Run (Handler.step ctx) (Handler.opened ctx table forwardOpen cancelled early ended)
      log t) :
    Dispatches ctx (Handler.opened ctx table forwardOpen cancelled early ended) early log t := by
  have hinvoked := invoked_of_run hlawful hrun
  have hordered := ordered_of_run hlawful.toLasting hrun
  refine ⟨?_, hordered.isPrefix, hordered.complete, ?_, ?_, ?_, silenced_of_run hrun⟩
  · by_cases hphase : t.phase = .ready
    · exact .inl ⟨hphase, hinvoked.waiting hphase⟩
    · obtain ⟨ran, failed, hbegan, hall, hfailed⟩ := hinvoked.begun hphase
      rw [Handler.table_of_run hrun] at hbegan hall
      exact .inr ⟨ran, failed, hbegan, hall, fun hsome => (hfailed hsome).2⟩
  · intro pre post τ raw hlog htakes hasked
    subst hlog
    obtain ⟨hpre, hstep, _⟩ := hrun.at_step
    obtain ⟨hscratch, hacts⟩ := Handler.dispatch_of_takes (Handler.move_of_step hstep) htakes
    obtain ⟨hsame, hrefused, _⟩ := Table.dispatch_malformed hasked
    have hsource : τ.source.table.Lawful := (Handler.table_of_run hpre).symm ▸ hlawful
    refine ⟨?_, ?_, hscratch.trans hsame⟩
    · rw [hacts, hsource.invocations_dispatch, Table.invokes, hasked]
    · rw [hacts, hrefused, (ordered_of_run hlawful.toLasting hpre).taken]
  · intro pre post τ hlog hclosed
    subst hlog
    obtain ⟨hpre, hstep, hpost⟩ := hrun.at_step
    have hrest : Run (Handler.step ctx) τ.source (τ :: post) t := (Run.single hstep).trans hpost
    have hsource : τ.source.table.Lasting := (Handler.table_of_run hpre).symm ▸ hlawful.toLasting
    exact Handler.processed_of_closed hsource hclosed hrest
  · intro pre post τ hlog hclosing
    subst hlog
    exact processed_after_closing hlawful.toLasting hrun hclosing

/-- A script with one startup callback, and with two callbacks for a shell: the first fails and
closes the channel, the second answers. Its observer fails. -/
def failingScript : Simulation.Script where
  startup := [⟨"begin", none, true, false, false, none⟩]
  callbacks := [(.shell, ⟨"first", none, false, false, true, some .alreadyRunning⟩),
    (.shell, ⟨"second", some true, false, false, false, none⟩)]
  fallback := none
  observers := [⟨"observer", none, false, false, false, some .alreadyRunning⟩]

def failingRequests : List ChannelRequest :=
  [⟨"pty-req", [7], true⟩, ⟨"env", [], false⟩, ⟨"shell", [], true⟩, ⟨"shell", [], true⟩]

/-- Of four requests that are waiting, the first does not decode, the second goes to the fallback,
the third closes the channel, and the fourth, another shell, is not taken any more. -/
theorem dispatches_in_order_failing :
    ∃ log t, Run (Handler.step ⟨⟨"team", "ada"⟩, .standard⟩)
      (Handler.opened ⟨⟨"team", "ada"⟩, .standard⟩ failingScript.table none false failingRequests
        false) log t ∧
      invocations (seen log) = [.startup (some "begin"), .request none "env" (.other "env"),
        .request (some "observer") "env" (.other "env"), .request (some "first") "shell" .shell,
        .request (some "second") "shell" .shell, .request (some "observer") "shell" .shell] ∧
      answers (seen log) = [(0, false), (2, true)] ∧
      Dispatches ⟨⟨"team", "ada"⟩, .standard⟩
        (Handler.opened ⟨⟨"team", "ada"⟩, .standard⟩ failingScript.table none false failingRequests
          false) failingRequests log t := by
  have hcheck : ∃ log t, Run (Handler.step ⟨⟨"team", "ada"⟩, .standard⟩)
      (Handler.opened ⟨⟨"team", "ada"⟩, .standard⟩ failingScript.table none false failingRequests
        false) log t ∧
      invocations (seen log) = [.startup (some "begin"), .request none "env" (.other "env"),
        .request (some "observer") "env" (.other "env"), .request (some "first") "shell" .shell,
        .request (some "second") "shell" .shell, .request (some "observer") "shell" .shell] ∧
      answers (seen log) = [(0, false), (2, true)] :=
    exists_run_of_replay [.advance, .advance, .advance, .advance, .advance] (by decide +kernel)
  obtain ⟨log, t, hrun, hinvoked, hanswers⟩ := hcheck
  exact ⟨log, t, hrun, hinvoked, hanswers, dispatches_in_order failingScript.table_lawful hrun⟩

end

end SessionGateway.Channel
