import SessionGateway.Proofs.Channel.Dispatch
import SessionGateway.Proofs.Channel.Origin

/-!
# The warnings of a channel

A channel warns of a request that does not decode, of a request that a session cannot grant as it
should, and of a command or a forward that has failed before its token was cancelled. Whether one of
these has come about can be told from what happens and from the requests before it, and a step
records one warning if it has, and none otherwise.
-/

namespace SessionGateway.Channel

inductive Trouble where
  | malformed (name : String) (e : Wire.Error)
  /-- A callback for a request with this name has failed. -/
  | failed (name : String) (e : Error)
  | exec (c : Cause)
  | forward (c : Cause)
  deriving DecidableEq, Repr

def Trouble.text : Trouble → String
  | .malformed name e => "Dropping malformed " ++ name ++ " request: " ++ e.message
  | .failed name e => "Handling " ++ name ++ " request failed: " ++ e.message
  | .exec c => "Exec failed: " ++ c.chain
  | .forward c => "Forward failed: " ++ c.chain

def warnings (acts : List Act) : List Act :=
  acts.filter Act.isWarning

/-- What goes wrong with a request on a session, told from whether a command has been started,
whether there is a terminal, and the queue of sizes. A shell or a subsystem comes too late after
another, but a subsystem that is not configured is always told to be unknown; and the queue may have
no room for the size that a request brings. -/
def Session.complaint? (config : Config) (started terminal : Bool) (sizes : Terminal.SizeQueue)
    (r : ChannelRequest) : Option Error :=
  match r.asked? with
  | some .shell => if started then some .alreadyRunning else none
  | some (.subsystem name) =>
    if config.subsystem? name = none then some (.unknownSubsystem name)
    else if started then some .alreadyRunning
    else none
  | _ =>
    match (Session.broughtSize? terminal r).map sizes.fill with
    | some (.error e) => some (.sizes e)
    | _ => none

def Job.trouble? (c : Cause) : Job → Option Trouble
  | .exec _ _ => some (.exec c)
  | .forward _ => some (.forward c)
  | .idle _ | .brief _ _ => none

namespace Handler

/-- What goes wrong with a request that a channel takes after the requests `before`. On a forward
only the payload can be wrong: it refuses whatever decodes. -/
def complaint? (config : Config) (before : List ChannelRequest) (h : Handler) (r : ChannelRequest) :
    Option Trouble :=
  match Request.decode r.name r.payload with
  | .error e => some (.malformed r.name e)
  | .ok _ =>
    if h.scratch.forwardOpen.isSome then none
    else (Session.complaint? config (before.any (·.startable config)) (before.any (·.asksTerminal))
      h.scratch.sizes r).map (.failed r.name)

/-- What goes wrong with an event on a channel that has taken the requests `before`: with the request
that is taken, or with a call that fails before the tasks are told to stop. -/
def trouble? (config : Config) (before : List ChannelRequest) (h : Handler) (e : Event) :
    Option Trouble :=
  match h.takes? e with
  | some r => h.complaint? config before r
  | none =>
    match e with
    | .returned i (.error c) =>
      if h.scratch.stopped then none else h.scratch.works[i]?.bind fun w => w.job.trouble? c
    | _ => none

end Handler

section

variable (acts rest : List Act) (a : Act)

@[simp] theorem warnings_nil : warnings [] = [] := rfl

@[simp] theorem warnings_append : warnings (acts ++ rest) = warnings acts ++ warnings rest := by
  simp [warnings]

@[simp] theorem warnings_cons :
    warnings (a :: rest) = (if a.isWarning then [a] else []) ++ warnings rest := by
  cases h : a.isWarning <;> simp [warnings, h]

theorem warnings_map_warn {α : Type} (text : α → String) (xs : List α) :
    warnings (xs.map fun x => .warn (text x)) = xs.map fun x => .warn (text x) := by
  simp [warnings, Act.isWarning]

end

variable {ctx : Context} {n : Nat} {raw : ChannelRequest} {s : Scratch}

/-! ## Handling one request -/

namespace Table

theorem warnings_answered (before after : ReplySlot) : warnings (answered n before after) = [] := by
  unfold answered
  split <;> rfl

theorem warnings_destroyed (slot : ReplySlot) : warnings (destroyed n slot) = [] := by
  unfold destroyed
  split <;> rfl

theorem warnings_dispatch_malformed {t : Table} {e : Wire.Error}
    (hdecode : Request.decode raw.name raw.payload = .error e) :
    warnings (t.dispatch ctx n raw s).2 = [.warn (Trouble.malformed raw.name e).text] := by
  simp only [dispatch, hdecode]
  split <;> rfl

/-- If one callback handles a request, and otherwise requests are only observed, then the warning is
about the error of this callback. -/
theorem warnings_dispatch_single {t : Table} {callback : Labelled RequestCallback}
    {label : Option String} {request : Request}
    (hdecode : Request.decode raw.name raw.payload = .ok request)
    (hhandlers : t.handlers request.kind = [callback, ⟨label, observe⟩]) :
    warnings (t.dispatch ctx n raw s).2 =
      (callback.run ctx ⟨raw.name, request, .ofWanted raw.wantReply⟩ s).2.2.toList.map fun e =>
        .warn (Trouble.failed raw.name e).text := by
  have htext : ∀ errors : List Error, warnings (errors.map fun e =>
      .warn ("Handling " ++ raw.name ++ " request failed: " ++ e.message)) =
        errors.map fun e => .warn (Trouble.failed raw.name e).text :=
    warnings_map_warn _
  simp only [dispatch, hdecode, hhandlers, runCallbacks, observe, warnings_append, warnings_cons,
    warnings_answered, warnings_destroyed, Act.isWarning, htext]
  simp

end Table

theorem Session.complaint_handlerFor {request : Request} (hasked : raw.asked? = some request)
    (p : Pending) (hrequest : p.request = request) :
    ((handlerFor request.kind).run ctx p s).2.2 =
      complaint? ctx.config s.commandStarted s.pty.isSome s.sizes raw := by
  cases request with
  | shell =>
      simp only [complaint?, hasked, Request.kind, handlerFor, onShell]
      split <;> rfl
  | pty pty =>
      simp only [complaint?, broughtSize?, hasked, Request.kind, handlerFor, onPty, hrequest,
        Option.map_some]
      cases s.sizes.fill pty.dimensions.size <;> rfl
  | windowChange dimensions =>
      simp only [complaint?, broughtSize?, hasked, Request.kind, handlerFor, onWindowChange, hrequest]
      cases hpty : s.pty with
      | none => rfl
      | some pty =>
          simp only [Option.isSome_some, if_true, Option.map_some]
          cases s.sizes.fill dimensions.size <;> rfl
  | subsystem name =>
      simp only [complaint?, hasked, Request.kind, handlerFor, onSubsystem, hrequest]
      cases ctx.config.subsystem? name with
      | none => rfl
      | some path => cases s.commandStarted <;> rfl
  | other name => simp [complaint?, broughtSize?, hasked, Request.kind, handlerFor, refuse]

namespace Handler

variable {forwardOpen : Option ForwardOpen} {cancelled ended : Bool} {early : List ChannelRequest}
  {log : Log} {h t : Handler} {e : Event} {acts : List Act}

theorem warnings_forgoFrom (m : Nat) (requests : List ChannelRequest) :
    warnings (forgoFrom m requests) = [] := by
  induction requests generalizing m with
  | nil => rfl
  | cons r rest ih =>
      simp only [forgoFrom]
      split
      · simpa [Act.isWarning] using ih (m + 1)
      · exact ih (m + 1)

/-- Whatever a channel is opened for, its tasks and its table stay the ones of that. -/
theorem rooted_of_run
    (hrun : Run (Handler.step ctx)
      (Handler.opened ctx (Connection.tableFor forwardOpen) forwardOpen cancelled early ended) log h) :
    ∃ asked, h.Rooted ctx forwardOpen asked := by
  refine hrun.invariant (P := fun h => ∃ asked, h.Rooted ctx forwardOpen asked)
    ⟨early, rfl, rfl, fun r hr => hr, fun w hw => by cases hw⟩ ?_
  rintro s t e acts ⟨asked, hrooted⟩ hstep
  cases harrival : e with
  | arrive r =>
      refine ⟨r :: asked, ((hrooted.mono fun q hq => List.mem_cons_of_mem r hq).move
        (move_of_step hstep) fun q hq => ?_).1⟩
      rw [harrival] at hq
      obtain rfl := Event.arrive.inj hq
      exact List.mem_cons_self
  | _ => exact ⟨asked, (hrooted.move (move_of_step hstep) fun q hq => by simp [harrival] at hq).1⟩

theorem warnings_start (hrooted : ∃ asked, h.Rooted ctx forwardOpen asked) :
    warnings (Table.runStartup ctx h.table.startup h.scratch).2 = [] := by
  obtain ⟨asked, hrooted⟩ := hrooted
  rw [hrooted.table]
  cases forwardOpen with
  | none => rfl
  | some opened =>
      have hopened := hrooted.opened
      simp [Connection.tableFor, Forward.table, Table.empty, Table.onStart, Table.observing,
        Table.runStartup, Forward.onStart, hopened, Act.isWarning]

/-- The request that a channel takes gives one warning, if something is wrong with it. -/
theorem warnings_take
    (hrun : Run (Handler.step ctx)
      (Handler.opened ctx (Connection.tableFor forwardOpen) forwardOpen cancelled early ended) log h)
    (raw : ChannelRequest) :
    warnings (h.table.dispatch ctx h.taken raw h.scratch).2 =
      (h.complaint? ctx.config (processed log) raw).toList.map fun u => .warn u.text := by
  obtain ⟨asked, hrooted⟩ := rooted_of_run hrun
  cases hdecode : Request.decode raw.name raw.payload with
  | error e =>
      rw [Table.warnings_dispatch_malformed hdecode]
      simp [complaint?, hdecode]
  | ok request =>
      rw [hrooted.table]
      cases forwardOpen with
      | some opened =>
          rw [Connection.tableFor, Table.warnings_dispatch_single hdecode (Forward.handlers_table _)]
          simp [complaint?, hdecode, hrooted.opened, refuse]
      | none =>
          have hknown := Session.remembers_of_run hrun
          have hasked := ChannelRequest.asked_eq_some.2 hdecode
          rw [Connection.tableFor, Table.warnings_dispatch_single hdecode (Session.handlers_table _),
            Session.complaint_handlerFor hasked _ rfl, hknown.command, hknown.terminal]
          simp only [complaint?, hdecode, hrooted.opened, Option.isSome_none]
          cases Session.complaint? _ _ _ _ raw <;> rfl

theorem trouble_of_returned {config : Config} {before : List ChannelRequest} {i : Nat} {job : Job}
    {stage : Job.Stage} (outcome : Except Cause Unit)
    (hwork : h.scratch.works[i]? = some ⟨job, stage⟩) :
    h.trouble? config before (.returned i outcome) = if h.scratch.stopped then none else
      match outcome with
      | .ok () => none
      | .error c => job.trouble? c := by
  cases outcome with
  | ok _ => simp [trouble?, takes?]
  | error c => simp [trouble?, takes?, hwork]

/-- Nothing goes wrong any more on a channel whose token is cancelled. -/
theorem trouble_of_closed {config : Config} {before : List ChannelRequest}
    (hclosed : h.scratch.closed = true) (hstopped : h.scratch.stopped = true) (e : Event) :
    h.trouble? config before e = none := by
  unfold trouble?
  rw [takes_of_end (.inl hclosed) e]
  dsimp only
  split
  · rw [if_pos hstopped]
  · rfl

/-- A step of a channel records one warning if something goes wrong with it, and none otherwise. -/
theorem warnings_of_step
    (hrun : Run (Handler.step ctx)
      (Handler.opened ctx (Connection.tableFor forwardOpen) forwardOpen cancelled early ended) log h)
    (hstep : h.step ctx e = some (t, acts)) :
    warnings acts = (h.trouble? ctx.config (processed log) e).toList.map fun u => .warn u.text := by
  cases move_of_step hstep with
  | start hphase =>
      rw [warnings_start (rooted_of_run hrun)]
      simp [trouble?, takes?, hphase]
  | @take raw rest hphase hopen hqueue =>
      have htakes : h.takes? .advance = some raw := by simp [takes?, hphase, hopen, hqueue]
      rw [warnings_take hrun]
      simp [trouble?, htakes]
  | leave _ hend =>
      rw [warnings_forgoFrom]
      simp [trouble?, takes_of_end hend]
  | close hphase _ => simp [trouble?, takes?, hphase, Act.isWarning]
  | @call i job act _ hact =>
      cases job <;> simp only [Job.callAct?, Option.some.injEq, reduceCtorEq] at hact <;>
        subst hact <;> rfl
  | @execEnds i request interactive outcome hwork _ =>
      rw [trouble_of_returned outcome hwork]
      split <;> cases outcome <;> rfl
  | @write i request interactive outcome hwork hstop _ =>
      rw [trouble_of_returned outcome hwork, hstop]
      cases outcome <;> rfl
  | @forwardEnds i request outcome hwork =>
      rw [trouble_of_returned outcome hwork]
      split <;> cases outcome <;> rfl
  | _ => rfl

end Handler

end SessionGateway.Channel
