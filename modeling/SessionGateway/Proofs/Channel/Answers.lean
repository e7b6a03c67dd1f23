import SessionGateway.Proofs.Channel.Requests

/-!
# The answers of a channel

A forward refuses every request. What a session answers depends on the requests that it has taken
before, and for a new terminal size on whether the queue of sizes takes it: a session remembers
whether a command has been started and whether there is a terminal, and both can be told from the
history of its requests.
-/

namespace SessionGateway

def ChannelRequest.asked? (r : ChannelRequest) : Option Request :=
  (Request.decode r.name r.payload).toOption

def ChannelRequest.asksTerminal (r : ChannelRequest) : Bool :=
  match r.asked? with
  | some (.pty _) => true
  | _ => false

/-- Whether a request asks for a command that a session can start: a shell, whatever the payload,
or a subsystem that is configured. -/
def ChannelRequest.startable (config : Config) (r : ChannelRequest) : Bool :=
  r.name = "shell" || match r.asked? with
    | some (.subsystem name) => (config.subsystem? name).isSome
    | _ => false

theorem RequestKind.ofName_shell {name : String} : ofName name = .shell ↔ name = "shell" := by
  constructor
  · intro hkind
    by_cases hname : name = "shell"
    · exact hname
    · simp only [ofName, hname, if_false] at hkind
      repeat' split at hkind
      all_goals cases hkind
  · rintro rfl
    rfl

/-- The name of a request decides its kind, and the payload only whether it decodes. -/
theorem Request.kind_of_decode {name : String} {payload : Wire.Bytes} {request : Request}
    (hdecode : Request.decode name payload = .ok request) :
    request.kind = RequestKind.ofName name := by
  unfold Request.decode at hdecode
  split at hdecode
  · rename_i hkind
    cases hdecode
    exact hkind.symm
  · rename_i hkind
    cases hread : readPty.run payload with
    | error e => simp [hread, Except.map] at hdecode
    | ok pty =>
        simp only [hread, Except.map, Except.ok.injEq] at hdecode
        rw [hkind, ← hdecode]
        rfl
  · rename_i hkind
    cases hread : readWindowChange.run payload with
    | error e => simp [hread, Except.map] at hdecode
    | ok dimensions =>
        simp only [hread, Except.map, Except.ok.injEq] at hdecode
        rw [hkind, ← hdecode]
        rfl
  · rename_i hkind
    cases hread : readSubsystem.run payload with
    | error e => simp [hread, Except.map] at hdecode
    | ok name =>
        simp only [hread, Except.map, Except.ok.injEq] at hdecode
        rw [hkind, ← hdecode]
        rfl
  · rename_i hkind
    cases hdecode
    exact hkind.symm

namespace ChannelRequest

theorem asked_eq_some {r : ChannelRequest} {request : Request} :
    r.asked? = some request ↔ Request.decode r.name r.payload = .ok request := by
  unfold asked?
  cases Request.decode r.name r.payload <;> simp [Except.toOption]

theorem asked_eq_none {r : ChannelRequest} :
    r.asked? = none ↔ ∃ e, Request.decode r.name r.payload = .error e := by
  unfold asked?
  cases Request.decode r.name r.payload <;> simp [Except.toOption]

theorem asked_shell {r : ChannelRequest} : r.asked? = some .shell ↔ r.name = "shell" := by
  rw [asked_eq_some, ← RequestKind.ofName_shell]
  constructor
  · intro hdecode
    exact (Request.kind_of_decode hdecode).symm
  · intro hkind
    simp [Request.decode, hkind]

end ChannelRequest

namespace Channel

variable {ctx : Context} {n : Nat} {raw : ChannelRequest} {s : Scratch}

/-! ## Handling one request -/

theorem Table.dispatch_malformed {t : Table} (hasked : raw.asked? = none) :
    (t.dispatch ctx n raw s).1 = s ∧
      answers (t.dispatch ctx n raw s).2 = (if raw.wantReply then [(n, false)] else []) ∧
      forgone (t.dispatch ctx n raw s).2 = [] := by
  obtain ⟨e, hdecode⟩ := ChannelRequest.asked_eq_none.1 hasked
  simp only [dispatch, hdecode]
  split <;> exact ⟨trivial, rfl, rfl⟩

/-- If one callback handles a request and answers it with `ok`, and otherwise requests are only
observed, then this is the one answer, and the callback alone has changed the state. -/
theorem Table.dispatch_single {t : Table} {callback : Labelled RequestCallback}
    {label : Option String} {request : Request} {ok : Bool} (hasked : raw.asked? = some request)
    (hhandlers : t.handlers request.kind = [callback, ⟨label, observe⟩])
    (hreply : ∀ p : Pending, p.request = request → (callback.run ctx p s).1 = p.reply ok) :
    (t.dispatch ctx n raw s).1 =
        (callback.run ctx ⟨raw.name, request, .ofWanted raw.wantReply⟩ s).2.1 ∧
      answers (t.dispatch ctx n raw s).2 = (if raw.wantReply then [(n, ok)] else []) ∧
      forgone (t.dispatch ctx n raw s).2 = [] := by
  have hdecode := ChannelRequest.asked_eq_some.1 hasked
  have hslot := hreply ⟨raw.name, request, .ofWanted raw.wantReply⟩ rfl
  have hwarnings : ∀ errors : List Error, ∀ text : Error → String,
      answers (errors.map fun e => .warn (text e)) = [] ∧
        forgone (errors.map fun e => .warn (text e)) = [] := by
    intro errors text
    induction errors with
    | nil => exact ⟨rfl, rfl⟩
    | cons e rest ih => simpa [Act.answer?, Act.forgone?] using ih
  simp only [dispatch, hdecode, hhandlers, runCallbacks, observe, hslot]
  refine ⟨trivial, ?_, ?_⟩
  · cases raw.wantReply <;>
      simp [hwarnings, Act.answer?, answered, destroyed, Pending.reply, ReplySlot.ofWanted,
        ReplySlot.reply]
  · cases raw.wantReply <;>
      simp [hwarnings, Act.forgone?, answered, destroyed, Pending.reply, ReplySlot.ofWanted,
        ReplySlot.reply]

theorem Forward.table_answering : Forward.table.Answering fun _ _ _ => false := by
  have hdispatch : ∀ ctx n raw s,
      answers (Forward.table.dispatch ctx n raw s).2 =
          (if raw.wantReply then [(n, false)] else []) ∧
        forgone (Forward.table.dispatch ctx n raw s).2 = [] := by
    intro ctx n raw s
    cases hasked : raw.asked? with
    | none => exact (Table.dispatch_malformed hasked).2
    | some request =>
        exact (Table.dispatch_single hasked (Forward.handlers_table _) fun _ _ => rfl).2
  exact ⟨fun ctx n raw s => (hdispatch ctx n raw s).1, fun ctx n raw s => (hdispatch ctx n raw s).2⟩

namespace Session

/-- The answer to a request on a session, told from whether a command has been started, whether
there is a terminal, and the queue of sizes. -/
def answer (config : Config) (started terminal : Bool) (sizes : Terminal.SizeQueue)
    (r : ChannelRequest) : Bool :=
  match r.asked? with
  | none => false
  | some .shell | some (.subsystem _) => r.startable config && !started
  | some (.pty _) => true
  | some (.windowChange dimensions) => !terminal || (sizes.fill dimensions.size).isOk
  | some (.other _) => false

theorem reply_handlerFor {request : Request} (hasked : raw.asked? = some request) (p : Pending)
    (hrequest : p.request = request) :
    ((handlerFor request.kind).run ctx p s).1 =
      p.reply (answer ctx.config s.commandStarted s.pty.isSome s.sizes raw) := by
  cases request with
  | shell =>
      have hname := ChannelRequest.asked_shell.1 hasked
      simp only [answer, hasked, ChannelRequest.startable, hname]
      cases hstarted : s.commandStarted <;>
        simp [Request.kind, handlerFor, onShell, hstarted]
  | pty pty =>
      simp only [answer, hasked, Request.kind, handlerFor, onPty, hrequest]
      split <;> rfl
  | windowChange dimensions =>
      simp only [answer, hasked, Request.kind, handlerFor, onWindowChange, hrequest]
      cases hpty : s.pty with
      | none => rfl
      | some pty =>
          cases hfill : s.sizes.fill dimensions.size <;> simp [Except.isOk, Except.toBool]
  | subsystem name =>
      have hname : ¬ raw.name = "shell" := by
        rw [← ChannelRequest.asked_shell, hasked]
        simp
      simp only [answer, hasked, ChannelRequest.startable, hname, Request.kind, handlerFor,
        onSubsystem, hrequest]
      cases hpath : ctx.config.subsystem? name with
      | none => simp
      | some path => cases hstarted : s.commandStarted <;> simp
  | other name => simp [answer, hasked, Request.kind, handlerFor, refuse]

theorem table_answering : table.Answering fun ctx s raw =>
    answer ctx.config s.commandStarted s.pty.isSome s.sizes raw := by
  have hdispatch : ∀ ctx n raw s,
      answers (table.dispatch ctx n raw s).2 = (if raw.wantReply then
          [(n, answer ctx.config s.commandStarted s.pty.isSome s.sizes raw)] else []) ∧
        forgone (table.dispatch ctx n raw s).2 = [] := by
    intro ctx n raw s
    cases hasked : raw.asked? with
    | none =>
        have hvalue : answer ctx.config s.commandStarted s.pty.isSome s.sizes raw = false := by
          simp [answer, hasked]
        rw [hvalue]
        exact (Table.dispatch_malformed hasked).2
    | some request =>
        exact (Table.dispatch_single hasked (handlers_table _) (reply_handlerFor hasked)).2
  exact ⟨fun ctx n raw s => (hdispatch ctx n raw s).1, fun ctx n raw s => (hdispatch ctx n raw s).2⟩

end Session

end Channel

end SessionGateway
