import SessionGateway.Channel.Basic

/-!
# Dispatch tables

What a channel does with its requests is a table of callbacks. Startup callbacks run once, up to
the first that fails. For each request that decodes, the callbacks of its kind run in the order of
their registration, or the fallback if there are none, and then every observer; an error stops
none of them.
-/

namespace SessionGateway.Channel

/-- Something that runs, and the label that it was registered with, if it was registered. -/
structure Labelled (α : Type) where
  label : Option String
  run : α

abbrev StartupCallback :=
  Context → Scratch → Scratch × Option Error

abbrev RequestCallback :=
  Context → Pending → Scratch → Pending × Scratch × Option Error

def refuse : RequestCallback := fun _ p s =>
  (p.reply false, s, none)

/-- Leaves a request alone; it marks where requests are recorded. -/
def observe : RequestCallback := fun _ p s =>
  (p, s, none)

structure Table where
  startup : List (Labelled StartupCallback)
  callbacks : List (RequestKind × Labelled RequestCallback)
  fallback : Labelled RequestCallback
  observers : List (Labelled RequestCallback)

namespace Table

def empty : Table where
  startup := []
  callbacks := []
  fallback := ⟨none, refuse⟩
  observers := []

def onStart (t : Table) (label : String) (run : StartupCallback) : Table :=
  { t with startup := t.startup ++ [⟨some label, run⟩] }

def on (t : Table) (kind : RequestKind) (label : String) (run : RequestCallback) : Table :=
  { t with callbacks := t.callbacks ++ [(kind, ⟨some label, run⟩)] }

def otherwise (t : Table) (label : String) (run : RequestCallback) : Table :=
  { t with fallback := ⟨some label, run⟩ }

def observing (t : Table) (label : String) (run : RequestCallback) : Table :=
  { t with observers := t.observers ++ [⟨some label, run⟩] }

def registered (t : Table) (kind : RequestKind) : List (Labelled RequestCallback) :=
  (t.callbacks.filter (·.1 = kind)).map (·.2)

/-- What runs for a request of a kind: its callbacks or else the fallback, then the observers. -/
def handlers (t : Table) (kind : RequestKind) : List (Labelled RequestCallback) :=
  (match t.registered kind with
    | [] => [t.fallback]
    | callbacks => callbacks) ++ t.observers

/-- Runs the startup callbacks in order. The first error is recorded and closes the channel. -/
def runStartup (ctx : Context) : List (Labelled StartupCallback) → Scratch → Scratch × List Act
  | [], s => (s, [])
  | callback :: rest, s =>
    let act := Act.started callback.label s.running s.closed
    match callback.run ctx s with
    | (s, none) =>
      let (s, acts) := runStartup ctx rest s
      (s, act :: acts)
    | (s, some e) => (s.close, [act, .warn ("Channel startup failed: " ++ e.message)])

/-- The answer that a callback has given to request number `n`, if it has given one. -/
def answered (n : Nat) (before after : ReplySlot) : List Act :=
  match before, after with
  | .waiting, .answered ok => [.answer n ok]
  | _, _ => []

/-- Runs callbacks for request number `n` in order. Errors are recorded. -/
def runCallbacks (ctx : Context) (n : Nat) :
    List (Labelled RequestCallback) → Pending → Scratch → Pending × Scratch × List Act
  | [], p, s => (p, s, [])
  | callback :: rest, p, s =>
    let (p', s', error) := callback.run ctx p s
    let warnings := error.toList.map fun e =>
      Act.warn ("Handling " ++ p.name ++ " request failed: " ++ e.message)
    let (q, t, acts) := runCallbacks ctx n rest p' s'
    (q, t, .invoked callback.label s.running s.closed p :: answered n p.slot p'.slot ++
      warnings ++ acts)

def destroyed (n : Nat) (slot : ReplySlot) : List Act :=
  if slot = .waiting then [.forgo n] else []

/-- Handles request number `n`. One that does not decode is refused and reaches no callback. -/
def dispatch (t : Table) (ctx : Context) (n : Nat) (raw : ChannelRequest) (s : Scratch) :
    Scratch × List Act :=
  match Request.decode raw.name raw.payload with
  | .error e =>
    (s, .warn ("Dropping malformed " ++ raw.name ++ " request: " ++ e.message) ::
      if raw.wantReply then [.answer n false] else [])
  | .ok request =>
    let p : Pending := ⟨raw.name, request, .ofWanted raw.wantReply⟩
    let (q, t, acts) := runCallbacks ctx n (t.handlers request.kind) p s
    (t, acts ++ destroyed n q.slot)

end Table

end SessionGateway.Channel
