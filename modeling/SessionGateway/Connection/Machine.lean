import SessionGateway.Connection.Basic

/-!
# The life of a connection

A connection as a transition system. Its own task starts the probing and the refusal of global
requests, waits for the user's pod, and takes attempts to open channels until they end or the
token is cancelled. Then it waits for the channels, cancels the token, waits for the other two
tasks, and closes the connection. Every attempt has a task of its own.

Each event is one thing that happens without a pause, and an event that cannot happen in a state
has no outcome there. An answer to an attempt counts only while the token is not cancelled:
cancellation is looked at first.
-/

namespace SessionGateway.Connection

namespace Stage

def finished : Stage → Bool
  | .serving h => h.phase = .closed
  | .ended | .crashed => true
  | _ => false

def isQueued : Stage → Bool
  | .queued _ => true
  | _ => false

def cancel : Stage → Stage
  | .serving h => .serving (h.mapScratch Channel.Scratch.close)
  | stage => stage

end Stage

def forgone (n : Nat) (a : Attempt) : List Act :=
  (Channel.Handler.forgoFrom 0 a.requests.queued).map (.channel n)

def failed (e : Channel.Error) : Act :=
  .warn ("Channel failed: " ++ e.message)

def faultWarning : Option Wire.Error → List Act
  | some e => [failed (.wire e)]
  | none => []

/-- What the gateway means to do with an attempt. -/
inductive Verdict where
  | accept (forwardOpen : Option ForwardOpen)
  | reject (reason : RejectionReason) (message : String) (fault : Option Wire.Error)

def verdict (a : Attempt) : Verdict :=
  match ChannelKind.ofName a.kind with
  | .session => .accept none
  | .directTcpip =>
    match ForwardOpen.decode a.payload with
    | .ok opened => .accept (some opened)
    | .error e => .reject .connectionFailed "malformed direct-tcpip request" (some e)
  | .unknown kind => .reject .unknownChannelType ("unknown channel type: " ++ kind) none

def tableFor : Option ForwardOpen → Channel.Table
  | some _ => Channel.Forward.table
  | none => Channel.Session.table

namespace State

/-- A connection that is set up, below a token that may be cancelled, when the clock shows zero. -/
def fresh (ctx : Context) (cancelled : Bool) : State where
  context := ctx
  clock := 0
  cancelled := cancelled
  phase := .ready
  channels := []
  opensEnded := false
  opensDropped := false
  keepalive := (Keepalive.ofConfig ctx.config).fresh
  discard := Discard.fresh

def freshAt (ctx : Context) (cancelled : Bool) (reading : Nat) : State :=
  { fresh ctx cancelled with clock := reading }

def cancel (s : State) : State :=
  { s with cancelled := true, channels := s.channels.map Stage.cancel }

def setStage (s : State) (n : Nat) (stage : Stage) : State :=
  { s with channels := s.channels.set n stage }

def receivesOpens (s : State) : Bool :=
  !s.opensEnded && !s.opensDropped

/-- The peer tries to open a channel. An attempt that nobody receives is destroyed at once. -/
def arrive (s : State) (kind : String) (payload : Wire.Bytes) : State × List Act :=
  if s.receivesOpens then
    ({ s with channels := s.channels ++ [.queued ⟨kind, payload, .fresh⟩] }, [])
  else ({ s with channels := s.channels ++ [.ended] }, [.drop s.channels.length])

def dropQueued (n : Nat) : List Stage → List Stage × List Act
  | [] => ([], [])
  | .queued a :: rest =>
    let (stages, acts) := dropQueued (n + 1) rest
    (.ended :: stages, .drop n :: forgone n a ++ acts)
  | stage :: rest =>
    let (stages, acts) := dropQueued (n + 1) rest
    (stage :: stages, acts)

def leave (s : State) : State × List Act :=
  let (channels, acts) := dropQueued 0 s.channels
  ({ s with phase := .draining, opensDropped := true, channels := channels }, acts)

def crashReport (k : Keepalive.State) : List Act :=
  match k.phase with
  | .crashed panic => [.error ("keepalive task panicked: " ++ panic)]
  | _ => []

/-- The next thing that the connection's own task does, unless it waits. -/
def advance? (s : State) : Option (State × List Act) :=
  match s.phase with
  | .ready =>
    if s.cancelled then some s.leave
    else some ({ s with phase := .provisioning }, [.provision s.context.identity])
  | .provisioning =>
    if s.cancelled then
      let (s, acts) := s.leave
      some (s, .giveUpPod :: acts)
    else none
  | .accepting =>
    if s.cancelled ∨ (s.opensEnded ∧ !s.channels.any Stage.isQueued) then some s.leave else none
  | .draining =>
    if s.channels.all Stage.finished then some ({ s with phase := .stopping }.cancel, []) else none
  | .stopping =>
    if s.keepalive.ended ∧ s.discard.stopped then
      some ({ s with phase := .closing }, crashReport s.keepalive ++ [.closeConnection])
    else none
  | .closing | .returned => none

def takeOpen? (s : State) : Option (State × List Act) :=
  if s.phase = .accepting then
    match s.channels.findIdx? Stage.isQueued with
    | some n =>
      match s.channels[n]? with
      | some (.queued a) => some (s.setStage n (.ready a), [])
      | _ => none
    | none => none
  else none

/-- The user's pod is ready, or cannot be made ready. A failure is recorded unless the connection
is cancelled. -/
def provisioned? (s : State) (outcome : Except Cause Unit) : Option (State × List Act) :=
  if s.phase = .provisioning then
    match outcome with
    | .ok () => some ({ s with phase := .accepting }, [])
    | .error c =>
      let (t, acts) := s.leave
      let report := if s.cancelled then [] else
        [Act.error ("Resources for " ++ s.context.identity.text ++ " not ready: " ++ c.chain)]
      some (t, report ++ acts)
  else none

/-- What the task of an attempt does when it runs. Once the connection is cancelled the attempt is
given up. -/
def runOpen? (s : State) (n : Nat) : Option (State × List Act) :=
  match s.channels[n]? with
  | some (.ready a) =>
    match verdict a with
    | .accept forwardOpen =>
      if s.cancelled then some (s.setStage n .ended, .drop n :: forgone n a)
      else some (s.setStage n (.accepting a forwardOpen), [.accept n])
    | .reject reason message fault =>
      if s.cancelled then
        some (s.setStage n .ended, .drop n :: forgone n a ++ faultWarning fault)
      else some (s.setStage n (.rejecting a fault), [.reject n reason message])
  | some (.accepting a _) =>
    if s.cancelled then some (s.setStage n .ended, .withdraw n :: forgone n a) else none
  | some (.rejecting a fault) =>
    if s.cancelled then
      some (s.setStage n .ended, .withdraw n :: forgone n a ++ faultWarning fault)
    else none
  | _ => none

/-- The peer's side of an accepted attempt is there, or could not be. The channel cannot be set up
if the queue of sizes is to be larger than a queue can be. -/
def accepted? (s : State) (n : Nat) (outcome : Except Cause Unit) : Option (State × List Act) :=
  if s.cancelled then none
  else match s.channels[n]? with
    | some (.accepting a forwardOpen) =>
      match outcome with
      | .ok () =>
        if Terminal.SizeQueue.maxCapacity < s.context.config.queueCapacity.toNat then
          some (s.setStage n .crashed, forgone n a)
        else
          let h := Channel.Handler.accepted s.context (tableFor forwardOpen) forwardOpen false
          some (s.setStage n (.serving { h with inbox := a.requests }), [])
      | .error c => some (s.setStage n .ended, forgone n a ++ [failed (.accept c)])
    | _ => none

def rejected? (s : State) (n : Nat) (outcome : Except Cause Unit) : Option (State × List Act) :=
  if s.cancelled then none
  else match s.channels[n]? with
    | some (.rejecting a fault) =>
      match outcome with
      | .ok () => some (s.setStage n .ended, forgone n a ++ faultWarning fault)
      | .error c => some (s.setStage n .ended, forgone n a ++ [failed (.reject c)])
    | _ => none

/-- Something happens to the requests of an attempt that is not answered yet. -/
def arriveEarly (a : Attempt) : Channel.Event → Option Attempt
  | .arrive request => some { a with requests := a.requests.send request }
  | .hangUp => some { a with requests := a.requests.finish }
  | _ => none

def channel? (s : State) (n : Nat) (e : Channel.Event) : Option (State × List Act) :=
  match s.channels[n]? with
  | some (.serving h) =>
    match e with
    | .cancel => none
    | e => (h.step s.context e).map fun (h, acts) =>
        (s.setStage n (.serving h), acts.map (.channel n))
  | some (.queued a) => (arriveEarly a e).map fun a => (s.setStage n (.queued a), [])
  | some (.ready a) => (arriveEarly a e).map fun a => (s.setStage n (.ready a), [])
  | some (.accepting a o) => (arriveEarly a e).map fun a => (s.setStage n (.accepting a o), [])
  | some (.rejecting a f) => (arriveEarly a e).map fun a => (s.setStage n (.rejecting a f), [])
  | _ => none

def probing (request : String) : Keepalive.Act → Act
  | .probe => .probe request
  | .exhausted failures => .warn (Keepalive.exhaustedWarning failures)

def givesUpProbe (k : Keepalive.State) : Keepalive.Event → Bool
  | .stop | .expire =>
    match k.phase with
    | .probing _ _ => true
    | _ => false
  | _ => false

/-- Something happens to the probing; once too many probes have failed, the connection is
cancelled. -/
def keepalive? (s : State) (e : Keepalive.Event) : Option (State × List Act) :=
  if s.phase = .ready then none
  else (s.keepalive.step s.cancelled s.clock e).map fun (k, acts) =>
    let t := { s with keepalive := k }
    let t := if acts.any (fun | .exhausted _ => true | _ => false) then t.cancel else t
    (t, (if givesUpProbe s.keepalive e then [.giveUpProbe] else []) ++
      acts.map (probing k.settings.request))

def discard? (s : State) (e : Discard.Event) : Option (State × List Act) :=
  if s.phase = .ready then none
  else (s.discard.step s.cancelled e).map fun (d, acts) =>
    ({ s with discard := d }, acts.map .discard)

def closed? (s : State) (outcome : Except Cause Unit) : Option (State × List Act) :=
  if s.phase = .closing then
    let report := match outcome with
      | .ok () => []
      | .error c => [Act.warn ("Closing connection failed: " ++ c.chain)]
    some ({ s with phase := .returned }, report)
  else none

def step (s : State) : Event → Option (State × List Act)
  | .elapse time => some ({ s with clock := s.clock + time }, [])
  | .cancel => some (s.cancel, [])
  | .openChannel kind payload => some (s.arrive kind payload)
  | .endOpens => some ({ s with opensEnded := true }, [])
  | .globalRequest r => some ({ s with discard := s.discard.arrive r }, [])
  | .endGlobals => some ({ s with discard := s.discard.finish }, [])
  | .advance => s.advance?
  | .takeOpen => s.takeOpen?
  | .provisioned outcome => s.provisioned? outcome
  | .runOpen n => s.runOpen? n
  | .accepted n outcome => s.accepted? n outcome
  | .rejected n outcome => s.rejected? n outcome
  | .channel n e => s.channel? n e
  | .keepalive e => s.keepalive? e
  | .discard e => s.discard? e
  | .connectionClosed outcome => s.closed? outcome

end State

end SessionGateway.Connection
