import SessionGateway.Simulation.Basic
import SessionGateway.Simulation.Peer

/-!
# A channel by itself

A channel that is served without a connection around it, below a token of its own, between a peer
and a program.
-/

namespace SessionGateway.Simulation

/-- A callback that has been run: its label, how many tasks were running, whether the channel's
token was cancelled, and the request that it was run for. -/
structure Bench.Note where
  label : String
  running : Nat
  closed : Bool
  request : Option Channel.Pending
  deriving DecidableEq, Repr

/-- A channel by itself. -/
structure Bench where
  context : Context
  cancelled : Bool
  started : Bool
  handler : Channel.Handler
  peer : Peer
  log : Log
  notes : List Bench.Note
  /-- The labels of the tasks that have ended because they were told to stop. -/
  joined : List String

namespace Bench

def create (ctx : Context) (table : Channel.Table) (forwardOpen : Option ForwardOpen)
    (peer : Peer) : Bench where
  context := ctx
  cancelled := false
  started := false
  handler := .accepted ctx table forwardOpen false
  peer := peer
  log := []
  notes := []
  joined := []

def forget (b : Bench) : Bench :=
  { b with log := [], notes := [], joined := [] }

def observe (b : Bench) (a : Channel.Act) : Bench :=
  let b := { b with peer := b.peer.observe a }
  match a with
  | .started (some label) running closed =>
    { b with notes := b.notes ++ [⟨label, running, closed, none⟩] }
  | .invoked (some label) running closed request =>
    { b with notes := b.notes ++ [⟨label, running, closed, some request⟩] }
  | .joined label => { b with joined := b.joined ++ [label] }
  | .warn text => { b with log := b.log.warn text }
  | _ => b

def apply (b : Bench) (e : Channel.Event) : Bench :=
  match b.handler.step b.context e with
  | some (h, acts) => acts.foldl observe { b with handler := h }
  | none => b

def next? (b : Bench) : Option Bench :=
  if b.started then
    (b.peer.next? b.context b.handler).map fun (peer, events) =>
      events.foldl apply { b with peer := peer }
  else none

def callbackCount (t : Channel.Table) : Nat :=
  t.startup.length + t.callbacks.length + t.observers.length + 1

def settle (b : Bench) : Bench :=
  go (b.peer.eventsAhead b.handler (callbackCount b.handler.table)) b
where
  /-- Goes on for at most as many events as given. -/
  go : Nat → Bench → Bench
    | 0, b => b
    | n + 1, b => match b.next? with
      | some b => go n b
      | none => b

def start (b : Bench) : Bench :=
  { b with started := true }

def cancel (b : Bench) : Bench :=
  { b with cancelled := true }.apply .cancel

def closeChannel (b : Bench) : Bench :=
  { b with handler := b.handler.mapScratch Channel.Scratch.close }

def closeSizes (b : Bench) : Bench :=
  { b with handler := b.handler.setSizes b.handler.scratch.sizes.close }

/-- Takes every size that the queue holds, and tells whether more may come. -/
def drain (b : Bench) : List Terminal.Size × Bool × Bench :=
  go (b.handler.scratch.sizes.pending.length + 1) b
where
  /-- Takes at most as many sizes as given. -/
  go : Nat → Bench → List Terminal.Size × Bool × Bench
    | 0, b => ([], true, b)
    | n + 1, b =>
      match b.handler.scratch.sizes.poll with
      | some (some size, sizes) =>
        let (rest, isOpen, b) := go n { b with handler := b.handler.setSizes sizes }
        (size :: rest, isOpen, b)
      | some (none, _) => ([], false, b)
      | none => ([], true, b)

def sendRequest (b : Bench) (r : ChannelRequest) : Bench :=
  { b with peer := b.peer.sendRequest b.handler.inbox.accepts r }.apply (.arrive r)

def hangUp (b : Bench) : Bench :=
  { b with peer := b.peer.hangUp }.apply .hangUp

def mapPeer (b : Bench) (f : Peer → Peer) : Bench :=
  { b with peer := f b.peer }

def listening (b : Bench) : Bool :=
  !b.handler.inbox.dropped

def finished (b : Bench) : Bool :=
  b.handler.phase = .closed

end Bench

end SessionGateway.Simulation
