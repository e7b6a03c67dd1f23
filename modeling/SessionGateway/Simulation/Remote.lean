import SessionGateway.Connection.Machine
import SessionGateway.Simulation.Peer
import SessionGateway.Simulation.Prober
import SessionGateway.Simulation.Provisioner
import SessionGateway.Simulation.Refusals

/-!
# The other side of a connection

The peer of a connection with all that it opens, sends and answers, and what it sees of the
gateway.
-/

namespace SessionGateway.Simulation

/-- How the peer takes the answer to an attempt to open a channel. -/
inductive Opening.Reception where
  | succeed
  | fail
  /-- It never comes to an end. -/
  | stuck
  deriving DecidableEq, Repr

inductive Opening.Outcome where
  | pending
  | accepted
  | acceptFailed
  | rejected (reason : RejectionReason) (message : String)
  | stuck
  | abandoned
  | dropped
  deriving DecidableEq, Repr

/-- An attempt to open a channel, and the other sides of the channel. -/
structure Opening where
  onAccept : Opening.Reception
  onReject : Opening.Reception
  outcome : Opening.Outcome
  peer : Peer
  deriving DecidableEq, Repr

namespace Opening

def create (onAccept onReject : Reception) (peer : Peer) : Opening :=
  ⟨onAccept, onReject, .pending, peer⟩

def accept (o : Opening) : Opening :=
  { o with outcome := match o.onAccept with
    | .succeed => .accepted
    | .fail => .acceptFailed
    | .stuck => .stuck }

def reject (o : Opening) (reason : RejectionReason) (message : String) : Opening :=
  { o with outcome := match o.onReject with
    | .succeed | .fail => .rejected reason message
    | .stuck => .stuck }

def Reception.outcome? (c : Cause) : Reception → Option (Except Cause Unit)
  | .succeed => some (.ok ())
  | .fail => some (.error c)
  | .stuck => none

def acceptRefused : Cause := ⟨"accept refused", ["window closed"]⟩

def rejectRefused : Cause := ⟨"reject refused", ["peer gone"]⟩

def mapPeer (o : Opening) (f : Peer → Peer) : Opening :=
  { o with peer := f o.peer }

end Opening

/-- The other side of a connection. -/
structure Remote where
  started : Bool
  openings : List Opening
  globals : Mailbox
  prober : Prober
  closeFails : Bool
  closes : Nat
  /-- The answer about the user's pod that is on its way. -/
  pod : Option Provisioner.Answer

namespace Remote

def create (started closeFails : Bool) (prober : Prober) : Remote :=
  ⟨started, [], .empty, prober, closeFails, 0, none⟩

def mapOpening (r : Remote) (n : Nat) (f : Opening → Opening) : Remote :=
  { r with openings := r.openings.modify n f }

def observe (r : Remote) (now : Nat) : Connection.Act → Remote
  | .accept n => r.mapOpening n Opening.accept
  | .reject n reason message => r.mapOpening n (·.reject reason message)
  | .withdraw n => r.mapOpening n ({ · with outcome := .abandoned })
  | .drop n => r.mapOpening n ({ · with outcome := .dropped })
  | .channel n a => r.mapOpening n (·.mapPeer (·.observe a))
  | .probe request => { r with prober := r.prober.probe request now }
  | .giveUpProbe => { r with prober := r.prober.settle }
  | .discard a => { r with globals := r.globals.observe a }
  | .closeConnection => { r with closes := r.closes + 1 }
  | _ => r

def closing (r : Remote) : Except Cause Unit :=
  if r.closeFails then .error ⟨"close failed", ["socket gone"]⟩ else .ok ()

def nextOpening? (r : Remote) (s : Connection.State) (n : Nat) :
    Option (Remote × List Connection.Event) :=
  if (s.runOpen? n).isSome then some (r, [.runOpen n])
  else match s.channels[n]?, r.openings[n]? with
    | some (.accepting _ _), some o =>
      (o.onAccept.outcome? Opening.acceptRefused).map fun outcome => (r, [.accepted n outcome])
    | some (.rejecting _ _), some o =>
      (o.onReject.outcome? Opening.rejectRefused).map fun outcome => (r, [.rejected n outcome])
    | some (.serving h), some o =>
      (o.peer.next? s.context h).map fun (peer, events) =>
        (r.mapOpening n (·.mapPeer fun _ => peer), events.map (.channel n))
    | _, _ => none

/-- What happens next to a connection, if anything does. What is on its way from outside comes
first, then the connection's own task, then those of the attempts, then the probing and the
refusal of global requests. -/
def next? (r : Remote) (s : Connection.State) : Option (Remote × List Connection.Event) :=
  if !r.started then none
  else match r.pod with
    | some answer =>
      some ({ r with pod := none },
        (if answer.cancels then [.cancel] else []) ++ [.provisioned answer.outcome])
    | none =>
      if s.phase = .closing then some (r, [.connectionClosed r.closing])
      else if s.advance?.isSome then some (r, [.advance])
      else if s.takeOpen?.isSome then some (r, [.takeOpen])
      else ((List.range s.channels.length).findSome? (r.nextOpening? s))
        |>.or ((r.prober.next? s.cancelled s.clock s.keepalive).map fun (prober, event) =>
          ({ r with prober := prober }, [.keepalive event]))
        |>.or ((nextRefusal? s.cancelled s.discard).map fun event => (r, [.discard event]))

/-- How many things can happen to an attempt before it waits. A session or a forward starts at
most one task for a request. -/
def openingAhead (o : Opening) : Connection.Stage → Nat
  | .serving h => o.peer.eventsAhead h 1
  | stage =>
    32 + 16 * (stage.requests?.map (·.queued.length)).getD 0 + o.peer.stream.input.length

/-- How many things can happen to a connection before time has to pass. -/
def eventsAhead (r : Remote) (s : Connection.State) : Nat :=
  (r.openings.zip s.channels).foldl (fun ahead (o, stage) => ahead + openingAhead o stage)
    (32 + s.discard.inbox.queued.length)

end Remote

end SessionGateway.Simulation
