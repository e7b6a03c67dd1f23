import SessionGateway.Channel.Session
import SessionGateway.Channel.Handler
import SessionGateway.Connection.Discard
import SessionGateway.Connection.Keepalive

/-!
# The state of a connection

A connection owns its token, the attempts of the peer to open channels, the probing of the peer
and the refusal of global requests. Every attempt keeps its number; once it is accepted, the
channel that it opens is served under the same number.
-/

namespace SessionGateway.Connection

/-- An attempt of the peer to open a channel. The peer may send requests for the channel before
the attempt is answered. -/
structure Attempt where
  kind : String
  payload : Wire.Bytes
  requests : Inbox ChannelRequest
  deriving DecidableEq, Repr

inductive Stage where
  /-- It has arrived and is not taken yet. -/
  | queued (a : Attempt)
  /-- It is taken, and its task has not run yet. -/
  | ready (a : Attempt)
  /-- The gateway accepts it, as a session or as a forward. -/
  | accepting (a : Attempt) (forwardOpen : Option ForwardOpen)
  /-- The gateway rejects it, for a payload with this error or for its kind. -/
  | rejecting (a : Attempt) (fault : Option Wire.Error)
  | serving (h : Channel.Handler)
  /-- Its task has ended, and no channel was served. -/
  | ended
  /-- The channel could not be set up after it was accepted. -/
  | crashed

/-- The requests for the channel of an attempt, while somebody may take them. -/
def Stage.requests? : Stage → Option (Inbox ChannelRequest)
  | .queued a | .ready a | .accepting a _ | .rejecting a _ => some a.requests
  | .serving h => some h.inbox
  | .ended | .crashed => none

def Stage.receives (s : Stage) : Bool :=
  s.requests?.any Inbox.accepts

def Stage.listens (s : Stage) : Bool :=
  s.requests?.any fun requests => !requests.dropped

inductive Phase where
  | ready
  | provisioning
  | accepting
  | draining
  /-- Waits for the probing and the refusal of global requests to end. -/
  | stopping
  | closing
  | returned
  deriving DecidableEq, Repr

structure State where
  context : Context
  /-- What the clock of the host shows, in nanoseconds. -/
  clock : Nat
  cancelled : Bool
  phase : Phase
  /-- The attempts to open channels, in the order of their arrival. -/
  channels : List Stage
  opensEnded : Bool
  /-- The gateway takes no further attempt. -/
  opensDropped : Bool
  keepalive : Keepalive.State
  discard : Discard.State

inductive Event where
  | elapse (time : Nat)
  /-- The token is cancelled from outside. -/
  | cancel
  | openChannel (kind : String) (payload : Wire.Bytes)
  | endOpens
  | globalRequest (r : GlobalRequest)
  | endGlobals
  /-- The connection's own task goes on; in the loop it notices the end of its work. -/
  | advance
  | takeOpen
  /-- The user's pod is ready, or cannot be made ready. -/
  | provisioned (outcome : Except Cause Unit)
  /-- The task of an attempt runs, or notices that the connection is cancelled. -/
  | runOpen (n : Nat)
  /-- The peer's side of an accepted attempt is there, or could not be. -/
  | accepted (n : Nat) (outcome : Except Cause Unit)
  /-- An attempt has been rejected, or could not be. -/
  | rejected (n : Nat) (outcome : Except Cause Unit)
  | channel (n : Nat) (e : Channel.Event)
  | keepalive (e : Keepalive.Event)
  | discard (e : Discard.Event)
  | connectionClosed (outcome : Except Cause Unit)

inductive Act where
  | provision (who : Identity)
  | giveUpPod
  | accept (n : Nat)
  | reject (n : Nat) (reason : RejectionReason) (message : String)
  /-- An attempt that is being accepted or rejected is given up. -/
  | withdraw (n : Nat)
  | drop (n : Nat)
  | channel (n : Nat) (a : Channel.Act)
  | probe (request : String)
  | giveUpProbe
  | discard (a : Discard.Act)
  | closeConnection
  | warn (text : String)
  | error (text : String)
  deriving DecidableEq, Repr

end SessionGateway.Connection
