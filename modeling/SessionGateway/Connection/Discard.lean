import SessionGateway.Inbox
import SessionGateway.Wire.Basic

/-!
# Global requests

Requests on the connection rather than on a channel. The gateway offers none, and refuses every
one so that the peer does not wait.
-/

namespace SessionGateway

structure GlobalRequest where
  name : String
  payload : Wire.Bytes
  wantReply : Bool
  deriving DecidableEq, Repr

namespace Discard

structure State where
  inbox : Inbox GlobalRequest
  taken : Nat
  stopped : Bool
  deriving DecidableEq, Repr

inductive Event where
  | take
  /-- The task ends, because no request can come or the connection is cancelled. -/
  | stop
  deriving DecidableEq, Repr

inductive Act where
  | refuse (n : Nat)
  /-- The request is destroyed while the peer waits for its answer. -/
  | forgo (n : Nat)
  deriving DecidableEq, Repr

def fresh : State :=
  ⟨.fresh, 0, false⟩

namespace State

def forgoFrom (n : Nat) : List GlobalRequest → List Act
  | [] => []
  | r :: rest => if r.wantReply then .forgo n :: forgoFrom (n + 1) rest else forgoFrom (n + 1) rest

def arrive (s : State) (r : GlobalRequest) : State :=
  { s with inbox := s.inbox.send r }

def finish (s : State) : State :=
  { s with inbox := s.inbox.finish }

def step (cancelled : Bool) (s : State) : Event → Option (State × List Act)
  | .take =>
    if s.stopped then none
    else s.inbox.take?.map fun (r, inbox) =>
      ({ s with inbox := inbox, taken := s.taken + 1 },
        if r.wantReply then [.refuse s.taken] else [])
  | .stop =>
    if s.stopped then none
    else if cancelled ∨ s.inbox.exhausted then
      some ({ s with inbox := s.inbox.drop, stopped := true }, forgoFrom s.taken s.inbox.queued)
    else none

end State

end Discard

end SessionGateway
