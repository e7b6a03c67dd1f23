import SessionGateway.Simulation.Basic

/-!
# Refusal by itself

The refusal of global requests under a token of its own, and the answers as the peer sees them.
-/

namespace SessionGateway.Simulation

/-- What happens next to the refusal of global requests, if anything does. Cancellation comes
first. -/
def nextRefusal? (cancelled : Bool) (s : Discard.State) : Option Discard.Event :=
  if s.stopped then none
  else if cancelled then some .stop
  else if !s.inbox.queued.isEmpty then some .take
  else if s.inbox.ended then some .stop
  else none

structure Refusals where
  discard : Discard.State
  cancelled : Bool
  mailbox : Mailbox

namespace Refusals

def create : Refusals :=
  ⟨Discard.fresh, false, .empty⟩

def send (r : Refusals) (request : GlobalRequest) : Refusals :=
  { r with
    discard := r.discard.arrive request
    mailbox := r.mailbox.send r.discard.inbox.accepts request.wantReply }

def finish (r : Refusals) : Refusals :=
  { r with discard := r.discard.finish }

def cancel (r : Refusals) : Refusals :=
  { r with cancelled := true }

def next? (r : Refusals) : Option Refusals := do
  let event ← nextRefusal? r.cancelled r.discard
  let (discard, acts) ← r.discard.step r.cancelled event
  return { r with discard := discard, mailbox := acts.foldl Mailbox.observe r.mailbox }

/-- Goes on until nothing happens: every request is taken, and then the task may end. -/
def settle (r : Refusals) : Refusals :=
  go (r.discard.inbox.queued.length + 1) r
where
  /-- Goes on for at most as many events as given. -/
  go : Nat → Refusals → Refusals
    | 0, r => r
    | n + 1, r => match r.next? with
      | some r => go n r
      | none => r

end Refusals

end SessionGateway.Simulation
