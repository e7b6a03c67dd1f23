import SessionGateway.Simulation.Basic

/-!
# Answers to probes

A peer that answers the probes of a connection as it has been told to, each in its turn.
-/

namespace SessionGateway.Simulation

inductive Prober.Answer where
  | reply
  | fail
  | silent
  /-- It answers, or lets the probe fail, after this many milliseconds. -/
  | late (ms : Nat) (fails : Bool)
  deriving DecidableEq, Repr

/-- A peer that answers probes. -/
structure Prober where
  plan : List Prober.Answer
  /-- What happens to every probe after those. -/
  rest : Prober.Answer
  sent : List (String × Nat)
  /-- When the probe that is on its way comes to an end, and whether it is answered. -/
  inFlight : Option (Nat × Bool)
  deriving DecidableEq, Repr

namespace Prober

def create (plan : List Answer) (rest : Answer) : Prober :=
  ⟨plan, rest, [], none⟩

def probe (p : Prober) (request : String) (now : Nat) : Prober :=
  let answer := p.plan.headD p.rest
  { p with
    plan := p.plan.tail
    sent := (request, now) :: p.sent
    inFlight := match answer with
      | .reply => some (now, true)
      | .fail => some (now, false)
      | .silent => none
      | .late ms fails => some (now + ms * millisecond, !fails) }

/-- The probes in the order in which they were sent, each with the milliseconds that had passed since
the probing was set up. -/
def probes (p : Prober) : List (String × Nat) :=
  p.sent.reverse.map fun (request, time) => (request, (time - uptime) / millisecond)

def settle (p : Prober) : Prober :=
  { p with inFlight := none }

def ended? (p : Prober) (now : Nat) : Option Bool :=
  p.inFlight.bind fun (due, alive) => if due ≤ now then some alive else none

def clockOverflow : String :=
  "overflow when adding duration to instant"

/-- What happens next to the probing of this peer at a time, if anything does. Cancellation comes
first, and a probe that ends when its time is over has still ended in time. -/
def next? (p : Prober) (cancelled : Bool) (now : Nat) (k : Keepalive.State) :
    Option (Prober × Keepalive.Event) :=
  match k.phase with
  | .ready => some (p, .start clockOverflow)
  | .waiting due =>
    if cancelled then some (p, .stop)
    else if due ≤ now then some (p, .tick)
    else none
  | .probing _ deadline =>
    if cancelled then some (p.settle, .stop)
    else match p.ended? now with
      | some alive => some (p.settle, .probed alive)
      | none => if deadline ≤ now then some (p.settle, .expire) else none
  | .stopped | .crashed _ => none

/-- The times at which the probing of this peer goes on by itself. -/
def deadlines (p : Prober) (k : Keepalive.State) : List Nat :=
  k.deadline?.toList ++ p.inFlight.toList.map (·.1)

end Prober

end SessionGateway.Simulation
