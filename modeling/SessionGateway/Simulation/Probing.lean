import SessionGateway.Simulation.Basic
import SessionGateway.Simulation.Prober

/-!
# Probing by itself

The probing of a peer under a token of its own, without a connection around it.
-/

namespace SessionGateway.Simulation

structure Probing where
  keepalive : Keepalive.State
  prober : Prober
  clock : Nat
  cancelled : Bool
  log : Log

namespace Probing

def create (k : Keepalive) (prober : Prober) : Probing :=
  ⟨Keepalive.fresh k, prober, uptime, false, []⟩

def observe (p : Probing) : Keepalive.Act → Probing
  | .probe => { p with prober := p.prober.probe p.keepalive.settings.request p.clock }
  | .exhausted failures =>
    { p with cancelled := true, log := p.log.warn (Keepalive.exhaustedWarning failures) }

def next? (p : Probing) : Option Probing := do
  let (prober, event) ← p.prober.next? p.cancelled p.clock p.keepalive
  let (keepalive, acts) ← p.keepalive.step p.cancelled p.clock event
  return acts.foldl observe { p with prober := prober, keepalive := keepalive }

/-- How many things can happen at one moment: a start, the end of a probe, a tick, the end of the
next probe, and the end of the task. -/
def eventsAtOnce : Nat := 8

def settle (p : Probing) : Probing :=
  go eventsAtOnce p
where
  /-- Goes on for at most as many events as given. -/
  go : Nat → Probing → Probing
    | 0, p => p
    | n + 1, p => match p.next? with
      | some p => go n p
      | none => p

def advance (p : Probing) (ms : Nat) : Probing :=
  pass (fun p limit => untilNext p.clock limit (p.prober.deadlines p.keepalive))
    (fun p time => { p with clock := p.clock + time }.settle) (waitingTime ms) p

def cancel (p : Probing) : Probing :=
  { p with cancelled := true }

end Probing

end SessionGateway.Simulation
