import SessionGateway.Config.Settings

/-!
# Keepalive

Probes the peer at a fixed interval. A probe that is answered, whatever the answer, shows that the
peer is alive; one that fails or is not answered within an interval counts against it. Once more
probes in a row have failed than are tolerated, the connection is to be cancelled.

Times are what the clock of the host shows, in nanoseconds; it may show anything when the probing
begins. The first probe comes after one interval, however long; from then on ticks are never further
apart than thirty years, which is as long as the ticker waits.
-/

namespace SessionGateway

/-- How a peer is probed. -/
structure Keepalive where
  /-- The time before the first probe, and the time that each has to be answered, in nanoseconds. -/
  interval : Nat
  maxRetries : UInt32
  request : String
  deriving DecidableEq, Repr

namespace Keepalive

def ofConfig (c : Config) : Keepalive :=
  ⟨c.keepaliveInterval.total, c.keepaliveMaxRetries, c.keepaliveRequest⟩

def withInterval (interval : Nat) (maxRetries : UInt32) : Keepalive :=
  ⟨interval, maxRetries, Config.standard.keepaliveRequest⟩

/-- The first time that a clock cannot show: clocks count seconds below 2^63. -/
def clockLimit : Nat := Nat.pow 2 63 * 1000000000

/-- The longest time that the ticker lets pass between two ticks: thirty years of 365 days. -/
def longestPeriod : Nat := 30 * 365 * 24 * 60 * 60 * 1000000000

/-- The time between two ticks, which is the interval unless that is too long. -/
def period (k : Keepalive) : Nat :=
  min k.interval longestPeriod

/-- A tick that is observed later than this after its time delays the ticks that follow. -/
def tolerance : Nat := 5000000

/-- Whether the probing cannot begin: its interval is empty, or the clock cannot show the time of
the first probe. -/
def Unfit (k : Keepalive) (now : Nat) : Prop :=
  k.interval = 0 ∨ clockLimit ≤ now + k.interval

instance (k : Keepalive) (now : Nat) : Decidable (k.Unfit now) :=
  inferInstanceAs (Decidable (_ ∨ _))

theorem not_unfit_iff {k : Keepalive} {now : Nat} :
    ¬ k.Unfit now ↔ 0 < k.interval ∧ now + k.interval < clockLimit := by
  rw [Unfit]
  omega

inductive Phase where
  | ready
  | waiting (due : Nat)
  /-- Waits for the answer to a probe, which must come by the deadline. -/
  | probing (due deadline : Nat)
  | stopped
  /-- The task has panicked when it began. -/
  | crashed (panic : String)
  deriving DecidableEq, Repr

structure State where
  settings : Keepalive
  phase : Phase
  /-- How many probes have failed since the last one that was answered. -/
  failures : UInt32
  deriving DecidableEq, Repr

inductive Event where
  /-- The task begins. Should it panic, then the runtime describes that in these words. -/
  | start (panic : String)
  | tick
  /-- The probe has come to an end; the flag tells whether the peer has answered. -/
  | probed (alive : Bool)
  /-- The time for an answer is over. -/
  | expire
  | stop
  deriving DecidableEq, Repr

inductive Act where
  | probe
  /-- The connection is cancelled because this many probes in a row have failed. -/
  | exhausted (failures : UInt32)
  deriving DecidableEq, Repr

def exhaustedWarning (failures : UInt32) : String :=
  "No keepalive answer after " ++ toString failures.toNat ++ " attempts, closing connection"

def fresh (k : Keepalive) : State :=
  ⟨k, .ready, 0⟩

namespace State

def crashed (s : State) : Bool :=
  match s.phase with
  | .crashed _ => true
  | _ => false

def ended (s : State) : Bool :=
  match s.phase with
  | .stopped | .crashed _ => true
  | _ => false

/-- The time at which the probing goes on by itself. -/
def deadline? (s : State) : Option Nat :=
  match s.phase with
  | .waiting due => some due
  | .probing _ deadline => some deadline
  | _ => none

/-- A probe has come to an end. The count of failures starts anew with an answer, and wraps
around at 32 bits. -/
def settle (s : State) (due : Nat) (alive : Bool) : State × List Act :=
  let failures := if alive then 0 else s.failures + 1
  if s.settings.maxRetries < failures then
    ({ s with phase := .stopped, failures := failures }, [.exhausted failures])
  else ({ s with phase := .waiting due, failures := failures }, [])

def step (cancelled : Bool) (now : Nat) (s : State) : Event → Option (State × List Act)
  | .start panic =>
    match s.phase with
    | .ready =>
      if s.settings.Unfit now then some ({ s with phase := .crashed panic }, [])
      else some ({ s with phase := .waiting (now + s.settings.interval) }, [])
    | _ => none
  | .tick =>
    match s.phase with
    | .waiting due =>
      if due ≤ now then
        let next := (if due + tolerance < now then now else due) + s.settings.period
        some ({ s with phase := .probing next (now + s.settings.interval) }, [.probe])
      else none
    | _ => none
  | .probed alive =>
    match s.phase with
    | .probing due _ => some (s.settle due alive)
    | _ => none
  | .expire =>
    match s.phase with
    | .probing due deadline => if deadline ≤ now then some (s.settle due false) else none
    | _ => none
  | .stop =>
    match s.phase with
    | .waiting _ | .probing _ _ =>
      if cancelled then some ({ s with phase := .stopped }, []) else none
    | _ => none

end State

end Keepalive

end SessionGateway
