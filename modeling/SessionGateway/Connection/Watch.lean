import SessionGateway.Connection.Keepalive

/-!
# A peer under watch

The probing of a peer together with the clock that it goes by and the token that it goes with. The
token can be cancelled from outside at any time; the probing cancels it when too many probes in a row
have failed.
-/

namespace SessionGateway.Keepalive

inductive Outcome where
  /-- The peer answers, and grants or refuses what the probe asks for. -/
  | answered (granted : Bool)
  /-- The probe cannot be sent, or is lost with an error. -/
  | failed
  | unanswered
  deriving DecidableEq, Repr

namespace Outcome

def fails : Outcome → Bool
  | .answered _ => false
  | .failed | .unanswered => true

def event : Outcome → Event
  | .answered _ => .probed true
  | .failed => .probed false
  | .unanswered => .expire

end Outcome

def Act.cancels : Act → Bool
  | .probe => false
  | .exhausted _ => true

structure Watch where
  probing : State
  clock : Nat
  cancelled : Bool
  deriving DecidableEq, Repr

namespace Watch

inductive Event where
  | elapse (time : Nat)
  /-- The token is cancelled from outside. -/
  | cancel
  /-- The task begins. Should it panic, then the runtime describes that in these words. -/
  | start (panic : String)
  | tick
  | settle (o : Outcome)
  | stop
  deriving DecidableEq, Repr

/-- A watch that has not begun. The clock may show anything when it begins, because time can pass
before. -/
def fresh (k : Keepalive) (cancelled : Bool) : Watch :=
  ⟨k.fresh, 0, cancelled⟩

def act (w : Watch) (e : Keepalive.Event) : Option (Watch × List Act) :=
  (w.probing.step w.cancelled w.clock e).map fun (k, acts) =>
    ({ w with probing := k, cancelled := w.cancelled || acts.any Act.cancels }, acts)

def step (w : Watch) : Event → Option (Watch × List Act)
  | .elapse time => some ({ w with clock := w.clock + time }, [])
  | .cancel => some ({ w with cancelled := true }, [])
  | .start panic => w.act (.start panic)
  | .tick => w.act .tick
  | .settle o => w.act o.event
  | .stop => w.act .stop

/-- Whether nothing goes on unless time passes, a probe is answered or lost, or the token is
cancelled from outside. -/
def settled (w : Watch) : Bool :=
  [.start "", .tick, .settle .unanswered, .stop].all fun e => (w.step e).isNone

def timerDue (w : Watch) : Bool :=
  match w.probing.phase with
  | .waiting due => due ≤ w.clock
  | .probing due deadline => due ≤ w.clock ∨ deadline ≤ w.clock
  | _ => false

end Watch

end SessionGateway.Keepalive
