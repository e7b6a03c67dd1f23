import SessionGateway.Connection.Assembly

/-!
# The gateway

A gateway serves any number of connections with the same settings. Shutting it down cancels every
connection and waits for all of them; a connection that comes later is cancelled from the start. The
wait is over at the first moment at which no connection is served, and the call returns some time
after that, whether or not connections have come in the meantime.
-/

namespace SessionGateway

structure Gateway.Shutdown where
  /-- No connection was served at some moment since the call. -/
  released : Bool
  returned : Bool
  deriving DecidableEq, Repr

structure Gateway where
  config : Config
  /-- The token above those of the connections. -/
  cancelled : Bool
  /-- The connections that were accepted, in the order of their arrival. -/
  connections : List Connection.State
  /-- The calls that shut the gateway down, in the order in which they began. -/
  shutdowns : List Gateway.Shutdown

namespace Gateway

inductive Event where
  | serve (login : Connection.Login)
  | connection (i : Nat) (e : Connection.Event)
  | shutdown
  | return (call : Nat)

inductive Act where
  | connection (i : Nat) (a : Connection.Act)
  | refused (e : Connection.BuildError)
  | warn (text : String)

def create (config : Config) : Except Connection.BuildError Gateway :=
  match config.problem? with
  | some p => .error (.config p)
  | none => .ok ⟨config, false, [], []⟩

def active (g : Gateway) : Nat :=
  g.connections.countP (·.phase ≠ .returned)

def parts (g : Gateway) (login : Connection.Login) : Connection.Parts :=
  { Connection.Parts.complete login with
    config := some g.config
    parentCancelled := some g.cancelled }

def serve (g : Gateway) (login : Connection.Login) : Gateway × List Act :=
  match (g.parts login).build with
  | .ok s => ({ g with connections := g.connections ++ [s] }, [])
  | .error e =>
    (g, [.warn ("Refusing connection for " ++ login.user ++ ": " ++ e.message), .refused e])

/-- Cancels every connection and begins to wait until none is served. -/
def shutdown (g : Gateway) : Gateway :=
  { g with
    cancelled := true
    connections := g.connections.map Connection.State.cancel
    shutdowns := g.shutdowns ++ [⟨g.active = 0, false⟩] }

/-- Lets go the calls that shut the gateway down if no connection is served. -/
def release (g : Gateway) : Gateway :=
  { g with
    shutdowns := g.shutdowns.map fun call =>
      { call with released := call.released || decide (g.active = 0) } }

def step (g : Gateway) : Event → Option (Gateway × List Act)
  | .serve login => some (g.serve login)
  | .connection i e =>
    match g.connections[i]? with
    | some s => (s.step e).map fun (s, acts) =>
        ({ g with connections := g.connections.set i s }.release, acts.map (.connection i))
    | none => none
  | .shutdown => some (g.shutdown, [])
  | .return call =>
    if g.shutdowns[call]? = some ⟨true, false⟩ then
      some ({ g with shutdowns := g.shutdowns.set call ⟨true, true⟩ }, [])
    else none

end Gateway

end SessionGateway
