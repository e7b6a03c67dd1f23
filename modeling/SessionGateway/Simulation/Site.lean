import SessionGateway.Gateway
import SessionGateway.Simulation.Basic
import SessionGateway.Simulation.Remote

/-!
# A gateway between its peers and its cluster

A gateway, the peers of its connections, and the cluster that makes pods ready. Everything that can
happen without time passing happens before the next thing comes from outside. A connection by
itself is the only connection of its gateway.
-/

namespace SessionGateway.Simulation

/-- A gateway and what is around it. -/
structure Site where
  gateway : Gateway
  remotes : List Remote
  provisioner : Provisioner
  log : Log

namespace Site

def ofGateway (g : Gateway) (provisioner : Provisioner) : Site :=
  ⟨g, [], provisioner, []⟩

def ofConnection (s : Connection.State) (remote : Remote) (provisioner : Provisioner) : Site :=
  ⟨⟨s.context.config, false, [{ s with clock := uptime }], []⟩, [remote], provisioner, []⟩

def mapRemote (s : Site) (i : Nat) (f : Remote → Remote) : Site :=
  { s with remotes := s.remotes.modify i f }

def clockOf (s : Site) (i : Nat) : Nat :=
  (s.gateway.connections[i]?.map (·.clock)).getD 0

def observe (s : Site) : Gateway.Act → Site
  | .connection i (.provision who) =>
    let (provisioner, answer) := s.provisioner.ask i who
    { s with provisioner := provisioner }.mapRemote i ({ · with pod := answer })
  | .connection i .giveUpPod => { s with provisioner := s.provisioner.forget i }
  | .connection _ (.warn text) | .connection _ (.channel _ (.warn text)) | .warn text =>
    { s with log := s.log.warn text }
  | .connection _ (.error text) => { s with log := s.log.error text }
  | .connection i a => s.mapRemote i (·.observe (s.clockOf i) a)
  | .refused _ => s

def apply (s : Site) (e : Gateway.Event) : Site :=
  match s.gateway.step e with
  | some (g, acts) => acts.foldl observe { s with gateway := g }
  | none => s

def applyTo (i : Nat) (s : Site) (e : Connection.Event) : Site :=
  s.apply (.connection i e)

def nextOf? (s : Site) (i : Nat) : Option Site := do
  let state ← s.gateway.connections[i]?
  let remote ← s.remotes[i]?
  let (remote, events) ← remote.next? state
  return events.foldl (applyTo i) (s.mapRemote i fun _ => remote)

/-- A call that shuts the gateway down returns, if one can. -/
def return? (s : Site) : Option Site :=
  ((List.range s.gateway.shutdowns.length).find? fun call =>
    (s.gateway.step (.return call)).isSome).map fun call => s.apply (.return call)

def next? (s : Site) : Option Site :=
  ((List.range s.remotes.length).findSome? s.nextOf?).or s.return?

def eventsAhead (s : Site) : Nat :=
  (s.remotes.zip s.gateway.connections).foldl (fun ahead (r, c) => ahead + r.eventsAhead c)
    s.gateway.shutdowns.length

def settle (s : Site) : Site :=
  go s.eventsAhead s
where
  /-- Goes on for at most as many events as given. -/
  go : Nat → Site → Site
    | 0, s => s
    | n + 1, s => match s.next? with
      | some s => go n s
      | none => s

/-- The time until something goes on by itself, up to a limit. -/
def untilNext (s : Site) (limit : Nat) : Nat :=
  (s.remotes.zip s.gateway.connections).foldl (fun span (r, c) =>
    Simulation.untilNext c.clock span (r.prober.deadlines c.keepalive)) limit

def elapse (s : Site) (time : Nat) : Site :=
  ((List.range s.remotes.length).foldl (fun s i => s.applyTo i (.elapse time)) s).settle

def advance (s : Site) (ms : Nat) : Site :=
  pass untilNext elapse (waitingTime ms) s

def start (s : Site) (i : Nat) : Site :=
  s.mapRemote i ({ · with started := true })

def serve (s : Site) (login : Connection.Login) (remote : Remote) :
    Except Connection.BuildError Nat × Site :=
  let (g, acts) := s.gateway.serve login
  let refusal := acts.findSome? fun
    | .refused e => some e
    | _ => none
  match refusal with
  | some e => (.error e, acts.foldl observe { s with gateway := g })
  | none =>
    let i := s.remotes.length
    let s := acts.foldl observe { s with gateway := g, remotes := s.remotes ++ [remote] }
    (.ok i, s.applyTo i (.elapse uptime))

def openChannel (s : Site) (i : Nat) (kind : String) (payload : Wire.Bytes) (o : Opening) : Site :=
  (s.mapRemote i fun r => { r with openings := r.openings ++ [o] }).applyTo i
    (.openChannel kind payload)

def sendRequest (s : Site) (i n : Nat) (r : ChannelRequest) : Site :=
  let stage := s.gateway.connections[i]?.bind (·.channels[n]?)
  (s.mapRemote i (·.mapOpening n (·.mapPeer (·.sendRequest (stage.any (·.receives)) r)))).applyTo i
    (.channel n (.arrive r))

def hangUp (s : Site) (i n : Nat) : Site :=
  (s.mapRemote i (·.mapOpening n (·.mapPeer Peer.hangUp))).applyTo i (.channel n .hangUp)

def mapPeer (s : Site) (i n : Nat) (f : Peer → Peer) : Site :=
  s.mapRemote i (·.mapOpening n (·.mapPeer f))

def sendGlobal (s : Site) (i : Nat) (r : GlobalRequest) : Site :=
  let receives := (s.gateway.connections[i]?).any (·.discard.inbox.accepts)
  (s.mapRemote i fun remote =>
    { remote with globals := remote.globals.send receives r.wantReply }).applyTo i
      (.globalRequest r)

def provision (s : Site) (userId : String) (outcome : Except Cause Unit) : Site :=
  match s.provisioner.release? userId with
  | some (i, provisioner) =>
    { s with provisioner := provisioner }.mapRemote i ({ · with pod := some ⟨false, outcome⟩ })
  | none => s

def forget (s : Site) : Site :=
  { s with log := [] }

end Site

end SessionGateway.Simulation
