import SessionGateway.Channel.Table

/-!
# Scripted callbacks

Dispatch tables whose callbacks do what a script says: answer, start tasks, close the channel, fail.
-/

namespace SessionGateway.Simulation

/-- What a callback does, in the order of the fields. -/
structure Script.Callback where
  label : String
  reply : Option Bool
  /-- Starts a task that waits to be told to stop. -/
  spawnsIdle : Bool
  /-- Starts a task that returns at once and ends the channel. -/
  spawnsBrief : Bool
  closes : Bool
  failure : Option Channel.Error
  deriving DecidableEq, Repr

namespace Script.Callback

open Channel

def act (c : Callback) (s : Scratch) : Scratch :=
  let s := if c.spawnsIdle then s.spawn (.idle c.label) else s
  let s := if c.spawnsBrief then s.spawn (.brief c.label true) else s
  if c.closes then s.close else s

def onStart (c : Callback) : StartupCallback := fun _ s =>
  (c.act s, c.failure)

def onRequest (c : Callback) : RequestCallback := fun _ p s =>
  (match c.reply with
    | some ok => p.reply ok
    | none => p,
   c.act s, c.failure)

end Script.Callback

/-- The callbacks of a table. -/
structure Script where
  startup : List Script.Callback
  callbacks : List (RequestKind × Script.Callback)
  fallback : Option Script.Callback
  observers : List Script.Callback

namespace Script

/-- The dispatch table that a script describes. Without a fallback of its own a table refuses. -/
def table (s : Script) : Channel.Table :=
  let t := s.startup.foldl (fun t c => t.onStart c.label c.onStart) Channel.Table.empty
  let t := s.callbacks.foldl (fun t (kind, c) => t.on kind c.label c.onRequest) t
  let t := match s.fallback with
    | some c => t.otherwise c.label c.onRequest
    | none => t
  s.observers.foldl (fun t c => t.observing c.label c.onRequest) t

end Script

end SessionGateway.Simulation
