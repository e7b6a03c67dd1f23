import SessionGateway.Config.Settings
import SessionGateway.Identity.Basic
import SessionGateway.Text.Basic

/-!
# The cluster's side

What the gateway asks of the cluster, and the bundle that all channels of a connection share. The
pod and its namespace come from the connection's identity and from nowhere else.
-/

namespace SessionGateway

/-- Why a collaborator failed: the outermost context, and what it was wrapped around. -/
structure Cause where
  outer : String
  inner : List String
  deriving DecidableEq, Repr

namespace Cause

def message (c : Cause) : String :=
  c.outer

/-- Every context, from the outermost to the root. -/
def chain (c : Cause) : String :=
  ": ".intercalate (c.outer :: c.inner)

def single (text : String) : Cause :=
  ⟨text, []⟩

/-- A cause whose contexts are written with bars between them, the outermost first. -/
def ofContexts (text : String) : Cause :=
  match text.splitOn "|" with
  | outer :: inner => ⟨outer, inner⟩
  | [] => single text

end Cause

structure ExecRequest where
  tenant : String
  podName : String
  command : List String
  tty : Bool
  takesSizes : Bool
  deriving DecidableEq, Repr

structure ForwardRequest where
  tenant : String
  podName : String
  port : UInt16
  deriving DecidableEq, Repr

def flagText (b : Bool) : String :=
  if b then "true" else "false"

/-- A record of fields, with an opening and a closing brace. Fields that are left out show as two
dots. -/
def recordText (name : String) (fields : List (String × String)) (complete : Bool) : String :=
  let shown := fields.map fun (name, value) => name ++ ": " ++ value
  let shown := if complete then shown else shown ++ [".."]
  name ++ " \x7b " ++ ", ".intercalate shown ++ " \x7d"

def ExecRequest.text (r : ExecRequest) : String :=
  recordText "ExecRequest"
    [("namespace", Text.quoted r.tenant), ("pod_name", Text.quoted r.podName),
     ("command", Text.quotedList r.command), ("tty", flagText r.tty)] false

def ForwardRequest.text (r : ForwardRequest) : String :=
  recordText "ForwardRequest"
    [("namespace", Text.quoted r.tenant), ("pod_name", Text.quoted r.podName),
     ("port", toString r.port.toNat)] false

structure Context where
  identity : Identity
  config : Config
  deriving DecidableEq

namespace Context

def podName (c : Context) : String :=
  PodName.ofUser c.config.podNameLead c.identity.userId

/-- A command in the user's pod. A command with a terminal gets the queue of its sizes. -/
def exec (c : Context) (command : List String) (tty : Bool) : ExecRequest :=
  ⟨c.identity.tenant, c.podName, command, tty, tty⟩

def forward (c : Context) (port : UInt16) : ForwardRequest :=
  ⟨c.identity.tenant, c.podName, port⟩

def text (c : Context) : String :=
  let identity := recordText "Identity"
    [("namespace", Text.quoted c.identity.tenant), ("user_id", Text.quoted c.identity.userId)] true
  recordText "SharedConnectionContext"
    [("identity", identity), ("pod_name", Text.quoted c.podName)] false

end Context

end SessionGateway
