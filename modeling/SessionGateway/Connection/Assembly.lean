import SessionGateway.Config.Document
import SessionGateway.Connection.Machine
import SessionGateway.Text.Basic

/-!
# Setting up a connection

The parts that a connection is made of, the checks that they pass, and the connection that comes
out. The checks are made in a fixed order, and the first one that fails names the error.
-/

namespace SessionGateway.Connection

/-- An authenticated connection, as the handshake hands it over. -/
structure Login where
  user : String
  session : Wire.Bytes
  permissions : Permissions
  deriving DecidableEq, Repr

inductive BuildError where
  | missingConnection
  | missingGlobalRequests
  | missingChannels
  | missingProvisioner
  | missingExecutor
  | missingForwarder
  | missingTenant
  | missingUserId
  | config (p : Config.Problem)
  deriving DecidableEq, Repr

def BuildError.message : BuildError → String
  | .missingConnection => "Missing connection"
  | .missingGlobalRequests => "Missing global request source"
  | .missingChannels => "Missing channel source"
  | .missingProvisioner => "Missing resource provisioner"
  | .missingExecutor => "Missing pod executor"
  | .missingForwarder => "Missing port forwarder"
  | .missingTenant => "Missing namespace"
  | .missingUserId => "Missing user id"
  | .config p => "Invalid configuration: Invalid config: " ++ p.message

/-- The parts of a connection, each of which may be missing. -/
structure Parts where
  login : Option Login
  globalRequests : Bool
  channels : Bool
  provisioner : Bool
  executor : Bool
  forwarder : Bool
  /-- Takes the place of the namespace that the handshake has stored, even if it is empty. -/
  tenant : Option String
  /-- Takes the place of the user's id that the handshake has stored, even if it is empty. -/
  userId : Option String
  config : Option Config
  /-- Whether the token above the connection is cancelled, if there is one. -/
  parentCancelled : Option Bool
  span : Bool

structure Span where
  user : String
  tenant : String
  session : String
  deriving DecidableEq, Repr

/-- How many bytes of the session's id records show. -/
def shownSessionBytes : Nat := 8

namespace Parts

def complete (login : Login) : Parts where
  login := some login
  globalRequests := true
  channels := true
  provisioner := true
  executor := true
  forwarder := true
  tenant := none
  userId := none
  config := none
  parentCancelled := none
  span := false

def choose (given stored : Option String) : Option String :=
  (given.or stored).filter (· ≠ "")

def context (p : Parts) : Except BuildError Context := do
  let some login := p.login | throw .missingConnection
  if !p.globalRequests then throw .missingGlobalRequests
  if !p.channels then throw .missingChannels
  if !p.provisioner then throw .missingProvisioner
  if !p.executor then throw .missingExecutor
  if !p.forwarder then throw .missingForwarder
  let some tenant := choose p.tenant login.permissions.tenant | throw .missingTenant
  let some userId := choose p.userId login.permissions.userId | throw .missingUserId
  let config := p.config.getD Config.standard
  match config.problem? with
  | some problem => throw (.config problem)
  | none => return ⟨⟨tenant, userId⟩, config⟩

def build (p : Parts) : Except BuildError State :=
  p.context.map fun ctx => .fresh ctx (p.parentCancelled.getD false)

/-- The span that is derived for a connection's records, where none is supplied. -/
def derivedSpan? (p : Parts) (ctx : Context) : Option Span :=
  if p.span then none
  else p.login.map fun login =>
    ⟨ctx.identity.userId, ctx.identity.tenant,
      String.ofList (Text.Hex.encode (login.session.take shownSessionBytes))⟩

end Parts

end SessionGateway.Connection
