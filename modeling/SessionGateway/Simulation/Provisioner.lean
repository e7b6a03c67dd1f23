import SessionGateway.Cluster

/-!
# Pods on request

A cluster that makes the pods of users ready, or does not, as it has been told for each user.
-/

namespace SessionGateway.Simulation

inductive Provisioner.Mode where
  | ready
  | fail (c : Cause)
  /-- The pod is ready, or fails, once the cluster is told so. -/
  | hang
  /-- The connection's token is cancelled, and the pod is not ready. -/
  | cancel
  /-- The connection's token is cancelled, and the pod is ready. -/
  | cancelReady
  deriving DecidableEq, Repr

structure Provisioner.Answer where
  cancels : Bool
  outcome : Except Cause Unit

structure Provisioner.Waiter where
  connection : Nat
  userId : String
  deriving DecidableEq, Repr

/-- A cluster that makes pods ready. -/
structure Provisioner where
  /-- What happens for a user, by the user's id; the first entry counts. -/
  modes : List (String × Provisioner.Mode)
  /-- What happens for every other user. -/
  otherwise : Provisioner.Mode
  asked : List Identity
  /-- The connections that wait, the one that has waited longest first. -/
  waiting : List Provisioner.Waiter

namespace Provisioner

def create (modes : List (String × Mode)) (otherwise : Mode) : Provisioner :=
  ⟨modes, otherwise, [], []⟩

/-- What happens at once when a pod is asked for, if anything does. -/
def Mode.answer? : Mode → Option Answer
  | .ready => some ⟨false, .ok ()⟩
  | .fail c => some ⟨false, .error c⟩
  | .hang => none
  | .cancel => some ⟨true, .error (.single "gave up")⟩
  | .cancelReady => some ⟨true, .ok ()⟩

def ask (p : Provisioner) (connection : Nat) (who : Identity) : Provisioner × Option Answer :=
  let p := { p with asked := p.asked ++ [who] }
  match ((p.modes.lookup who.userId).getD p.otherwise).answer? with
  | some answer => (p, some answer)
  | none => ({ p with waiting := p.waiting ++ [⟨connection, who.userId⟩] }, none)

def forget (p : Provisioner) (connection : Nat) : Provisioner :=
  { p with waiting := p.waiting.filter (·.connection ≠ connection) }

def release? (p : Provisioner) (userId : String) : Option (Nat × Provisioner) :=
  (p.waiting.find? (·.userId = userId)).map fun w =>
    (w.connection, { p with waiting := p.waiting.erase w })

end Provisioner

end SessionGateway.Simulation
