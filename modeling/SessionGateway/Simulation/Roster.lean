import SessionGateway.Task.Forest

/-!
# Tasks that wait

Task groups whose tasks do nothing but wait to be released. A task also ends when its group is
cancelled, unless it is stubborn; cancellation is looked at before the release.
-/

namespace SessionGateway.Simulation

open SessionGateway.Task

inductive Roster.Status where
  | running
  | cancelled
  | released
  deriving DecidableEq, Repr

structure Roster.Member where
  group : Nat
  /-- Whether the task does not look at cancellation. -/
  stubborn : Bool
  status : Roster.Status
  deriving DecidableEq, Repr

/-- Groups, and what their tasks wait for. -/
structure Roster where
  forest : Forest
  members : List Roster.Member
  deriving DecidableEq, Repr

namespace Roster

/-- The token above the first group, if there is a token above it. -/
def rootToken : Nat := 0

/-- One group, below a token of its own or not. -/
def create (below : Bool) : Roster :=
  let forest := Forest.empty.addToken none
  ⟨forest.addGroup (if below then some rootToken else none), []⟩

def finish (r : Roster) (task : Nat) (status : Status) : Roster where
  forest := r.forest.finish task
  members := r.members.modify task fun m => { m with status := status }

def Member.cancels (m : Member) (f : Forest) : Bool :=
  m.status = .running ∧ !m.stubborn ∧ f.isCancelled (f.tokenOf m.group)

/-- Ends the tasks that are to end because their group is cancelled. -/
def settle (r : Roster) : Roster :=
  (List.range r.members.length).foldl (fun r task =>
    match r.members[task]? with
    | some m => if m.cancels r.forest then r.finish task .cancelled else r
    | none => r) r

def addChild (r : Roster) (group : Nat) : Roster :=
  { r with forest := r.forest.addGroup (some (r.forest.tokenOf group)) }

def spawn (r : Roster) (group : Nat) (stubborn : Bool) : Roster where
  forest := r.forest.spawn group
  members := r.members ++ [⟨group, stubborn, .running⟩]

def release (r : Roster) (task : Nat) : Roster :=
  match r.members[task]? with
  | some m => if m.status = .running then r.finish task .released else r
  | none => r

def cancel (r : Roster) (group : Nat) : Roster :=
  { r with forest := r.forest.cancel group }

def cancelRoot (r : Roster) : Roster :=
  { r with forest := r.forest.cancelToken rootToken }

def wait (r : Roster) (group : Nat) : Roster :=
  { r with forest := r.forest.wait group }

def shutdown (r : Roster) (group : Nat) : Roster :=
  { r with forest := r.forest.shutdown group }

end Roster

end SessionGateway.Simulation
