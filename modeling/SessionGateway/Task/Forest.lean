/-!
# Task groups

A group holds a cancellation token and the tasks that were started in it. Tokens form trees: a
token is cancelled together with every token below it, and a token that is made below a cancelled
one is cancelled from the start. Waiting for a group ends once, at some moment after the call, the
group has no running task; a group that is waited for still takes new tasks.
-/

namespace SessionGateway.Task

/-- A cancellation token; its parent is an earlier token. -/
structure Token where
  parent : Option Nat
  cancelled : Bool
  deriving DecidableEq, Repr

/-- A task that was started in a group. -/
structure Entry where
  group : Nat
  running : Bool
  deriving DecidableEq, Repr

/-- A call that waits for a group to be empty. -/
structure Wait where
  group : Nat
  released : Bool
  deriving DecidableEq, Repr

/-- Tokens, the groups made from some of them, their tasks, and the calls that wait. -/
structure Forest where
  tokens : List Token
  groups : List Nat
  tasks : List Entry
  waits : List Wait
  deriving DecidableEq, Repr

namespace Forest

def empty : Forest :=
  ⟨[], [], [], []⟩

def isCancelled (f : Forest) (token : Nat) : Bool :=
  (f.tokens[token]?.map Token.cancelled).getD false

def addToken (f : Forest) (parent : Option Nat) : Forest :=
  { f with tokens := f.tokens ++ [⟨parent, (parent.map f.isCancelled).getD false⟩] }

def addGroup (f : Forest) (parent : Option Nat) : Forest :=
  { f.addToken parent with groups := f.groups ++ [f.tokens.length] }

def tokenOf (f : Forest) (group : Nat) : Nat :=
  (f.groups[group]?).getD f.tokens.length

/-- Cancels a token and those below it. Parents stand before their children, so that one pass
reaches them all; `reached` holds the tokens that the pass has cancelled so far. -/
def cancelFrom (target : Nat) : List Bool → List Token → List Token
  | _, [] => []
  | reached, t :: rest =>
    let hit := reached.length = target ∨ (t.parent.bind (reached[·]?)).getD false
    { t with cancelled := t.cancelled || hit } :: cancelFrom target (reached ++ [decide hit]) rest

def cancelToken (f : Forest) (token : Nat) : Forest :=
  { f with tokens := cancelFrom token [] f.tokens }

def cancel (f : Forest) (group : Nat) : Forest :=
  f.cancelToken (f.tokenOf group)

def spawn (f : Forest) (group : Nat) : Forest :=
  { f with tasks := f.tasks ++ [⟨group, true⟩] }

def running (f : Forest) (group : Nat) : Nat :=
  f.tasks.countP fun t => t.group = group ∧ t.running

/-- Releases the calls that wait for a group without running tasks. -/
def release (f : Forest) (group : Nat) : Forest :=
  if f.running group = 0 then
    { f with
      waits := f.waits.map fun w => if w.group = group then { w with released := true } else w }
  else f

def finish (f : Forest) (task : Nat) : Forest :=
  match f.tasks[task]? with
  | some t =>
    { f with tasks := f.tasks.set task { t with running := false } }.release t.group
  | none => f

/-- A call begins to wait for a group. It ends at once if the group is empty. -/
def wait (f : Forest) (group : Nat) : Forest :=
  { f with waits := f.waits ++ [⟨group, f.running group = 0⟩] }

def shutdown (f : Forest) (group : Nat) : Forest :=
  (f.cancel group).wait group

end Forest

end SessionGateway.Task
