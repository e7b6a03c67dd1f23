import SessionGateway.Task.Forest

/-!
# The life of task groups

Tokens and groups, their tasks and the calls that wait for them, as one transition system. Any of its
events may happen at any time: tasks are started in a group that is cancelled or waited for, several
calls wait for one group, and groups are made below tokens that are cancelled already.

A call that waits for a group is let go at the first moment at which no task of the group is running,
and it returns some time after that. Anything can happen in between, so that tasks may be running
again when the call returns.
-/

namespace SessionGateway.Task

namespace Forest

inductive Event where
  /-- A token is made, below another one or without a parent. -/
  | token (parent : Option Nat)
  /-- A group is made, with a token below another one or without a parent. -/
  | group (parent : Option Nat)
  | spawn (group : Nat)
  | finish (task : Nat)
  | cancelToken (token : Nat)
  | cancel (group : Nat)
  | wait (group : Nat)
  | shutdown (group : Nat)
  deriving DecidableEq, Repr

def isReleased (f : Forest) (call : Nat) : Bool :=
  f.waits[call]?.any Wait.released

def hasGroup (f : Forest) (group : Nat) : Bool :=
  group < f.groups.length

def hasToken (f : Forest) (token : Nat) : Bool :=
  token < f.tokens.length

def isRunning (f : Forest) (task : Nat) : Bool :=
  f.tasks[task]?.any Entry.running

/-- What becomes of tokens and groups with an event, if it can happen. -/
def next? (f : Forest) : Event → Option Forest
  | .token parent => if parent.all f.hasToken then some (f.addToken parent) else none
  | .group parent => if parent.all f.hasToken then some (f.addGroup parent) else none
  | .spawn group => if f.hasGroup group then some (f.spawn group) else none
  | .finish task => if f.isRunning task then some (f.finish task) else none
  | .cancelToken token => if f.hasToken token then some (f.cancelToken token) else none
  | .cancel group => if f.hasGroup group then some (f.cancel group) else none
  | .wait group => if f.hasGroup group then some (f.wait group) else none
  | .shutdown group => if f.hasGroup group then some (f.shutdown group) else none

end Forest

/-- Tokens and groups, and which of the calls that wait for groups have returned. -/
structure Callers where
  forest : Forest
  /-- The calls that have returned, oldest return first. -/
  returned : List Nat
  deriving DecidableEq, Repr

namespace Callers

def empty : Callers :=
  ⟨.empty, []⟩

inductive Event where
  /-- Something happens to tokens or groups. -/
  | forest (e : Forest.Event)
  | return (call : Nat)
  deriving DecidableEq, Repr

inductive Act where
  | returned (call : Nat)
  deriving DecidableEq, Repr

def canReturn (s : Callers) (call : Nat) : Bool :=
  s.forest.isReleased call && !s.returned.contains call

def step (s : Callers) : Event → Option (Callers × List Act)
  | .forest e => (s.forest.next? e).map fun f => ({ s with forest := f }, [])
  | .return call =>
    if s.canReturn call then
      some ({ s with returned := s.returned ++ [call] }, [.returned call])
    else none

end Callers

end SessionGateway.Task
