import SessionGateway.Terminal.Consumption

/-!
# Consumers of terminal sizes

A queue of terminal sizes together with tasks that each wait for one size. Once nothing can go on,
no consumer waits while the queue has something to give.
-/

namespace SessionGateway.Simulation

open Terminal

/-- A queue and what its consumers have been given. -/
structure Consumers where
  queue : SizeQueue
  /-- For each consumer, what it got: a size, or that there will be none. -/
  given : List (Option (Option Size))

namespace Consumers

def create (capacity : Nat) : Consumers :=
  ⟨.create capacity, []⟩

def note (given : List (Option (Option Size))) : SizeQueue.Act → List (Option (Option Size))
  | .given consumer size => given.set consumer (some size)
  | _ => given

def take? (c : Consumers) (e : SizeQueue.Event) : Option (Consumers × List SizeQueue.Act) :=
  (c.queue.step e).map fun (queue, acts) => (⟨queue, acts.foldl note c.given⟩, acts)

/-- What is left once something has happened to the queue, which stays as it is if it cannot
happen. -/
def after (c : Consumers) (e : SizeQueue.Event) : Consumers :=
  ((c.take? e).map Prod.fst).getD c

/-- Serves the consumers that wait, at most as many as the given number. -/
def serve : Nat → Consumers → Consumers
  | 0, c => c
  | n + 1, c =>
    match c.take? .serve with
    | some (c, _) => serve n c
    | none => c

def settle (c : Consumers) : Consumers :=
  c.serve c.queue.waiting.length

def spawn (c : Consumers) : Consumers :=
  { c with given := c.given ++ [none] }.after (.next c.given.length)

def fill (c : Consumers) (s : Size) : Except SizeQueue.Error Consumers :=
  match c.take? (.fill s) with
  | some (_, [.refused _ e]) => .error e
  | _ => .ok (c.after (.fill s))

/-- Takes a size without waiting: a consumer asks, and gives up if it is made to wait. -/
def poll (c : Consumers) : Option (Option Size × Consumers) :=
  match c.take? (.next c.given.length) with
  | some (c, [.given _ size]) => some (size, c)
  | _ => none

def close (c : Consumers) : Consumers :=
  c.after .close

end Consumers

end SessionGateway.Simulation
