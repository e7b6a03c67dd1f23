import SessionGateway.Terminal.SizeQueue

/-!
# The use of a queue of sizes

A queue with a producer that never waits and with any number of consumers. Each consumer asks for
one size. It gets the size at once, or it waits in line until it is served or gives up.
-/

namespace SessionGateway.Terminal.SizeQueue

inductive Event where
  | fill (s : Size)
  /-- A consumer asks for one size. -/
  | next (consumer : Nat)
  /-- The consumer at the head of the line goes on. -/
  | serve
  | abandon (consumer : Nat)
  | close
  deriving DecidableEq, Repr

inductive Act where
  | accepted (s : Size)
  | refused (s : Size) (e : Error)
  /-- A consumer ends, with a size or without one. -/
  | given (consumer : Nat) (size : Option Size)
  | waits (consumer : Nat)
  deriving DecidableEq, Repr

/-- What happens to a queue, if it can happen. A consumer that waits does not ask again. -/
def step (q : SizeQueue) : Event → Option (SizeQueue × List Act)
  | .fill s =>
    match q.fill s with
    | .ok q => some (q, [.accepted s])
    | .error e => some (q, [.refused s e])
  | .next consumer =>
    if consumer ∈ q.waiting then none
    else match q.poll with
      | some (size, q) => some (q, [.given consumer size])
      | none => some (q.enqueue consumer, [.waits consumer])
  | .serve => q.serve?.map fun (consumer, size, q) => (q, [.given consumer size])
  | .abandon consumer => if consumer ∈ q.waiting then some (q.abandon consumer, []) else none
  | .close => some (q.close, [])

end SessionGateway.Terminal.SizeQueue
