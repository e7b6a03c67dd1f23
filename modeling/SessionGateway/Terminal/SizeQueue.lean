/-!
# Terminal sizes and their queue

The size of a terminal in character cells. The wire carries 32-bit counts; a size keeps 16 bits of
each and saturates.

A bounded queue of sizes stands between the requests of a channel, which bring sizes and never wait,
and the command in the pod, which waits for them. Consumers are served in the order in which they
began to wait, and a closed queue still gives out what it holds.
-/

namespace SessionGateway.Terminal

structure Size where
  width : UInt16
  height : UInt16
  deriving DecidableEq, Repr

/-- A 32-bit count cut off at the largest 16-bit number. -/
def saturate (count : UInt32) : UInt16 :=
  if count.toNat < UInt16.size then UInt16.ofNat count.toNat else 65535

namespace Size

def ofCounts (cols rows : UInt32) : Size :=
  ⟨saturate cols, saturate rows⟩

def standard : Size :=
  ⟨80, 24⟩

def text (s : Size) : String :=
  s!"{s.width}x{s.height}"

end Size

inductive SizeQueue.Error where
  | full
  | closed
  deriving DecidableEq, Repr

def SizeQueue.Error.message : SizeQueue.Error → String
  | .full => "Terminal size queue is full"
  | .closed => "Terminal size queue is closed"

structure SizeQueue where
  capacity : Nat
  /-- The sizes that nobody has taken yet, oldest first. -/
  pending : List Size
  closed : Bool
  /-- The consumers that wait, in the order in which they began to. -/
  waiting : List Nat
  deriving DecidableEq, Repr

namespace SizeQueue

def standardCapacity : Nat := 10

def maxCapacity : Nat := UInt64.size / 8 - 1

def effectiveCapacity (requested : Nat) : Nat :=
  if requested = 0 then standardCapacity else requested

def create (requested : Nat) : SizeQueue :=
  ⟨effectiveCapacity requested, [], false, []⟩

/-- Puts a size at the end. A closed queue refuses even when it is full as well. -/
def fill (q : SizeQueue) (s : Size) : Except Error SizeQueue :=
  if q.closed then .error .closed
  else if q.capacity ≤ q.pending.length then .error .full
  else .ok { q with pending := q.pending ++ [s] }

/-- Closes the queue; closing it again changes nothing. -/
def close (q : SizeQueue) : SizeQueue :=
  { q with closed := true }

def enqueue (q : SizeQueue) (consumer : Nat) : SizeQueue :=
  { q with waiting := q.waiting ++ [consumer] }

def abandon (q : SizeQueue) (consumer : Nat) : SizeQueue :=
  { q with waiting := q.waiting.filter (· ≠ consumer) }

/-- Takes the oldest size: `some none` once the queue is closed and empty, and `none` if there is
nothing to take yet. -/
def take? (q : SizeQueue) : Option (Option Size × SizeQueue) :=
  match q.pending with
  | s :: rest => some (some s, { q with pending := rest })
  | [] => if q.closed then some (none, q) else none

def serve? (q : SizeQueue) : Option (Nat × Option Size × SizeQueue) :=
  match q.waiting with
  | [] => none
  | consumer :: rest => (take? q).map fun (s, q) => (consumer, s, { q with waiting := rest })

/-- Takes a size for a consumer that does not wait. Nothing is given while others wait. -/
def poll (q : SizeQueue) : Option (Option Size × SizeQueue) :=
  if q.waiting.isEmpty then q.take? else none

end SizeQueue

end SessionGateway.Terminal
