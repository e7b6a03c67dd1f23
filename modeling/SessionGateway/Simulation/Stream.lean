/-!
# Byte streams

The peer's side of a channel's byte stream: what it has sent and the channel has not read, and what
it has received.
-/

namespace SessionGateway.Simulation

inductive Stream.Chunk where
  | text (s : String)
  | fault
  deriving DecidableEq, Repr

/-- A byte stream, from the peer's side. -/
structure Stream where
  writeFails : Bool
  /-- What the peer has sent and nobody has read, oldest first. -/
  input : List Stream.Chunk
  ended : Bool
  written : String
  closes : Nat
  deriving DecidableEq, Repr

namespace Stream

def create (writeFails : Bool) : Stream :=
  ⟨writeFails, [], false, "", 0⟩

def send (s : Stream) (chunk : Chunk) : Stream :=
  if s.ended then s else { s with input := s.input ++ [chunk] }

def finish (s : Stream) : Stream :=
  { s with ended := true }

def closed (s : Stream) : Bool :=
  0 < s.closes

/-- Reads: `some none` at the end of the input or once the stream is closed, and `none` if there is
nothing to read yet. -/
def read? (s : Stream) : Option (Option Chunk × Stream) :=
  if s.closed then some (none, s)
  else match s.input with
    | chunk :: rest => some (some chunk, { s with input := rest })
    | [] => if s.ended then some (none, s) else none

def write? (s : Stream) (text : String) : Option Stream :=
  if s.writeFails ∨ s.closed then none else some { s with written := s.written ++ text }

def close (s : Stream) : Stream :=
  { s with closes := s.closes + 1 }

end Stream

end SessionGateway.Simulation
