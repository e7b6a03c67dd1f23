import SessionGateway.Connection.Discard
import SessionGateway.Connection.Keepalive
import SessionGateway.ReplySlot

/-!
# Time, records and answers

Simulated time stands still while anything can go on, and then passes up to the next moment at which
something goes on by itself. What is recorded while nothing waits for time to pass is shown in an
order that does not depend on which task was first. And a peer sees what becomes of the requests that
it has sent.
-/

namespace SessionGateway.Simulation

/-! ## Time -/

/-- Clocks count nanoseconds, and peers count milliseconds. -/
def millisecond : Nat := 1000000

/-- What the clocks of the simulated host show when something is set up on it: the host has been up
for some days. -/
def uptime : Nat := 1048576000000000

/-- The time that passes when somebody waits for so many milliseconds. It is never longer than the
longest time between two ticks. -/
def waitingTime (ms : Nat) : Nat :=
  min (ms * millisecond) Keepalive.longestPeriod

/-- The time up to the first of some moments that lies ahead, if one comes within a span; all moments
are seen from the same clock. -/
def untilNext (now span : Nat) (moments : List Nat) : Nat :=
  (moments.filter (now < ·)).foldl (fun span moment => min span (moment - now)) span

/-- Lets time pass. `span` tells how long nothing goes on by itself, up to a limit, and `elapse` lets
that time pass and then does what can be done. A span is never empty, so that as many rounds as there
are nanoseconds are enough. -/
def pass {σ : Type} (span : σ → Nat → Nat) (elapse : σ → Nat → σ) (time : Nat) (s : σ) : σ :=
  go time time s
where
  /-- Lets time pass in at most `rounds` spans. -/
  go : Nat → Nat → σ → σ
    | _, 0, s => s
    | 0, left + 1, s => elapse s (left + 1)
    | rounds + 1, left + 1, s =>
      let step := max 1 (min (left + 1) (span s (left + 1)))
      go rounds (left + 1 - step) (elapse s step)

/-! ## Records -/

/-- The records since they were last looked at. -/
abbrev Log :=
  List String

namespace Log

def warn (log : Log) (text : String) : Log :=
  log ++ ["WARN " ++ text]

def error (log : Log) (text : String) : Log :=
  log ++ ["ERROR " ++ text]

def sorted (log : Log) : List String :=
  log.mergeSort fun a b => !decide (b < a)

end Log

/-! ## Answers -/

/-- The answers to the requests of a peer, in the order in which they were sent; `none` for a
request that could not be sent. -/
structure Mailbox where
  slots : List (Option ReplySlot)
  deriving DecidableEq, Repr

namespace Mailbox

def empty : Mailbox :=
  ⟨[]⟩

def send (m : Mailbox) (arrives wantReply : Bool) : Mailbox :=
  ⟨m.slots ++ [if arrives then some (.ofWanted wantReply) else none]⟩

def modifySlot (f : ReplySlot → ReplySlot) : Nat → List (Option ReplySlot) → List (Option ReplySlot)
  | _, [] => []
  | 0, some slot :: rest => some (f slot) :: rest
  | n + 1, some slot :: rest => some slot :: modifySlot f n rest
  | n, none :: rest => none :: modifySlot f n rest

def answer (m : Mailbox) (n : Nat) (ok : Bool) : Mailbox :=
  ⟨modifySlot (·.reply ok) n m.slots⟩

def forgo (m : Mailbox) (n : Nat) : Mailbox :=
  ⟨modifySlot ReplySlot.destroy n m.slots⟩

def observe (m : Mailbox) : Discard.Act → Mailbox
  | .refuse n => m.answer n false
  | .forgo n => m.forgo n

end Mailbox

end SessionGateway.Simulation
