import SessionGateway.Cluster
import SessionGateway.ReplySlot
import SessionGateway.Request
import SessionGateway.Terminal.SizeQueue
import SessionGateway.ChannelOpen

/-!
# The state of a channel

What the callbacks of one channel share and change: the tasks they have started, the queue of
terminal sizes, and the token whose cancellation ends the channel.
-/

namespace SessionGateway

structure ChannelRequest where
  name : String
  payload : Wire.Bytes
  wantReply : Bool
  deriving DecidableEq, Repr

namespace Channel

inductive Error where
  | wire (e : Wire.Error)
  | sizes (e : Terminal.SizeQueue.Error)
  | unknownSubsystem (name : String)
  | alreadyRunning
  | accept (c : Cause)
  | reject (c : Cause)
  deriving DecidableEq, Repr

def Error.message : Error → String
  | .wire e => "Protocol error: " ++ e.message
  | .sizes e => "Queue error: " ++ e.message
  | .unknownSubsystem name => "Unknown subsystem: " ++ name
  | .alreadyRunning => "Channel already has a running command"
  | .accept c => "Accept failed: " ++ c.message
  | .reject c => "Reject failed: " ++ c.message

inductive Job where
  /-- Runs a command; after an interactive one a closing line is written. -/
  | exec (request : ExecRequest) (interactive : Bool)
  /-- Connects the channel to a port of the pod. -/
  | forward (request : ForwardRequest)
  /-- Waits until the tasks of the channel are told to stop. -/
  | idle (label : String)
  /-- Ends by itself, and the channel with it if it was started so. -/
  | brief (label : String) (closes : Bool)
  deriving DecidableEq, Repr

def Job.closes : Job → Bool
  | .exec _ _ | .forward _ => true
  | .idle _ => false
  | .brief _ closes => closes

inductive Job.Stage where
  | ready
  /-- It waits for the cluster. -/
  | calling
  | writing (line : String)
  | done
  deriving DecidableEq, Repr

/-- A task of a channel. -/
structure Work where
  job : Job
  stage : Job.Stage
  deriving DecidableEq, Repr

/-- What the callbacks of a channel share. -/
structure Scratch where
  /-- The channel's own token: once it is cancelled, no further request is taken. -/
  closed : Bool
  /-- The token of the channel's tasks, which is below the channel's own. -/
  stopped : Bool
  works : List Work
  sizes : Terminal.SizeQueue
  /-- The last request for a terminal. -/
  pty : Option PtyRequest
  commandStarted : Bool
  /-- The payload that a forward was opened with. -/
  forwardOpen : Option ForwardOpen
  deriving DecidableEq, Repr

namespace Scratch

def fresh (capacity : Nat) (cancelled : Bool) (forwardOpen : Option ForwardOpen) : Scratch where
  closed := cancelled
  stopped := cancelled
  works := []
  sizes := .create capacity
  pty := none
  commandStarted := false
  forwardOpen := forwardOpen

/-- Cancels the channel's token, and the one of its tasks with it. -/
def close (s : Scratch) : Scratch :=
  { s with closed := true, stopped := true }

def stop (s : Scratch) : Scratch :=
  { s with stopped := true }

def spawn (s : Scratch) (job : Job) : Scratch :=
  { s with works := s.works ++ [⟨job, .ready⟩] }

def running (s : Scratch) : Nat :=
  s.works.countP (·.stage ≠ .done)

def setStage (s : Scratch) (i : Nat) (stage : Job.Stage) : Scratch :=
  { s with works := s.works.modify i fun w => { w with stage := stage } }

end Scratch

/-- A decoded request whose callbacks are running. -/
structure Pending where
  name : String
  request : Request
  slot : ReplySlot
  deriving DecidableEq, Repr

def Pending.reply (p : Pending) (ok : Bool) : Pending :=
  { p with slot := p.slot.reply ok }

inductive Act where
  | started (label : Option String) (running : Nat) (closed : Bool)
  | invoked (label : Option String) (running : Nat) (closed : Bool) (request : Pending)
  /-- The request with this number is answered. -/
  | answer (n : Nat) (ok : Bool)
  /-- The request with this number is destroyed while the peer waits for its answer. -/
  | forgo (n : Nat)
  | exec (work : Nat) (request : ExecRequest)
  | forward (work : Nat) (request : ForwardRequest)
  | write (work : Nat) (line : String)
  /-- A waiting task has been told to stop and ends. -/
  | joined (label : String)
  /-- A consumer gets a terminal size, or learns that there will be none. -/
  | delivered (consumer : Option Nat) (size : Option Terminal.Size)
  | closeStream
  | warn (text : String)
  deriving DecidableEq, Repr

end Channel

end SessionGateway
