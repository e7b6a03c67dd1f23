import SessionGateway.Channel.Handler
import SessionGateway.Simulation.Basic
import SessionGateway.Simulation.Stream

/-!
# The other sides of a channel

The peer at one end of a channel, and at the other end the program in the pod that the channel is
connected to. The program reads what the peer sends, piece by piece. It ends when it is told to,
tells the size of its terminal when it is asked to, and sends everything else back.
-/

namespace SessionGateway.Simulation

inductive Program.OnStop where
  | succeed
  | fail
  | ignore
  deriving DecidableEq, Repr

inductive Program.Reaction where
  | finish (outcome : Except Cause Unit)
  | tellSize
  | echo

/-- What a program does with a piece of input. A failure names its contexts from the outermost to
the root. -/
def Program.react (input : String) : Program.Reaction :=
  if input = "exit" then .finish (.ok ())
  else if input = "size" then .tellSize
  else match input.toList with
    | 'f' :: 'a' :: 'i' :: 'l' :: ':' :: causes =>
      .finish (.error (Cause.ofContexts (String.ofList causes)))
    | _ => .echo

inductive Call.Status where
  | running
  | succeeded
  | failed
  deriving DecidableEq, Repr

structure Call where
  work : Nat
  job : Channel.Job
  status : Call.Status
  deriving DecidableEq, Repr

/-- The other sides of a channel. -/
structure Peer where
  stream : Stream
  onStop : Program.OnStop
  mailbox : Mailbox
  hungUp : Bool
  calls : List Call
  deriving DecidableEq, Repr

namespace Peer

def create (writeFails : Bool) (onStop : Program.OnStop) : Peer :=
  ⟨.create writeFails, onStop, .empty, false, []⟩

def observe (p : Peer) : Channel.Act → Peer
  | .answer n ok => { p with mailbox := p.mailbox.answer n ok }
  | .forgo n => { p with mailbox := p.mailbox.forgo n }
  | .exec work request =>
    { p with calls := p.calls ++ [⟨work, .exec request false, .running⟩] }
  | .forward work request =>
    { p with calls := p.calls ++ [⟨work, .forward request, .running⟩] }
  | _ => p

def finish (p : Peer) (work : Nat) (outcome : Except Cause Unit) : Peer × List Channel.Event :=
  let status : Call.Status := match outcome with
    | .ok () => .succeeded
    | .error _ => .failed
  let calls := p.calls.map fun c => if c.work = work then { c with status := status } else c
  ({ p with calls := calls }, [.returned work outcome])

def respond (p : Peer) (work : Nat) (text : String) : Peer × List Channel.Event :=
  match p.stream.write? text with
  | some stream => ({ p with stream := stream }, [])
  | none => p.finish work (.error (.single "channel closed"))

def tellSize (p : Peer) (work : Nat) (sizes : Option Terminal.SizeQueue) :
    Peer × List Channel.Event :=
  match sizes with
  | none => p.respond work "no-tty;"
  | some sizes =>
    match sizes.poll with
    | none => p.respond work "empty;"
    | some (size, _) =>
      let text := match size with
        | some s => s.text ++ ";"
        | none => "closed;"
      let (p, events) := p.respond work text
      (p, .pollSize :: events)

/-- What a program does with what it reads. -/
def takeInput (p : Peer) (work : Nat) (sizes : Option Terminal.SizeQueue) :
    Option Stream.Chunk → Peer × List Channel.Event
  | none => p.finish work (.ok ())
  | some .fault => p.finish work (.error (.single "peer reset"))
  | some (.text s) =>
    match Program.react s with
    | .finish outcome => p.finish work outcome
    | .tellSize => p.tellSize work sizes
    | .echo => p.respond work s

/-- What a program does next, unless it waits for input. It first looks whether it is to stop. -/
def runProgram (p : Peer) (work : Nat) (stopped : Bool) (sizes : Option Terminal.SizeQueue) :
    Option (Peer × List Channel.Event) :=
  match stopped, p.onStop with
  | true, .succeed => some (p.finish work (.ok ()))
  | true, .fail => some (p.finish work (.error (.single "interrupted")))
  | _, _ => p.stream.read?.map fun (chunk, stream) =>
    { p with stream := stream }.takeInput work sizes chunk

/-- What happens to a task from outside, unless it waits. -/
def runWork (p : Peer) (s : Channel.Scratch) (n : Nat) : Option (Peer × List Channel.Event) :=
  match s.works[n]? with
  | some ⟨.exec request _, .calling⟩ =>
    p.runProgram n s.stopped (if request.takesSizes then some s.sizes else none)
  | some ⟨.forward _, .calling⟩ => p.runProgram n s.stopped none
  | some ⟨_, .writing line⟩ =>
    some ({ p with stream := (p.stream.write? line).getD p.stream }, [.written n])
  | _ => none

/-- What happens next to an open channel, if anything does: the channel's own task goes on, one of
its tasks runs, the stream is closed, or one of its tasks is served from outside. -/
def next? (p : Peer) (ctx : Context) (h : Channel.Handler) : Option (Peer × List Channel.Event) :=
  let tasks := List.range h.scratch.works.length
  if (h.advance? ctx).isSome then some (p, [.advance])
  else match tasks.find? fun n => (h.run? n).isSome with
    | some n => some (p, [.run n])
    | none =>
      if h.phase = .closing then some ({ p with stream := p.stream.close }, [.streamClosed])
      else tasks.findSome? (p.runWork h.scratch)

/-- How many things can happen to an open channel before it waits, for a table that runs at most
`callbacks` callbacks for a request. A task starts, is served and writes; a request is taken and
may start a task for each callback; every piece of input is read. -/
def eventsAhead (p : Peer) (h : Channel.Handler) (callbacks : Nat) : Nat :=
  16 + 4 * h.scratch.works.length + (h.inbox.queued.length + 1) * (8 * callbacks + 1) +
    p.stream.input.length

def sendInput (p : Peer) (chunk : Stream.Chunk) : Peer :=
  { p with stream := p.stream.send chunk }

def endInput (p : Peer) : Peer :=
  { p with stream := p.stream.finish }

/-- The peer sends a request, which arrives if somebody receives it. -/
def sendRequest (p : Peer) (receives : Bool) (r : ChannelRequest) : Peer :=
  { p with mailbox := p.mailbox.send receives r.wantReply }

def hangUp (p : Peer) : Peer :=
  { p with hungUp := true }

end Peer

end SessionGateway.Simulation
