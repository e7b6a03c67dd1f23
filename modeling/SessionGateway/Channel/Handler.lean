import SessionGateway.Channel.Table
import SessionGateway.Inbox

/-!
# The life of a channel

A channel as a transition system. Its own task runs the startup callbacks, takes requests one
after the other until they end or the channel's token is cancelled, and then cleans up: it stops
receiving, tells the channel's tasks to stop, closes the queue of sizes, waits for the tasks, and
closes the stream. The tasks run beside it. Each event is one thing that happens without a pause,
and an event that cannot happen in a state has no outcome there.
-/

namespace SessionGateway.Channel

inductive Phase where
  | ready
  | serving
  /-- Waits for the channel's tasks. -/
  | draining
  /-- Waits for the stream to be closed. -/
  | closing
  | closed
  deriving DecidableEq, Repr

structure Handler where
  table : Table
  scratch : Scratch
  inbox : Inbox ChannelRequest
  taken : Nat
  phase : Phase

inductive Event where
  | arrive (request : ChannelRequest)
  | hangUp
  | cancel
  /-- The channel's own task goes on. -/
  | advance
  /-- A task that has been started runs, or notices that it is to stop. -/
  | run (work : Nat)
  /-- The cluster has finished what a task called it for. -/
  | returned (work : Nat) (outcome : Except Cause Unit)
  /-- The peer has received a line, or can receive none; both count alike. -/
  | written (work : Nat)
  | streamClosed
  | pollSize
  | awaitSize (consumer : Nat)
  | abandonSize (consumer : Nat)
  | serveSize

namespace Handler

def accepted (ctx : Context) (table : Table) (forwardOpen : Option ForwardOpen)
    (cancelled : Bool) : Handler where
  table := table
  scratch := .fresh ctx.config.queueCapacity.toNat cancelled forwardOpen
  inbox := .fresh
  taken := 0
  phase := .ready

def mapScratch (h : Handler) (f : Scratch → Scratch) : Handler :=
  { h with scratch := f h.scratch }

/-- What becomes of requests that nobody takes, numbered from `n`. -/
def forgoFrom (n : Nat) : List ChannelRequest → List Act
  | [] => []
  | r :: rest => if r.wantReply then .forgo n :: forgoFrom (n + 1) rest else forgoFrom (n + 1) rest

/-- Leaves the loop: requests that are not taken are destroyed, the tasks are told to stop, and
the queue of sizes is closed. -/
def leave (h : Handler) : Handler × List Act :=
  ({ h with
      scratch := { h.scratch.stop with sizes := h.scratch.sizes.close }
      inbox := h.inbox.drop
      phase := .draining },
    forgoFrom h.taken h.inbox.queued)

/-- The next thing that the channel's own task does, unless it waits. In the loop cancellation
comes before the next request. -/
def advance? (ctx : Context) (h : Handler) : Option (Handler × List Act) :=
  match h.phase with
  | .ready =>
    let (s, acts) := Table.runStartup ctx h.table.startup h.scratch
    some ({ h with scratch := s, phase := .serving }, acts)
  | .serving =>
    if h.scratch.closed then some h.leave
    else match h.inbox.take? with
      | some (raw, inbox) =>
        let (s, acts) := h.table.dispatch ctx h.taken raw h.scratch
        some ({ h with scratch := s, inbox := inbox, taken := h.taken + 1 }, acts)
      | none => if h.inbox.ended then some h.leave else none
  | .draining =>
    if h.scratch.running = 0 then some ({ h with phase := .closing }, [.closeStream]) else none
  | .closing | .closed => none

/-- A task ends, and the channel with it if the task was started so. -/
def finishWork (h : Handler) (work : Nat) (closes : Bool) : Handler :=
  let h := h.mapScratch (·.setStage work .done)
  if closes then h.mapScratch Scratch.close else h

/-- What a task does that has been started or waits to be told to stop. -/
def run? (h : Handler) (work : Nat) : Option (Handler × List Act) :=
  match h.scratch.works[work]? with
  | some ⟨job, .ready⟩ =>
    match job with
    | .exec request _ => some (h.mapScratch (·.setStage work .calling), [.exec work request])
    | .forward request => some (h.mapScratch (·.setStage work .calling), [.forward work request])
    | .brief _ closes => some (h.finishWork work closes, [])
    | .idle label =>
      if h.scratch.stopped then some (h.finishWork work false, [.joined label]) else none
  | _ => none

def closingLine (ctx : Context) : Except Cause Unit → String
  | .ok () => ctx.config.farewell
  | .error c => "\r\nerror: " ++ c.message ++ "\r\n"

def execWarning : Except Cause Unit → List Act
  | .ok () => []
  | .error c => [.warn ("Exec failed: " ++ c.chain)]

def forwardWarning : Except Cause Unit → List Act
  | .ok () => []
  | .error c => [.warn ("Forward failed: " ++ c.chain)]

/-- What a task does when the cluster has finished. Nothing is recorded or written once the tasks
have been told to stop. -/
def returned? (ctx : Context) (h : Handler) (work : Nat) (outcome : Except Cause Unit) :
    Option (Handler × List Act) :=
  match h.scratch.works[work]? with
  | some ⟨.exec _ interactive, .calling⟩ =>
    if h.scratch.stopped then some (h.finishWork work true, [])
    else
      let line := closingLine ctx outcome
      if interactive ∧ line ≠ "" then
        some (h.mapScratch (·.setStage work (.writing line)),
          execWarning outcome ++ [.write work line])
      else some (h.finishWork work true, execWarning outcome)
  | some ⟨.forward _, .calling⟩ =>
    some (h.finishWork work true, if h.scratch.stopped then [] else forwardWarning outcome)
  | _ => none

def written? (h : Handler) (work : Nat) : Option (Handler × List Act) :=
  match h.scratch.works[work]? with
  | some ⟨_, .writing _⟩ => some (h.finishWork work true, [])
  | _ => none

def setSizes (h : Handler) (sizes : Terminal.SizeQueue) : Handler :=
  h.mapScratch fun s => { s with sizes := sizes }

/-- What happens to a channel, if it can happen. -/
def step (ctx : Context) (h : Handler) : Event → Option (Handler × List Act)
  | .arrive request => some ({ h with inbox := h.inbox.send request }, [])
  | .hangUp => some ({ h with inbox := h.inbox.finish }, [])
  | .cancel => some (h.mapScratch Scratch.close, [])
  | .advance => h.advance? ctx
  | .run work => h.run? work
  | .returned work outcome => h.returned? ctx work outcome
  | .written work => h.written? work
  | .streamClosed => if h.phase = .closing then some ({ h with phase := .closed }, []) else none
  | .pollSize =>
    h.scratch.sizes.poll.map fun (size, sizes) => (h.setSizes sizes, [.delivered none size])
  | .awaitSize consumer => some (h.setSizes (h.scratch.sizes.enqueue consumer), [])
  | .abandonSize consumer => some (h.setSizes (h.scratch.sizes.abandon consumer), [])
  | .serveSize =>
    h.scratch.sizes.serve?.map fun (consumer, size, sizes) =>
      (h.setSizes sizes, [.delivered (some consumer) size])

end Handler

end SessionGateway.Channel
