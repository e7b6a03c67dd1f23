import SessionGateway.Channel.Table

/-!
# Session and forward channels

A session runs at most one command: the user's shell or a subsystem. A request for a terminal
before the shell decides whether the shell gets one, and the sizes of that terminal reach the
command through the queue.

A forward connects its channel to a port of the user's pod as soon as it is open. The host that the
peer names is not looked at, and every request on the channel is refused.
-/

namespace SessionGateway.Channel

namespace Session

/-- Keeps the terminal and queues its size. The request succeeds even if the queue refuses. -/
def onPty : RequestCallback := fun _ p s =>
  match p.request with
  | .pty pty =>
    let p := p.reply true
    let s := { s with pty := some pty }
    match s.sizes.fill pty.dimensions.size with
    | .ok sizes => (p, { s with sizes := sizes }, none)
    | .error e => (p, s, some (.sizes e))
  | _ => (p, s, none)

/-- Queues a new size. Without a terminal nothing reads sizes, and the request just succeeds. -/
def onWindowChange : RequestCallback := fun _ p s =>
  match p.request with
  | .windowChange dimensions =>
    match s.pty with
    | none => (p.reply true, s, none)
    | some _ =>
      match s.sizes.fill dimensions.size with
      | .ok sizes => (p.reply true, { s with sizes := sizes }, none)
      | .error e => (p.reply false, s, some (.sizes e))
  | _ => (p, s, none)

def start (ctx : Context) (s : Scratch) (command : List String) (tty interactive : Bool) :
    Scratch :=
  { s with commandStarted := true }.spawn (.exec (ctx.exec command tty) interactive)

/-- Starts the user's shell, with a terminal if one was asked for. -/
def onShell : RequestCallback := fun ctx p s =>
  if s.commandStarted then (p.reply false, s, some .alreadyRunning)
  else (p.reply true, start ctx s ctx.config.shellCommand s.pty.isSome true, none)

/-- Starts a subsystem, which never has a terminal. A name that is not configured is refused
first, and does not use up the channel's command. -/
def onSubsystem : RequestCallback := fun ctx p s =>
  match p.request with
  | .subsystem name =>
    match ctx.config.subsystem? name with
    | none => (p.reply false, s, some (.unknownSubsystem name))
    | some path =>
      if s.commandStarted then (p.reply false, s, some .alreadyRunning)
      else (p.reply true, start ctx s [path] false false, none)
  | _ => (p, s, none)

def table : Table :=
  Table.empty
    |>.on .pty "terminal" onPty
    |>.on .windowChange "resize" onWindowChange
    |>.on .shell "shell" onShell
    |>.on .subsystem "subsystem" onSubsystem
    |>.observing "record" observe

end Session

namespace Forward

/-- Starts the forward to the port that the channel was opened with. -/
def onStart : StartupCallback := fun ctx s =>
  match s.forwardOpen with
  | some opened => (s.spawn (.forward (ctx.forward opened.port)), none)
  | none => (s.close, none)

def table : Table :=
  Table.empty
    |>.onStart "forward" onStart
    |>.observing "record" observe

end Forward

end SessionGateway.Channel
