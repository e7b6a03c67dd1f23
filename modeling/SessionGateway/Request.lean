import SessionGateway.Terminal.Mode
import SessionGateway.Terminal.SizeQueue
import SessionGateway.Wire.Basic

/-!
# Channel requests

The requests that a peer sends on a channel: a name and a payload. Four names have a meaning and
their payloads a fixed layout; a request with any other name is kept by its name, and its payload
is not looked at.
-/

namespace SessionGateway

open Wire

/-- What a request asks for, told from its name alone. -/
inductive RequestKind where
  | shell
  | pty
  | windowChange
  | subsystem
  | other
  deriving DecidableEq, Repr

namespace RequestKind

def name : RequestKind → String
  | .shell => "shell"
  | .pty => "pty-req"
  | .windowChange => "window-change"
  | .subsystem => "subsystem"
  | .other => "other"

def ofName (name : String) : RequestKind :=
  if name = "shell" then .shell
  else if name = "pty-req" then .pty
  else if name = "window-change" then .windowChange
  else if name = "subsystem" then .subsystem
  else .other

end RequestKind

/-- The dimensions that a terminal request carries, in cells and in pixels. -/
structure Dimensions where
  cols : UInt32
  rows : UInt32
  pixelWidth : UInt32
  pixelHeight : UInt32
  deriving DecidableEq, Repr

namespace Dimensions

def size (d : Dimensions) : Terminal.Size :=
  .ofCounts d.cols d.rows

/-- Four words: columns, rows, width and height in pixels. -/
def read : Reader Dimensions := do
  let cols ← Reader.u32 "cols"
  let rows ← Reader.u32 "rows"
  let pixelWidth ← Reader.u32 "pixel_width"
  let pixelHeight ← Reader.u32 "pixel_height"
  return ⟨cols, rows, pixelWidth, pixelHeight⟩

def fields (d : Dimensions) : List Field :=
  [.u32 d.cols, .u32 d.rows, .u32 d.pixelWidth, .u32 d.pixelHeight]

end Dimensions

structure PtyRequest where
  term : String
  dimensions : Dimensions
  modes : List Terminal.Mode
  deriving DecidableEq, Repr

/-- A decoded request. -/
inductive Request where
  | shell
  | pty (request : PtyRequest)
  | windowChange (dimensions : Dimensions)
  | subsystem (name : String)
  | other (name : String)
  deriving DecidableEq, Repr

namespace Request

def kind : Request → RequestKind
  | .shell => .shell
  | .pty _ => .pty
  | .windowChange _ => .windowChange
  | .subsystem _ => .subsystem
  | .other _ => .other

/-- The payload of a pseudo-terminal request. The modes are decoded before the end of the payload
is looked for. -/
def readPty : Reader PtyRequest := do
  let term ← Reader.text "term"
  let dimensions ← Dimensions.read
  let encoded ← Reader.bytes "modes"
  match Terminal.Mode.decode encoded with
  | .ok modes => do
      Reader.finish
      return ⟨term, dimensions, modes⟩
  | .error e => Reader.fail e

def readWindowChange : Reader Dimensions := do
  let dimensions ← Dimensions.read
  Reader.finish
  return dimensions

def readSubsystem : Reader String := do
  let name ← Reader.text "subsystem"
  Reader.finish
  return name

/-- Decodes a request. A shell request has no payload, and one that is there is ignored. -/
def decode (name : String) (payload : Bytes) : Except Wire.Error Request :=
  match RequestKind.ofName name with
  | .shell => .ok .shell
  | .pty => (readPty.run payload).map .pty
  | .windowChange => (readWindowChange.run payload).map .windowChange
  | .subsystem => (readSubsystem.run payload).map .subsystem
  | .other => .ok (.other name)

end Request

end SessionGateway
