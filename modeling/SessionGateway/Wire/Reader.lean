import SessionGateway.Wire.Basic

/-!
# Reading payloads

A `Reader` takes fields off the front of a payload. A read that fails may still have taken
something: of a byte string whose body is too short the length stays taken, and of a text that is
not UTF-8 the body as well. Reading on after a failure is possible; a sequence built with `do`
stops at the first one.
-/

namespace SessionGateway.Wire

/-- A read off the front of a payload: its outcome, and the bytes that remain. -/
def Reader (α : Type) : Type :=
  Bytes → Except Error α × Bytes

namespace Reader

instance : Monad Reader where
  pure a := fun rest => (.ok a, rest)
  bind m f := fun rest =>
    match m rest with
    | (.ok a, rest') => f a rest'
    | (.error e, rest') => (.error e, rest')

def fail {α : Type} (e : Error) : Reader α :=
  fun rest => (.error e, rest)

def u8 (field : String) : Reader UInt8
  | b :: rest => (.ok b, rest)
  | [] => (.error (.truncated field 1 0), [])

def u32 (field : String) : Reader UInt32
  | a :: b :: c :: d :: rest => (.ok (word a b c d), rest)
  | rest => (.error (.truncated field 4 rest.length), rest)

def take (field : String) (count : Nat) : Reader Bytes := fun rest =>
  if rest.length < count then (.error (.truncated field count rest.length), rest)
  else (.ok (rest.take count), rest.drop count)

/-- A byte string behind its length. -/
def bytes (field : String) : Reader Bytes := do
  let length ← u32 field
  take field length.toNat

def text (field : String) : Reader String := do
  let body ← bytes field
  match text? body with
  | some s => pure s
  | none => fail (.invalidUtf8 field)

def finish : Reader Unit := fun rest =>
  if rest.isEmpty then (.ok (), rest) else (.error (.trailingBytes rest.length), rest)

def run {α : Type} (r : Reader α) (payload : Bytes) : Except Error α :=
  (r payload).1

end Reader

end SessionGateway.Wire
