/-!
# Wire payloads

Payloads of requests and of channel opens are sequences of three kinds of field: a byte, a
big-endian 32-bit word, and a byte string behind a word that holds its length. This module has
the bytes, the words, what can be wrong with a payload, and how one is written.
-/

namespace SessionGateway.Wire

abbrev Bytes := List UInt8

inductive Error where
  | truncated (field : String) (needed remaining : Nat)
  | invalidUtf8 (field : String)
  | trailingBytes (count : Nat)
  | portOutOfRange (port : UInt32)
  deriving DecidableEq, Repr

def Error.message : Error → String
  | .truncated field needed remaining =>
      s!"Truncated payload: {field} needs {needed} bytes, {remaining} remaining"
  | .invalidUtf8 field => s!"Invalid UTF-8 in {field}"
  | .trailingBytes count => s!"Unexpected {count} trailing bytes"
  | .portOutOfRange port => s!"Port out of range: {port}"

/-- The word that four bytes denote, most significant first. -/
def word (a b c d : UInt8) : UInt32 :=
  UInt32.ofNat (((a.toNat * 256 + b.toNat) * 256 + c.toNat) * 256 + d.toNat)

def wordBytes (w : UInt32) : Bytes :=
  [(w >>> 24).toUInt8, (w >>> 16).toUInt8, (w >>> 8).toUInt8, w.toUInt8]

/-- The text that bytes encode, if they are valid UTF-8. -/
def text? (bytes : Bytes) : Option String :=
  String.fromUTF8? bytes.toByteArray

def textBytes (s : String) : Bytes :=
  s.toUTF8.toList

/-! ## Writing payloads

A byte string must be shorter than `2 ^ 32`; of a longer one the length is written modulo
`2 ^ 32`.
-/

inductive Field where
  | u8 (value : UInt8)
  | u32 (value : UInt32)
  | bytes (value : Bytes)
  | text (value : String)

def prefixed (body : Bytes) : Bytes :=
  wordBytes (UInt32.ofNat body.length) ++ body

def Field.encode : Field → Bytes
  | .u8 value => [value]
  | .u32 value => wordBytes value
  | .bytes value => prefixed value
  | .text value => prefixed (textBytes value)

def encode (fields : List Field) : Bytes :=
  fields.flatMap Field.encode

end SessionGateway.Wire
