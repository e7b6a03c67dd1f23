import SessionGateway.Text.Unprintable

/-!
# Characters and texts

What readers and printers of settings and of stored data share: white space, decimal and hexadecimal
digits, and the form in which messages show a text, between double quotes, on one line, with every
character that would not show as itself spelled out.
-/

namespace SessionGateway.Text

/-! ## White space -/

/-- The code points with the property `White_Space`. -/
def blankRanges : List (Nat × Nat) :=
  [(0x09, 0x0D), (0x20, 0x20), (0x85, 0x85), (0xA0, 0xA0), (0x1680, 0x1680), (0x2000, 0x200A),
   (0x2028, 0x2029), (0x202F, 0x202F), (0x205F, 0x205F), (0x3000, 0x3000)]

def isBlank (c : Char) : Bool :=
  blankRanges.any fun (low, high) => low ≤ c.toNat && c.toNat ≤ high

def trimStart (cs : List Char) : List Char :=
  cs.dropWhile isBlank

def trimEnd (cs : List Char) : List Char :=
  (cs.reverse.dropWhile isBlank).reverse

def trim (cs : List Char) : List Char :=
  trimEnd (trimStart cs)

namespace Decimal

def isDigit (c : Char) : Bool :=
  '0' ≤ c && c ≤ '9'

def digitValue (c : Char) : Nat :=
  c.toNat - 48

def value (cs : List Char) : Nat :=
  cs.foldl (fun acc c => 10 * acc + digitValue c) 0

def natural? (cs : List Char) : Option Nat :=
  if cs ≠ [] ∧ cs.all isDigit then some (value cs) else none

/-- Reads an unsigned 64-bit number: one `+` may precede the digits. -/
def unsigned64? (cs : List Char) : Option Nat :=
  let digits := match cs with
    | '+' :: rest => rest
    | _ => cs
  (natural? digits).filter (· < UInt64.size)

end Decimal

namespace Hex

def digit (n : Nat) : Char :=
  if n < 10 then Char.ofNat (48 + n) else Char.ofNat (87 + n)

def value? (c : Char) : Option Nat :=
  if '0' ≤ c ∧ c ≤ '9' then some (c.toNat - 48)
  else if 'a' ≤ c ∧ c ≤ 'f' then some (c.toNat - 87)
  else if 'A' ≤ c ∧ c ≤ 'F' then some (c.toNat - 55)
  else none

def encode : List UInt8 → List Char
  | [] => []
  | b :: rest => digit (b.toNat / 16) :: digit (b.toNat % 16) :: encode rest

/-- Reads pairs of digits; an odd digit or another character is refused. -/
def decode? : List Char → Option (List UInt8)
  | [] => some []
  | high :: low :: rest => do
      let h ← value? high
      let l ← value? low
      let bytes ← decode? rest
      return UInt8.ofNat (16 * h + l) :: bytes
  | [_] => none

/-- The number that a list of digits denotes, most significant first. -/
def number? (cs : List Char) : Option Nat :=
  cs.foldlM (fun acc c => (value? c).map (16 * acc + ·)) 0

def ofNat (n : Nat) : List Char :=
  Nat.toDigits 16 n

end Hex

/-! ## Quoted text -/

/-- The spelled-out form `\u{…}` of a character, with the code point in hexadecimal. -/
def spellOut (c : Char) : List Char :=
  ['\\', 'u', '\x7b'] ++ Hex.ofNat c.toNat ++ ['\x7d']

/-- One character inside quotes. The single quote stays as it is. -/
def quoteChar (c : Char) : List Char :=
  if c = '"' then ['\\', '"']
  else if c = '\\' then ['\\', '\\']
  else if c = '\n' then ['\\', 'n']
  else if c = '\r' then ['\\', 'r']
  else if c = '\t' then ['\\', 't']
  else if c.toNat = 0 then ['\\', '0']
  else if c.toNat < 0x20 ∨ c.toNat = 0x7F then spellOut c
  else if c.toNat < 0x80 then [c]
  else if isUnprintable c then spellOut c
  else [c]

def quoted (s : String) : String :=
  String.ofList (['"'] ++ s.toList.flatMap quoteChar ++ ['"'])

def quotedList (xs : List String) : String :=
  "[" ++ ", ".intercalate (xs.map quoted) ++ "]"

end SessionGateway.Text
