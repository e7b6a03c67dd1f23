import SessionGateway.Toml.Text

/-!
# Writing TOML

The written form of strings, keys, integers and lists. A string takes the first form, of four in a
fixed order, that needs no escapes and no more delimiters than it has to; a key is bare if it can
be.
-/

namespace SessionGateway.Toml

/-- A control character that no literal form can hold: all but the tab and the line feed. -/
def isControl (c : Char) : Bool :=
  (c.toNat < 0x20 && c ≠ '\t' && c ≠ '\n') || c.toNat = 0x7F

/-- The length of the longest run of a character, where `run` of them stand before the text. -/
def longestRun (x : Char) (run : Nat) : List Char → Nat
  | [] => run
  | c :: rest => if c = x then longestRun x (run + 1) rest else max run (longestRun x 0 rest)

/-- The form of a written string. -/
inductive StringForm where
  | basic
  | literal
  | longBasic
  | longLiteral
  deriving DecidableEq, Repr

def StringForm.ofValue (cs : List Char) : StringForm :=
  let controls := cs.any isControl
  let escapes := cs.contains '\\'
  let breaks := cs.contains '\n'
  let doubles := longestRun '"' 0 cs
  let singles := longestRun '\'' 0 cs
  if !controls && !escapes && doubles == 0 && !breaks then .basic
  else if !controls && singles == 0 && !breaks then .literal
  else if !controls && !escapes && doubles ≤ 2 then .longBasic
  else if !controls && singles ≤ 2 then .longLiteral
  else if breaks then .longBasic
  else .basic

def StringForm.ofKey (cs : List Char) : StringForm :=
  let controls := cs.any fun c => isControl c || c = '\n'
  if !controls && !cs.contains '\\' && !cs.contains '"' then .basic
  else if !controls && !cs.contains '\'' then .literal
  else .basic

def upperDigit (n : Nat) : Char :=
  if n < 10 then Char.ofNat (48 + n) else Char.ofNat (55 + n)

/-- A character other than the quote and the line feed inside a form with escapes. -/
def escapeChar (c : Char) : List Char :=
  if c = '\x08' then ['\\', 'b']
  else if c = '\t' then ['\\', 't']
  else if c = '\x0c' then ['\\', 'f']
  else if c = '\r' then ['\\', 'r']
  else if c = '\\' then ['\\', '\\']
  else if isControl c then
    ['\\', 'u', '0', '0', upperDigit (c.toNat / 16), upperDigit (c.toNat % 16)]
  else [c]

def basicBody (cs : List Char) : List Char :=
  cs.flatMap fun c =>
    if c = '"' then ['\\', '"'] else if c = '\n' then ['\\', 'n'] else escapeChar c

/-- The inside of a long basic string: of each run of quotes every third one is escaped. `run`
quotes stand unescaped before the text. -/
def longBasicText (run : Nat) : List Char → List Char
  | [] => []
  | c :: rest =>
    if c = '"' then
      if run < 2 then '"' :: longBasicText (run + 1) rest
      else ['\\', '"'] ++ longBasicText 0 rest
    else if c = '\n' then '\n' :: longBasicText 0 rest
    else escapeChar c ++ longBasicText 0 rest

/-- The line feed behind the delimiter of a text of several lines. -/
def leadBreak (cs : List Char) : List Char :=
  if cs.contains '\n' then ['\n'] else []

def StringForm.write (form : StringForm) (cs : List Char) : List Char :=
  match form with
  | .basic => ['"'] ++ basicBody cs ++ ['"']
  | .literal => ['\''] ++ cs ++ ['\'']
  | .longBasic => ['"', '"', '"'] ++ leadBreak cs ++ longBasicText 0 cs ++ ['"', '"', '"']
  | .longLiteral => ['\'', '\'', '\''] ++ leadBreak cs ++ cs ++ ['\'', '\'', '\'']

def writeString (s : String) : List Char :=
  (StringForm.ofValue s.toList).write s.toList

def writeKey (s : String) : List Char :=
  let cs := s.toList
  if cs ≠ [] ∧ cs.all isBareKeyChar then cs else (StringForm.ofKey cs).write cs

/-- A list of strings: on one line if it has at most one item, and otherwise with a line for each
item. -/
def writeStrings : List String → List Char
  | [] => ['[', ']']
  | [s] => ['['] ++ writeString s ++ [']']
  | items =>
    ['[', '\n'] ++ items.flatMap (fun s => [' ', ' ', ' ', ' '] ++ writeString s ++ [',', '\n']) ++
      [']']

def writeNat? (n : Nat) : Option (List Char) :=
  if n < UInt64.size / 2 then some (Nat.toDigits 10 n) else none

def writePair (key : String) (value : List Char) : List Char :=
  writeKey key ++ [' ', '=', ' '] ++ value ++ ['\n']

def writeTable (key : String) (entries : List (String × String)) : List Char :=
  ['['] ++ writeKey key ++ [']', '\n'] ++
    entries.flatMap fun (k, v) => writePair k (writeString v)

end SessionGateway.Toml
