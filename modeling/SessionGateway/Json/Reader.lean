import SessionGateway.Json.Basic
import SessionGateway.Text.Basic

/-!
# Reading JSON

A reader for the JSON grammar. The recursion counts down a number that bounds its depth: a value
inside a list is two calls deeper than the list and starts at least one character later.
-/

namespace SessionGateway.Json

def isSpace (c : Char) : Bool :=
  c = ' ' || c = '\n' || c = '\t' || c = '\r'

def skipSpace (cs : List Char) : List Char :=
  cs.dropWhile isSpace

/-- One unit of a string: a character, or a code unit of the escape `\uXXXX`. -/
inductive StringUnit where
  | char (c : Char)
  | code (n : Nat)

/-- The text of string units: a high surrogate joins with the low one that follows it, and one
that stands alone names no text. -/
def joinUnits : List StringUnit → Option (List Char)
  | [] => some []
  | .char c :: rest => (joinUnits rest).map (c :: ·)
  | .code high :: .code low :: rest =>
    if 0xD800 ≤ high ∧ high < 0xDC00 then
      if 0xDC00 ≤ low ∧ low < 0xE000 then
        (joinUnits rest).map
          (Char.ofNat (0x10000 + (high - 0xD800) * 0x400 + (low - 0xDC00)) :: ·)
      else none
    else if 0xDC00 ≤ high ∧ high < 0xE000 then none
    else (joinUnits (.code low :: rest)).map (Char.ofNat high :: ·)
  | .code n :: rest =>
    if 0xD800 ≤ n ∧ n < 0xE000 then none
    else (joinUnits rest).map (Char.ofNat n :: ·)

def escape? (c : Char) : Option Char :=
  if c = '"' ∨ c = '\\' ∨ c = '/' then some c
  else if c = 'b' then some '\x08'
  else if c = 'f' then some '\x0c'
  else if c = 'n' then some '\n'
  else if c = 'r' then some '\r'
  else if c = 't' then some '\t'
  else none

/-- The units of a string behind its opening quote, and what follows its closing quote. Control
characters may not stand in it. -/
def stringUnits : List Char → Option (List StringUnit × List Char)
  | [] => none
  | '"' :: rest => some ([], rest)
  | '\\' :: 'u' :: a :: b :: c :: d :: rest => do
      let n ← Text.Hex.number? [a, b, c, d]
      let (units, rest) ← stringUnits rest
      return (.code n :: units, rest)
  | '\\' :: c :: rest => do
      let c ← escape? c
      let (units, rest) ← stringUnits rest
      return (.char c :: units, rest)
  | c :: rest => do
      if c.toNat < 0x20 then none
      let (units, rest) ← stringUnits rest
      return (.char c :: units, rest)

def readString (cs : List Char) : Option (Option String × List Char) :=
  (stringUnits cs).map fun (units, rest) => ((joinUnits units).map String.ofList, rest)

def digits1 (cs : List Char) : Option (List Char × List Char) :=
  let ds := cs.takeWhile Text.Decimal.isDigit
  if ds.isEmpty then none else some (ds, cs.dropWhile Text.Decimal.isDigit)

/-- The integer part of a number: a zero stands alone. -/
def wholePart : List Char → Option (List Char × List Char)
  | '0' :: rest =>
    if (rest.head?.map Text.Decimal.isDigit).getD false then none else some (['0'], rest)
  | cs => digits1 cs

def fractionPart : List Char → Option (List Char × List Char)
  | '.' :: rest => (digits1 rest).map fun (ds, rest) => ('.' :: ds, rest)
  | cs => some ([], cs)

def exponentPart : List Char → Option (List Char × List Char)
  | e :: rest =>
    if e = 'e' ∨ e = 'E' then
      let (sign, rest) := match rest with
        | '+' :: r => (['+'], r)
        | '-' :: r => (['-'], r)
        | r => ([], r)
      (digits1 rest).map fun (ds, rest) => (e :: sign ++ ds, rest)
    else some ([], e :: rest)
  | [] => some ([], [])

def readNumber (cs : List Char) : Option (List Char × List Char) := do
  let (sign, cs) := match cs with
    | '-' :: rest => (['-'], rest)
    | _ => ([], cs)
  let (whole, cs) ← wholePart cs
  let (fraction, cs) ← fractionPart cs
  let (exponent, cs) ← exponentPart cs
  return (sign ++ whole ++ fraction ++ exponent, cs)

def keyword? (word : List Char) (cs : List Char) : Option (List Char) :=
  if word.isPrefixOf cs then some (cs.drop word.length) else none

mutual

def readValue : Nat → List Char → Option (Json × List Char)
  | 0, _ => none
  | n + 1, cs =>
    match skipSpace cs with
    | '"' :: rest => (readString rest).map fun (s, rest) => (.string s, rest)
    | '[' :: rest =>
      match skipSpace rest with
      | ']' :: rest => some (.array [], rest)
      | rest => (readItems n rest).map fun (items, rest) => (.array items, rest)
    | '\x7b' :: rest =>
      match skipSpace rest with
      | '\x7d' :: rest => some (.object [], rest)
      | rest => (readMembers n rest).map fun (members, rest) => (.object members, rest)
    | 'n' :: rest => (keyword? ['u', 'l', 'l'] rest).map fun rest => (.null, rest)
    | 't' :: rest => (keyword? ['r', 'u', 'e'] rest).map fun rest => (.bool true, rest)
    | 'f' :: rest => (keyword? ['a', 'l', 's', 'e'] rest).map fun rest => (.bool false, rest)
    | cs => (readNumber cs).map fun (spelling, rest) => (.number spelling, rest)

def readItems : Nat → List Char → Option (List Json × List Char)
  | 0, _ => none
  | n + 1, cs => do
      let (item, rest) ← readValue n cs
      match skipSpace rest with
      | ']' :: rest => return ([item], rest)
      | ',' :: rest => do
          let (items, rest) ← readItems n rest
          return (item :: items, rest)
      | _ => none

def readMembers : Nat → List Char → Option (List (Option String × Json) × List Char)
  | 0, _ => none
  | n + 1, cs =>
    match skipSpace cs with
    | '"' :: rest => do
        let (name, rest) ← readString rest
        match skipSpace rest with
        | ':' :: rest => do
            let (value, rest) ← readValue n rest
            match skipSpace rest with
            | '\x7d' :: rest => return ([(name, value)], rest)
            | ',' :: rest => do
                let (members, rest) ← readMembers n rest
                return ((name, value) :: members, rest)
            | _ => none
        | _ => none
    | _ => none

end

def parse (s : String) : Option Json := do
  let cs := s.toList
  let (value, rest) ← readValue (2 * cs.length + 2) cs
  if (skipSpace rest).isEmpty then return value else none

end SessionGateway.Json
