import SessionGateway.Text.Basic
import SessionGateway.Toml.Text

/-!
# TOML numbers and date-times

Integers in four bases, floating-point numbers, and date-times. Single underscores may stand
between the digits of a number. Integers must fit in 64 bits, and a floating-point number must not
be so large that its nearest double is infinite.
-/

namespace SessionGateway.Toml

open SessionGateway.Text.Decimal (isDigit value)

/-- Digits with single underscores between them: the digits without the underscores, and the rest
of the text. An underscore that no digit follows is left in the rest. -/
def digitRun (isDigit : Char → Bool) : List Char → List Char × List Char
  | '_' :: c :: rest =>
    if isDigit c then
      let (ds, rest) := digitRun isDigit rest
      (c :: ds, rest)
    else ([], '_' :: c :: rest)
  | c :: rest =>
    if isDigit c then
      let (ds, rest) := digitRun isDigit rest
      (c :: ds, rest)
    else ([], c :: rest)
  | [] => ([], [])

def digits? (isDigit : Char → Bool) : List Char → Option (List Char × List Char)
  | c :: rest => if isDigit c then some (digitRun isDigit (c :: rest)) else none
  | [] => none

def sign : List Char → Bool × List Char
  | '+' :: rest => (false, rest)
  | '-' :: rest => (true, rest)
  | cs => (false, cs)

/-- The whole part of a decimal number: a leading zero stands alone. -/
def decimalWhole? : List Char → Option (List Char × List Char)
  | '0' :: rest => some (['0'], rest)
  | cs => digits? isDigit cs

def basedInteger? (base : Nat) (cs : List Char) : Option (Int × List Char) := do
  let (ds, rest) ← digits? (fun c => (Text.Hex.value? c).any (· < base)) cs
  let n := ds.foldl (fun acc c => base * acc + (Text.Hex.value? c).getD 0) 0
  if n < UInt64.size / 2 then some (n, rest) else none

def integer? : List Char → Option (Int × List Char)
  | '0' :: 'x' :: rest => basedInteger? 16 rest
  | '0' :: 'o' :: rest => basedInteger? 8 rest
  | '0' :: 'b' :: rest => basedInteger? 2 rest
  | cs => do
      let (negative, cs) := sign cs
      let (ds, rest) ← decimalWhole? cs
      let n : Int := if negative then -(value ds : Int) else value ds
      if Int64.minValue.toInt ≤ n ∧ n ≤ Int64.maxValue.toInt then some (n, rest) else none

/-- Whether `m * 10 ^ e` is nearer to infinity than to the largest double. -/
def overflowsDouble (m : Nat) (e : Int) : Bool :=
  let magnitude := (Nat.toDigits 10 m).length + e
  if m = 0 ∨ magnitude < 300 then false
  else if 320 < magnitude then true
  else
    let limit := Nat.pow 2 1024 - Nat.pow 2 970
    match e with
    | .ofNat k => limit ≤ m * Nat.pow 10 k
    | .negSucc k => limit * Nat.pow 10 (k + 1) ≤ m

def fraction? : List Char → Option (List Char × List Char)
  | '.' :: rest => digits? isDigit rest
  | _ => none

def exponent? : List Char → Option (Int × List Char)
  | c :: rest =>
    if c = 'e' ∨ c = 'E' then do
      let (negative, rest) := sign rest
      let (ds, rest) ← digits? isDigit rest
      return (if negative then -(value ds : Int) else value ds, rest)
    else none
  | [] => none

/-- Passes over a floating-point number: `inf`, `nan`, or a decimal with a fraction or an exponent.
Gives what follows, or `none` inside if the number is too large. -/
def float? (cs : List Char) : Option (Option (List Char)) :=
  let (negative, cs) := sign cs
  match cs with
  | 'i' :: 'n' :: 'f' :: rest => some (some rest)
  | 'n' :: 'a' :: 'n' :: rest => some (some rest)
  | _ => do
      let (whole, cs) ← decimalWhole? cs
      let tooLarge (fraction : List Char) (e : Int) : Bool :=
        !negative && overflowsDouble (value (whole ++ fraction)) (e - fraction.length)
      match fraction? cs with
      | some (fraction, rest) =>
        match exponent? rest with
        | some (e, rest) => return if tooLarge fraction e then none else some rest
        | none => return if tooLarge fraction 0 then none else some rest
      | none => do
          let (e, rest) ← exponent? cs
          return if tooLarge [] e then none else some rest

def twoDigits? (low high : Nat) : List Char → Option (Nat × List Char)
  | a :: b :: rest =>
    let n := value [a, b]
    if isDigit a ∧ isDigit b ∧ low ≤ n ∧ n ≤ high then some (n, rest) else none
  | _ => none

def char? (c : Char) : List Char → Option (List Char)
  | x :: rest => if x = c then some rest else none
  | [] => none

def daysInMonth (year month : Nat) : Nat :=
  if month = 2 then
    if year % 4 = 0 ∧ (year % 100 ≠ 0 ∨ year % 400 = 0) then 29 else 28
  else if month = 4 ∨ month = 6 ∨ month = 9 ∨ month = 11 then 30
  else 31

def padded (n : Nat) : List Char :=
  if n < 10 then '0' :: Nat.toDigits 10 n else Nat.toDigits 10 n

def date? : List Char → Option (List Char × List Char)
  | a :: b :: c :: d :: '-' :: rest => do
      if !([a, b, c, d].all isDigit) then none
      let (month, rest) ← twoDigits? 1 12 rest
      let rest ← char? '-' rest
      let (day, rest) ← twoDigits? 1 (daysInMonth (value [a, b, c, d]) month) rest
      return ([a, b, c, d, '-'] ++ padded month ++ ['-'] ++ padded day, rest)
  | _ => none

/-- The decimals of a second: nine of them count, and zeros at the end are not written. -/
def decimals? : List Char → Option (List Char × List Char)
  | '.' :: rest => do
      let ds := rest.takeWhile isDigit
      if ds.isEmpty then none
      let kept := ((ds.take 9).reverse.dropWhile (· = '0')).reverse
      return (if kept.isEmpty then [] else '.' :: kept, rest.dropWhile isDigit)
  | _ => none

/-- A time of day in its normal form. A second that is followed by a dot needs decimals. -/
def time? (cs : List Char) : Option (List Char × List Char) := do
  let (hour, cs) ← twoDigits? 0 23 cs
  let cs ← char? ':' cs
  let (minute, cs) ← twoDigits? 0 59 cs
  let cs ← char? ':' cs
  let (second, cs) ← twoDigits? 0 60 cs
  let (decimals, cs) := (decimals? cs).getD ([], cs)
  return (padded hour ++ [':'] ++ padded minute ++ [':'] ++ padded second ++ decimals, cs)

def offset? : List Char → Option (List Char × List Char)
  | c :: rest =>
    if c = 'Z' ∨ c = 'z' then some (['Z'], rest)
    else if c = '+' ∨ c = '-' then do
      let (hour, rest) ← twoDigits? 0 23 rest
      let rest ← char? ':' rest
      let (minute, rest) ← twoDigits? 0 59 rest
      let sign := if c = '-' ∧ (hour ≠ 0 ∨ minute ≠ 0) then '-' else '+'
      return (sign :: padded hour ++ [':'] ++ padded minute, rest)
    else none
  | [] => none

/-- The time that may follow a date, behind a `T` or a space. -/
def timeAfterDate? : List Char → Option (List Char × List Char)
  | c :: rest =>
    if c = 'T' ∨ c = 't' ∨ c = ' ' then do
      let (time, rest) ← time? rest
      let (offset, rest) := (offset? rest).getD ([], rest)
      return ('T' :: time ++ offset, rest)
    else none
  | [] => none

def dateTime? (cs : List Char) : Option (List Char × List Char) :=
  match date? cs with
  | some (date, rest) =>
    let (time, rest) := (timeAfterDate? rest).getD ([], rest)
    some (date ++ time, rest)
  | none => time? cs

end SessionGateway.Toml
