import SessionGateway.Toml.Document
import SessionGateway.Toml.Number

/-!
# Reading TOML

A reader for documents of TOML 1.0. Arrays and inline tables may be nested up to a fixed depth,
and a dotted key may have as many parts.
-/

namespace SessionGateway.Toml

/-- Arrays and inline tables nest less deep than this, and dotted keys have fewer parts. -/
def maxDepth : Nat := 80

def skipComment (cs : List Char) : List Char :=
  cs.dropWhile isPrintable

/-- Passes over blanks, line breaks and comments; `comment` is set inside a comment. -/
def skipBlankFrom (comment : Bool) : List Char → List Char
  | [] => []
  | '\r' :: '\n' :: rest => skipBlankFrom false rest
  | c :: rest =>
    if c = '\n' then skipBlankFrom false rest
    else if comment then
      if isPrintable c then skipBlankFrom true rest else c :: rest
    else if isSpace c then skipBlankFrom false rest
    else if c = '#' then skipBlankFrom true rest
    else c :: rest

def skipBlank (cs : List Char) : List Char :=
  skipBlankFrom false cs

/-- The parts of a key behind a first one, each with the dot in front of it. -/
def moreKeyParts : Nat → List Char → Option (List String × List Char)
  | 0, _ => none
  | n + 1, cs =>
    match skipSpace cs with
    | '.' :: rest => do
        let (part, rest) ← keyPart? (skipSpace rest)
        let (parts, rest) ← moreKeyParts n rest
        return (String.ofList part :: parts, rest)
    | rest => some ([], rest)

def key? (cs : List Char) : Option (List String × List Char) := do
  let (part, rest) ← keyPart? (skipSpace cs)
  let (parts, rest) ← moreKeyParts (maxDepth - 1) rest
  return (String.ofList part :: parts, rest)

def splitKey (parts : List String) : List String × String :=
  (parts.dropLast, parts.getLast?.getD "")

def dateTimeDatum (text : List Char) : Datum :=
  .table [("$__toml_private_datetime", .text (String.ofList text))]

/-- A value that begins with a sign or a digit, or with the name of a special number. -/
def number? (cs : List Char) : Option (Datum × List Char) :=
  match dateTime? cs with
  | some (text, rest) => some (dateTimeDatum text, rest)
  | none =>
    match float? cs with
    | some outcome => outcome.map fun rest => (.other, rest)
    | none => (integer? cs).map fun (n, rest) => (.integer n, rest)

def boolean? : List Char → Option (List Char)
  | 't' :: 'r' :: 'u' :: 'e' :: rest => some rest
  | 'f' :: 'a' :: 'l' :: 's' :: 'e' :: rest => some rest
  | _ => none

mutual

def value? : Nat → Nat → List Char → Option (Datum × List Char)
  | 0, _, _ => none
  | n + 1, depth, cs =>
    match cs with
    | '[' :: rest =>
      if depth + 1 < maxDepth then
        (items? n (depth + 1) (skipBlank rest)).map fun (items, rest) => (.list items, rest)
      else none
    | '\x7b' :: rest =>
      if depth + 1 < maxDepth then do
        match skipSpace rest with
        | '\x7d' :: rest => return (.table [], rest)
        | rest => do
            let (pairs, rest) ← pairs? n (depth + 1) rest
            return (← inlineTable pairs, rest)
      else none
    | _ =>
      match string? cs with
      | some (text, rest) => some (.text (String.ofList text), rest)
      | none =>
        match boolean? cs with
        | some rest => some (.other, rest)
        | none => number? cs

/-- The items of an array up to its closing bracket; a comma may follow the last one. -/
def items? : Nat → Nat → List Char → Option (List Datum × List Char)
  | 0, _, _ => none
  | n + 1, depth, cs =>
    match cs with
    | ']' :: rest => some ([], rest)
    | _ => do
        let (item, rest) ← value? n depth cs
        match skipBlank rest with
        | ']' :: rest => return ([item], rest)
        | ',' :: rest => do
            let (items, rest) ← items? n depth (skipBlank rest)
            return (item :: items, rest)
        | _ => none

/-- The pairs of an inline table that is not empty, up to its closing brace. -/
def pairs? : Nat → Nat → List Char → Option (List Pair × List Char)
  | 0, _, _ => none
  | n + 1, depth, cs => do
      let (pair, rest) ← pair? n depth cs
      match skipSpace rest with
      | '\x7d' :: rest => return ([pair], rest)
      | ',' :: rest => do
          let (pairs, rest) ← pairs? n depth rest
          return (pair :: pairs, rest)
      | _ => none

def pair? : Nat → Nat → List Char → Option (Pair × List Char)
  | 0, _, _ => none
  | n + 1, depth, cs => do
      let (parts, rest) ← key? cs
      let rest ← char? '=' rest
      let (value, rest) ← value? n depth (skipSpace rest)
      let (path, key) := splitKey parts
      return (⟨path, key, value⟩, rest)

end

/-- The end of a line: blanks, perhaps a comment, and a line break or the end of the document. -/
def lineEnd? (cs : List Char) : Option (List Char) :=
  let rest := match skipSpace cs with
    | '#' :: rest => skipComment rest
    | rest => rest
  if rest.isEmpty then some [] else newline? rest

def header? (cs : List Char) : Option (Header × List Char) := do
  let (isElement, cs) := match cs with
    | '[' :: rest => (true, rest)
    | _ => (false, cs)
  let (parts, rest) ← key? cs
  let rest ← char? ']' rest
  let rest ← if isElement then char? ']' rest else some rest
  let rest ← lineEnd? rest
  let (path, key) := splitKey parts
  return (⟨isElement, path, key⟩, rest)

inductive Line where
  | blank
  | pair (p : Pair)
  | header (h : Header)

/-- The first line of a text that is not empty, and what follows it. A pair may take several
lines. -/
def line? (cs : List Char) : Option (Line × List Char) :=
  match skipSpace cs with
  | [] => some (.blank, [])
  | '[' :: rest => (header? rest).map fun (h, rest) => (.header h, rest)
  | c :: rest =>
    if c = '#' ∨ c = '\n' ∨ c = '\r' then (lineEnd? (c :: rest)).map fun rest => (.blank, rest)
    else do
      let (p, rest) ← pair? (4 * cs.length + 4) 0 (c :: rest)
      let rest ← lineEnd? rest
      return (.pair p, rest)

def lines? : Nat → List Char → Option (List Line)
  | _, [] => some []
  | 0, _ => none
  | n + 1, cs => do
      let (line, rest) ← line? cs
      let lines ← lines? n rest
      return line :: lines

def gather : List Line → List Pair × List Section
  | [] => ([], [])
  | .blank :: rest => gather rest
  | .pair p :: rest =>
    let (pairs, sections) := gather rest
    (p :: pairs, sections)
  | .header h :: rest =>
    let (pairs, sections) := gather rest
    ([], ⟨h, pairs⟩ :: sections)

/-- Reads a document; a byte-order mark may stand in front of it. -/
def parse (s : String) : Option Datum := do
  let cs := match s.toList with
    | '\uFEFF' :: rest => rest
    | cs => cs
  let lines ← lines? cs.length cs
  let (pairs, sections) := gather lines
  assemble pairs sections

end SessionGateway.Toml
