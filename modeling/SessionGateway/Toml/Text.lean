import SessionGateway.Text.Basic

/-!
# TOML strings

The four kinds of string and the characters that may stand in them. Every reader takes the
characters behind the opening delimiter and gives the text with what follows the closing one.
-/

namespace SessionGateway.Toml

def isSpace (c : Char) : Bool :=
  c = ' ' || c = '\t'

def skipSpace (cs : List Char) : List Char :=
  cs.dropWhile isSpace

/-- A line break, which is a line feed with or without a carriage return before it. -/
def newline? : List Char → Option (List Char)
  | '\n' :: rest => some rest
  | '\r' :: '\n' :: rest => some rest
  | _ => none

/-- A character that a comment or a string may hold as it is: not a control character, except for
the tab. -/
def isPrintable (c : Char) : Bool :=
  c = '\t' || (0x20 ≤ c.toNat && c.toNat ≠ 0x7F)

/-- The character with a code point, which must not be half of a surrogate pair. -/
def scalar? (n : Nat) : Option Char :=
  if n < 0xD800 ∨ (0xDFFF < n ∧ n < 0x110000) then some (Char.ofNat n) else none

def escape? (c : Char) : Option Char :=
  if c = 'b' then some '\x08'
  else if c = 't' then some '\t'
  else if c = 'n' then some '\n'
  else if c = 'f' then some '\x0c'
  else if c = 'r' then some '\r'
  else if c = '"' then some '"'
  else if c = '\\' then some '\\'
  else none

def push (c : Char) (read : Option (List Char × List Char)) : Option (List Char × List Char) :=
  read.map fun (text, rest) => (c :: text, rest)

def scalarOfHex? (digits : List Char) : Option Char :=
  (Text.Hex.number? digits).bind scalar?

def basicString : List Char → Option (List Char × List Char)
  | [] => none
  | '"' :: rest => some ([], rest)
  | '\\' :: 'u' :: a :: b :: c :: d :: rest =>
    (scalarOfHex? [a, b, c, d]).bind fun x => push x (basicString rest)
  | '\\' :: 'U' :: a :: b :: c :: d :: e :: f :: g :: h :: rest =>
    (scalarOfHex? [a, b, c, d, e, f, g, h]).bind fun x => push x (basicString rest)
  | '\\' :: c :: rest => (escape? c).bind fun x => push x (basicString rest)
  | c :: rest => if isPrintable c then push c (basicString rest) else none

def literalString : List Char → Option (List Char × List Char)
  | [] => none
  | '\'' :: rest => some ([], rest)
  | c :: rest => if isPrintable c then push c (literalString rest) else none

/-- Whether a backslash in front of this text ends a line: nothing but blanks stands before the
line break. -/
def endsLine (cs : List Char) : Bool :=
  (newline? (skipSpace cs)).isSome

/-- The body of a string between three double quotes. One or two quotes may stand anywhere in it,
also right before the closing ones. A backslash at the end of a line joins the lines; while
`joining` is set, blanks and line breaks are passed over. -/
def longBasicBody (joining : Bool) : List Char → Option (List Char × List Char)
  | [] => none
  | '"' :: '"' :: '"' :: '"' :: '"' :: rest => some (['"', '"'], rest)
  | '"' :: '"' :: '"' :: '"' :: rest => some (['"'], rest)
  | '"' :: '"' :: '"' :: rest => some ([], rest)
  | '\\' :: 'u' :: a :: b :: c :: d :: rest =>
    (scalarOfHex? [a, b, c, d]).bind fun x => push x (longBasicBody false rest)
  | '\\' :: 'U' :: a :: b :: c :: d :: e :: f :: g :: h :: rest =>
    (scalarOfHex? [a, b, c, d, e, f, g, h]).bind fun x => push x (longBasicBody false rest)
  | '\r' :: '\n' :: rest =>
    if joining then longBasicBody true rest else push '\n' (longBasicBody false rest)
  | '\\' :: c :: rest =>
    if endsLine (c :: rest) then longBasicBody true (c :: rest)
    else (escape? c).bind fun x => push x (longBasicBody false rest)
  | c :: rest =>
    if joining ∧ (isSpace c ∨ c = '\n') then longBasicBody true rest
    else if c = '\n' then push '\n' (longBasicBody false rest)
    else if isPrintable c then push c (longBasicBody false rest)
    else none

def longLiteralBody : List Char → Option (List Char × List Char)
  | [] => none
  | '\'' :: '\'' :: '\'' :: '\'' :: '\'' :: rest => some (['\'', '\''], rest)
  | '\'' :: '\'' :: '\'' :: '\'' :: rest => some (['\''], rest)
  | '\'' :: '\'' :: '\'' :: rest => some ([], rest)
  | '\r' :: '\n' :: rest => push '\n' (longLiteralBody rest)
  | c :: rest =>
    if c = '\n' ∨ isPrintable c then push c (longLiteralBody rest) else none

/-- A line break right behind the opening quotes does not belong to the text. -/
def skipNewline (cs : List Char) : List Char :=
  (newline? cs).getD cs

def string? : List Char → Option (List Char × List Char)
  | '"' :: '"' :: '"' :: rest => longBasicBody false (skipNewline rest)
  | '"' :: rest => basicString rest
  | '\'' :: '\'' :: '\'' :: rest => longLiteralBody (skipNewline rest)
  | '\'' :: rest => literalString rest
  | _ => none

def isBareKeyChar (c : Char) : Bool :=
  c.isAlphanum || c = '-' || c = '_'

def keyPart? : List Char → Option (List Char × List Char)
  | '"' :: rest => basicString rest
  | '\'' :: rest => literalString rest
  | cs =>
    let word := cs.takeWhile isBareKeyChar
    if word.isEmpty then none else some (word, cs.dropWhile isBareKeyChar)

end SessionGateway.Toml
