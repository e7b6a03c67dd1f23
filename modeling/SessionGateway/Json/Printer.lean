import SessionGateway.Json.Basic
import SessionGateway.Text.Basic

/-!
# Writing JSON

A compact form without white space. Only what the grammar demands is escaped.
-/

namespace SessionGateway.Json

def escapeChar (c : Char) : List Char :=
  if c = '"' then ['\\', '"']
  else if c = '\\' then ['\\', '\\']
  else if c = '\n' then ['\\', 'n']
  else if c.toNat < 0x20 then
    ['\\', 'u', '0', '0', Text.Hex.digit (c.toNat / 16), Text.Hex.digit (c.toNat % 16)]
  else [c]

/-- A string between quotes; one that names no text is written empty. -/
def printString (s : Option String) : List Char :=
  ['"'] ++ (s.getD "").toList.flatMap escapeChar ++ ['"']

mutual

def printValue : Json → List Char
  | .null => ['n', 'u', 'l', 'l']
  | .bool true => ['t', 'r', 'u', 'e']
  | .bool false => ['f', 'a', 'l', 's', 'e']
  | .number spelling => spelling
  | .string s => printString s
  | .array items => ['['] ++ printItems items ++ [']']
  | .object members => ['\x7b'] ++ printMembers members ++ ['\x7d']

def printItems : List Json → List Char
  | [] => []
  | [item] => printValue item
  | item :: rest => printValue item ++ [','] ++ printItems rest

def printMembers : List (Option String × Json) → List Char
  | [] => []
  | [(name, value)] => printString name ++ [':'] ++ printValue value
  | (name, value) :: rest =>
    printString name ++ [':'] ++ printValue value ++ [','] ++ printMembers rest

end

def print (v : Json) : String :=
  String.ofList (printValue v)

end SessionGateway.Json
