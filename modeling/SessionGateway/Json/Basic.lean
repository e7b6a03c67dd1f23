import SessionGateway.Text.Basic

/-!
# JSON values

A JSON document as it is written: the members of an object keep their order and may repeat a
name, and a number keeps its spelling, so that every 64-bit integer stays exact.
-/

namespace SessionGateway

inductive Json where
  | null
  | bool (b : Bool)
  | number (spelling : List Char)
  /-- A string; `none` where its escapes name half of a surrogate pair and hence no text. -/
  | string (s : Option String)
  | array (items : List Json)
  | object (members : List (Option String × Json))

namespace Json

def text (s : String) : Json :=
  .string (some s)

def nat (n : Nat) : Json :=
  .number (Nat.toDigits 10 n)

def record (members : List (String × Json)) : Json :=
  .object (members.map fun (name, value) => (some name, value))

def ofOption {α : Type} (f : α → Json) : Option α → Json
  | some a => f a
  | none => .null

/-- The integer that a number denotes. A number with a fraction or an exponent is none, and
neither is a negative zero. -/
def integer? : Json → Option Int
  | .number ('-' :: digits) =>
    (Text.Decimal.natural? digits).bind fun n => if n = 0 then none else some (-(n : Int))
  | .number digits => (Text.Decimal.natural? digits).map Int.ofNat
  | _ => none

def unsigned? (limit : Nat) (v : Json) : Option Nat :=
  match v.integer? with
  | some (.ofNat n) => if n ≤ limit then some n else none
  | _ => none

def text? : Json → Option String
  | .string s => s
  | _ => none

def member? (v : Json) (name : String) : Option Json :=
  match v with
  | .object members => members.lookup (some name)
  | _ => none

/-! ## Records

A record with named fields is stored as an object or as an array of its fields in order. In an
object the fields may come in any order and among other members, but each just once.
-/

/-- The value of the one member with this name. -/
def uniqueMember? (members : List (Option String × Json)) (name : String) : Option Json :=
  match members.filter (·.1 = some name) with
  | [(_, value)] => some value
  | _ => none

/-- The fields of a record, in the order of their names. Every name of an object must be a
text. -/
def recordFields? (names : List String) : Json → Option (List Json)
  | .object members =>
    if members.all (·.1.isSome) then names.mapM (uniqueMember? members) else none
  | .array items => if items.length = names.length then some items else none
  | _ => none

def caseName? : Json → Option String
  | .string s => s
  | .object [(name, .null)] => name
  | _ => none

end Json

end SessionGateway
