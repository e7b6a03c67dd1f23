import SessionGateway.Config.Settings
import SessionGateway.Json.Basic

/-!
# Settings from data

Documents of different formats say the same things: integers, texts, lists and tables. `Datum`
keeps those, and `Config.ofDatum` reads settings off one, whatever its format was.
-/

namespace SessionGateway

/-- What a document says, without the traits of its format. -/
inductive Datum where
  | integer (n : Int)
  | text (s : String)
  | list (items : List Datum)
  | table (entries : List (String × Datum))
  /-- A value that no setting can hold. -/
  | other

mutual

/-- What a JSON value says. The entries of a table come in ascending order of their keys, and of
entries with the same key the last one counts. -/
def Datum.ofJson : Json → Datum
  | .string (some s) => .text s
  | .array items => .list (Datum.ofJsonItems items)
  | .object members => .table (Datum.ofJsonMembers members [])
  | .number spelling =>
    match (Json.number spelling).integer? with
    | some n => if -(2 ^ 63) ≤ n ∧ n < 2 ^ 64 then .integer n else .other
    | none => .other
  | _ => .other

def Datum.ofJsonItems : List Json → List Datum
  | [] => []
  | item :: rest => Datum.ofJson item :: Datum.ofJsonItems rest

/-- Adds what the members of an object say to entries that are there already. -/
def Datum.ofJsonMembers : List (Option String × Json) → List (String × Datum) →
    List (String × Datum)
  | [], entries => entries
  | (some name, value) :: rest, entries =>
    Datum.ofJsonMembers rest (insertSorted name (Datum.ofJson value) entries)
  | (none, _) :: rest, entries => Datum.ofJsonMembers rest entries

end

namespace Datum

/-- An integer that fits into 64 bits, with or without a sign, is kept. -/
theorem ofJson_number {spelling : List Char} {n : Int}
    (hinteger : (Json.number spelling).integer? = some n) (hlow : -9223372036854775808 ≤ n)
    (hhigh : n < 18446744073709551616) : ofJson (.number spelling) = .integer n := by
  have hopen : ofJson (.number spelling) = match (Json.number spelling).integer? with
      | some n => if -(2 ^ 63) ≤ n ∧ n < 2 ^ 64 then .integer n else .other
      | none => .other := rfl
  rw [hopen, hinteger]
  exact if_pos (by omega)

inductive Error where
  | shape
  /-- A text should be an interval and is none. -/
  | interval (e : Interval.Error)
  deriving DecidableEq, Repr

def Error.intervalMessage : Error → String
  | .shape => "data did not match any variant of untagged enum Raw"
  | .interval e => e.message

def unsigned (limit : Nat) : Datum → Except Error Nat
  | .integer (.ofNat n) => if n ≤ limit then .ok n else .error .shape
  | _ => .error .shape

def unsigned32 (d : Datum) : Except Error UInt32 :=
  (d.unsigned (UInt32.size - 1)).map UInt32.ofNat

def unsigned64 (d : Datum) : Except Error UInt64 :=
  (d.unsigned (UInt64.size - 1)).map UInt64.ofNat

def string : Datum → Except Error String
  | .text s => .ok s
  | _ => .error .shape

def strings : Datum → Except Error (List String)
  | .list items => items.mapM string
  | _ => .error .shape

def dictionary : Datum → Except Error Dictionary
  | .table entries => do
      let entries ← entries.mapM fun (key, value) => do return (key, ← value.string)
      return Dictionary.ofList entries
  | _ => .error .shape

/-- A number of seconds, or a text with a unit. -/
def interval : Datum → Except Error UInt64
  | .text s =>
    match Interval.parse s with
    | .ok seconds => .ok (UInt64.ofNat seconds)
    | .error e => .error (.interval e)
  | d => d.unsigned64

end Datum

namespace Config

/-- The settings by name, in the order in which they are listed and written. -/
inductive Setting where
  | keepaliveInterval
  | keepaliveMaxRetries
  | keepaliveRequest
  | queueCapacity
  | shellCommand
  | farewell
  | podNameLead
  | subsystems
  deriving DecidableEq, Repr

namespace Setting

def all : List Setting :=
  [.keepaliveInterval, .keepaliveMaxRetries, .keepaliveRequest, .queueCapacity, .shellCommand,
   .farewell, .podNameLead, .subsystems]

def key : Setting → String
  | .keepaliveInterval => "keepalive_interval"
  | .keepaliveMaxRetries => "keepalive_max_retries"
  | .keepaliveRequest => "keepalive_request"
  | .queueCapacity => "terminal_queue_capacity"
  | .shellCommand => "shell_command"
  | .farewell => "farewell_message"
  | .podNameLead => "pod_name_prefix"
  | .subsystems => "subsystems"

def ofKey? (name : String) : Option Setting :=
  all.find? (·.key = name)

end Setting

def set (c : Config) (setting : Setting) (d : Datum) : Except Datum.Error Config :=
  match setting with
  | .keepaliveInterval => d.interval.map fun v => { c with keepaliveInterval := .ofSeconds v }
  | .keepaliveMaxRetries => d.unsigned32.map fun v => { c with keepaliveMaxRetries := v }
  | .keepaliveRequest => d.string.map fun v => { c with keepaliveRequest := v }
  | .queueCapacity => d.unsigned64.map fun v => { c with queueCapacity := v }
  | .shellCommand => d.strings.map fun v => { c with shellCommand := v }
  | .farewell => d.string.map fun v => { c with farewell := v }
  | .podNameLead => d.string.map fun v => { c with podNameLead := v }
  | .subsystems => d.dictionary.map fun v => { c with subsystems := v }

/-- Sets what a table names, entry after entry; entries with other names are passed over. -/
def setEntries (c : Config) (entries : List (String × Datum)) : Except Datum.Error Config :=
  entries.foldlM (fun c (name, d) =>
    match Setting.ofKey? name with
    | some setting => c.set setting d
    | none => .ok c) c

def setItems (c : Config) (items : List Datum) : Except Datum.Error Config := do
  let c ← (Setting.all.zip items).foldlM (fun c (setting, d) => c.set setting d) c
  if items.length ≤ Setting.all.length then return c else throw .shape

def ofDatum : Datum → Except Datum.Error Config
  | .table entries => standard.setEntries entries
  | .list items => standard.setItems items
  | _ => .error .shape

/-- Reads settings from JSON, where `null` means the standard ones. -/
def ofJson : Json → Except Datum.Error Config
  | .null => .ok standard
  | v => ofDatum (.ofJson v)

def toJson (c : Config) : Json :=
  .record
    [("keepalive_interval", .nat c.keepaliveInterval.seconds.toNat),
     ("keepalive_max_retries", .nat c.keepaliveMaxRetries.toNat),
     ("keepalive_request", .text c.keepaliveRequest),
     ("terminal_queue_capacity", .nat c.queueCapacity.toNat),
     ("shell_command", .array (c.shellCommand.map .text)),
     ("farewell_message", .text c.farewell),
     ("pod_name_prefix", .text c.podNameLead),
     ("subsystems", .record (c.subsystems.entries.map fun (key, value) => (key, .text value)))]

end Config

end SessionGateway
