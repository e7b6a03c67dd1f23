import SessionGateway.Toml.Printer
import SessionGateway.Toml.Reader

/-!
# Settings as documents

Settings are kept in TOML documents. `Config.write?` writes all of them, `Config.parse` reads a
document that may leave some out, and checks what it has read.
-/

namespace SessionGateway.Config

/-- What goes wrong with a document of settings, or with the file that holds it. -/
inductive Error where
  | notFound (path : String)
  | invalid (p : Problem)
  | unreadable
  | noDirectory
  | unwritable
  /-- The document is not TOML, or a setting in it has the wrong type. -/
  | malformed
  | malformedInterval (e : Interval.Error)
  | tooLarge
  deriving DecidableEq, Repr

namespace Error

/-- The wording of an error, for those that have one of their own. -/
def message? : Error → Option String
  | .notFound path => some ("Config file not found: " ++ path)
  | .invalid p => some ("Invalid config: " ++ p.message)
  | .unreadable => some "Invalid config: Failed to read config"
  | .noDirectory => some "Invalid config: Failed to create config dir"
  | .unwritable => some "Invalid config: Failed to write config"
  | .malformed => none
  | .malformedInterval e => some e.message
  | .tooLarge => none

def ofDatum : Datum.Error → Error
  | .shape => .malformed
  | .interval e => .malformedInterval e

end Error

def check (c : Config) : Except Error Config :=
  match c.problem? with
  | some p => .error (.invalid p)
  | none => .ok c

def parse (document : String) : Except Error Config := do
  match Toml.parse document with
  | none => throw .malformed
  | some d =>
    match ofDatum d with
    | .error e => throw (Error.ofDatum e)
    | .ok c => c.check

def writeSetting? (c : Config) (setting : Setting) : Option (List Char) :=
  match setting with
  | .keepaliveInterval =>
    (Toml.writeNat? c.keepaliveInterval.seconds.toNat).map (Toml.writePair setting.key)
  | .keepaliveMaxRetries =>
    (Toml.writeNat? c.keepaliveMaxRetries.toNat).map (Toml.writePair setting.key)
  | .keepaliveRequest => some (Toml.writePair setting.key (Toml.writeString c.keepaliveRequest))
  | .queueCapacity => (Toml.writeNat? c.queueCapacity.toNat).map (Toml.writePair setting.key)
  | .shellCommand => some (Toml.writePair setting.key (Toml.writeStrings c.shellCommand))
  | .farewell => some (Toml.writePair setting.key (Toml.writeString c.farewell))
  | .podNameLead => some (Toml.writePair setting.key (Toml.writeString c.podNameLead))
  | .subsystems => some ('\n' :: Toml.writeTable setting.key c.subsystems.entries)

def writeSettings? (c : Config) (settings : List Setting) : Option String :=
  (settings.mapM c.writeSetting?).map fun parts => String.ofList parts.flatten

def write? (c : Config) : Option String :=
  c.writeSettings? Setting.all

end SessionGateway.Config
