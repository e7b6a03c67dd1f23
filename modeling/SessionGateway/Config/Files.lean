import SessionGateway.Config.Document
import SessionGateway.Disk.Basic

/-!
# Files of settings

Where settings are kept, and how they are loaded and saved.
-/

namespace SessionGateway

structure Surroundings where
  disk : Disk
  home : Option String
  /-- The directory for settings that the user has chosen. -/
  configHome : Option String

namespace Surroundings

/-- The directory of the gateway's settings. A chosen directory counts only if its path is absolute;
without any the settings are kept below the working directory. -/
def configDirectory (s : Surroundings) : String :=
  let base := ((s.configHome.filter Disk.isAbsolute).or (s.home.map (Disk.join · ".config"))).getD "."
  Disk.join base "kubegate"

def configPath (s : Surroundings) : String :=
  Disk.join s.configDirectory "gateway.toml"

end Surroundings

namespace Config

def load (d : Disk) (path : String) : Except Error Config :=
  if d.contains path then
    match (d.read? path).bind Wire.text? with
    | some document => parse document
    | none => .error .unreadable
  else .error (.notFound path)

/-- Loads the settings in a file, or the standard ones if there is no file. -/
def loadOrStandard (d : Disk) (path : String) : Except Error Config :=
  match load d path with
  | .error (.notFound _) => .ok standard
  | outcome => outcome

/-- Saves settings in a file and makes its directory. Settings that cannot be written leave the
disk as it is; directories that have been made stay even if the file cannot be written. -/
def save (c : Config) (d : Disk) (path : String) : Except Error Unit × Disk :=
  match c.write? with
  | none => (.error .tooLarge, d)
  | some document =>
    let (made, d) := d.makeParent path
    if made then
      match d.write? path (Wire.textBytes document) with
      | none => (.error .unwritable, d)
      | some d => (.ok (), d)
    else (.error .noDirectory, d)

end Config

end SessionGateway
