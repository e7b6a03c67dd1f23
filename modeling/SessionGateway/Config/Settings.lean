import SessionGateway.Config.Dictionary
import SessionGateway.Config.Interval

/-!
# Settings

What an operator can set, the values that hold where nothing is set, and the check that settings
pass before they are used.
-/

namespace SessionGateway

structure Config where
  /-- The time between two keepalive probes. -/
  keepaliveInterval : Interval
  /-- How many probes in a row may fail. -/
  keepaliveMaxRetries : UInt32
  keepaliveRequest : String
  /-- How many terminal sizes a channel holds for its command. -/
  queueCapacity : UInt64
  shellCommand : List String
  farewell : String
  podNameLead : String
  /-- The executable of each subsystem. -/
  subsystems : Dictionary
  deriving DecidableEq

namespace Config

def standard : Config where
  keepaliveInterval := .ofSeconds 15
  keepaliveMaxRetries := 3
  keepaliveRequest := "keepalive@openssh.com"
  queueCapacity := 10
  shellCommand := ["bash"]
  farewell := "\r\nConnection to your environment closed. Goodbye!\r\n"
  podNameLead := ""
  subsystems := Dictionary.empty.insert "sftp" "/usr/lib/ssh/sftp-server"

inductive Problem where
  | zeroInterval
  | zeroCapacity
  | emptyShellCommand
  | emptySubsystem (name : String)
  deriving DecidableEq, Repr

def Problem.message : Problem → String
  | .zeroInterval => "keepalive_interval must be greater than zero"
  | .zeroCapacity => "terminal_queue_capacity must be greater than zero"
  | .emptyShellCommand => "shell_command is empty"
  | .emptySubsystem name => "subsystem " ++ Text.quoted name ++ " has no executable"

/-- The first problem of settings, if there is one. Of several subsystems without an executable it
names the one with the smallest name. -/
def problem? (c : Config) : Option Problem :=
  if c.keepaliveInterval = .ofSeconds 0 then some .zeroInterval
  else if c.queueCapacity = 0 then some .zeroCapacity
  else if c.shellCommand = [] then some .emptyShellCommand
  else (c.subsystems.entries.find? (·.2 = "")).map fun (name, _) => .emptySubsystem name

def subsystem? (c : Config) (name : String) : Option String :=
  c.subsystems.get? name

end Config

end SessionGateway
