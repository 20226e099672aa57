import ActionServer.Script.Process
import ActionServer.Server.Settings

/-!
# The scripts of a server

The loader that the settings of a server describe.
-/

namespace ActionServer.ActionSettings

def milliseconds (seconds : Nat) : Nat := 1000 * seconds

/-- How the settings have scripts run. -/
def process (s : ActionSettings) (files : FileSystem) : ProcessSettings :=
  { interpreter := s.interpreter, extension := s.extension, checkArguments := s.checkArguments
    timeoutMs := milliseconds s.scriptTimeoutSecs, files }

def loader (s : ActionSettings) (files : FileSystem) : Loader :=
  (s.process files).loader

end ActionServer.ActionSettings
