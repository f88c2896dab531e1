import Lookout.Json.Error
import Lookout.Snapshot.Format
import Lookout.Url.Error
/-!
# What can be wrong with a configuration

The first thing that is wrong is reported: the file first, then the environment, then what both
together amount to.
-/

namespace Lookout

/-- Why a file could not be read. -/
inductive FileFault where
  /-- There is no such file. -/
  | missing
  /-- It is a directory. -/
  | directory
  /-- Its octets are not UTF-8. -/
  | notText
  /-- The system gave another reason. -/
  | other (reason : String)
  deriving DecidableEq, Repr

/-- The wording of a file's fault. -/
def FileFault.message : FileFault → String
  | .missing => "No such file or directory (os error 2)"
  | .directory => "Is a directory (os error 21)"
  | .notText => "stream did not contain valid UTF-8"
  | .other reason => reason

/-- What is wrong with an address in a configuration. -/
inductive AddressFault where
  /-- It is no address. -/
  | malformed (cause : UrlError)
  /-- Its scheme is not one that is served. -/
  | scheme (name : String)
  deriving DecidableEq, Repr

/-- The wording of an address's fault. -/
def AddressFault.message : AddressFault → String
  | .malformed cause => cause.message
  | .scheme name => s!"unsupported scheme '{name}'"

/-- Why a configuration was refused. -/
inductive ConfigError where
  /-- The file at a path could not be read. -/
  | unreadable (path : String) (cause : FileFault)
  /-- The file at a path does not hold a configuration. -/
  | malformed (path : String) (cause : Json.Error)
  /-- The snapshot format is not known. -/
  | format (cause : EncodingError)
  /-- The environment's poll rate is no number. -/
  | pollRateNotWhole
  /-- The environment's delay after a failed poll is no number. -/
  | backoffNotWhole
  /-- The address in a field cannot be used. -/
  | address (field value : String) (cause : AddressFault)
  /-- The poll rate is zero. -/
  | pollRateZero
  /-- The delay after a failed poll is zero. -/
  | backoffZero
  /-- The camera's frame rate is zero. -/
  | frameRateZero
  /-- A device has no name. -/
  | deviceUnnamed
  /-- Two devices have the same name. -/
  | deviceRepeated (id : String)

/-- The wording of an error. -/
def ConfigError.message : ConfigError → String
  | .unreadable path cause => s!"failed to read config file {path}: {cause.message}"
  | .malformed path cause => s!"invalid config file {path}: {cause.message}"
  | .format cause => s!"camera.format: {cause.message}"
  | .pollRateNotWhole => "MONITOR_POLL_FPS must be an integer frame rate"
  | .backoffNotWhole => "MONITOR_RETRY_BACKOFF_MS must be an integer number of milliseconds"
  | .address field value cause => s!"{field} '{value}': {cause.message}"
  | .pollRateZero => "dashboard fps_target must be greater than zero"
  | .backoffZero => "dashboard retry backoff must be greater than zero"
  | .frameRateZero => "camera target_fps must be greater than zero"
  | .deviceUnnamed => "camera device ids must not be empty"
  | .deviceRepeated id => s!"duplicate camera device id '{id}'"

end Lookout
