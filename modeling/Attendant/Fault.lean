import Attendant.Duration
import Attendant.Frame.Basic
import Attendant.Message
import Attendant.Shape

/-!
# Faults

What can go wrong between the user and the worker, one type for each part of the library, and the words for it.
-/

namespace Attendant

/-- Why a request has no result. -/
inductive RequestFault where
  | notConnected
  | timeout (method : String) (limit : Duration)
  | remote (error : RpcError)
  | transportClosed
  | encode
  | decode (mismatch : Mismatch)
  deriving DecidableEq, Repr

/-- How a failed request is told to the user. -/
def RequestFault.message : RequestFault → String
  | .notConnected => "language server is not running"
  | .timeout method limit => "request `" ++ method ++ "` timed out after " ++ limit.text
  | .remote e => "language server returned error " ++ toString e.code ++ ": " ++ e.message
  | .transportClosed => "transport to language server closed"
  | .encode => "failed to encode request params: key must be a string"
  | .decode m => "failed to decode response: " ++ m.message

/-- Why a worker did not start. -/
inductive StartFault where
  | configuration (reason : String)
  | alreadyRunning
  | spawn (command : String) (cause : String)
  | handshake (reason : String)
  deriving DecidableEq, Repr

/-- How a failed start is told to the user. -/
def StartFault.message : StartFault → String
  | .configuration reason => "configuration error: " ++ reason
  | .alreadyRunning => "language server is already running"
  | .spawn command cause => "failed to spawn `" ++ command ++ "`: " ++ cause
  | .handshake reason => "language server failed to initialize: " ++ reason

/-- The cause that a failed start has besides its own words. -/
def StartFault.cause? : StartFault → Option String
  | .spawn _ cause => some cause
  | _ => none

/-- Why a log cannot be followed. -/
inductive TailFault where
  | fileNotFound (path : Path)
  | io (path : Path) (fault : IoFault)
  | noStrategy (path : Path)
  deriving DecidableEq, Repr

/-- How a log that cannot be followed is told to the user. -/
def TailFault.message : TailFault → String
  | .fileNotFound path => "log file not found: " ++ path.text
  | .io path fault => "failed to read log file " ++ path.text ++ ": " ++ fault.message
  | .noStrategy path => "no watch strategy could watch " ++ path.text

/-- Why settings could not be loaded. -/
inductive SettingsFault where
  | read (path : Path) (fault : IoFault)
  | parse (path : Path)
  deriving DecidableEq, Repr

/-- How a failed load is told to the user. What is wrong with the text is not told. -/
def SettingsFault.message : SettingsFault → String
  | .read path fault => "failed to read config at " ++ path.text ++ ": " ++ fault.message
  | .parse path => "failed to parse config at " ++ path.text ++ ": "

/-- The file that could not be loaded. -/
def SettingsFault.path : SettingsFault → Path
  | .read path _ => path
  | .parse path => path

end Attendant
