import PluginRecovery.Settings.Basic
import PluginRecovery.Url.Basic

/-!
What can go wrong beyond a script that tells nothing: with settings, files, fetched pages,
addresses, texts in JSON, and a script without code.
-/

set_option autoImplicit false
set_option relaxedAutoImplicit false

namespace PluginRecovery

/-- Why the program cannot do what it was asked for. -/
inductive Failure
  | settings (error : SettingsError)
  | files (reason : String)
  /-- `passing` when it may work another time. -/
  | network (reason : String) (passing : Bool)
  | httpStatus (status : Nat) (url : String)
  | address (error : UrlError)
  | json (reason : String)
  | emptySource (origin : String)
  deriving DecidableEq, Repr

namespace Failure

def kind : Failure → String
  | settings _ => "ConfigError"
  | files _ => "IoError"
  | network _ _ => "NetworkError"
  | httpStatus _ _ => "HttpStatusError"
  | address _ => "InvalidUrl"
  | json _ => "SerializationError"
  | emptySource _ => "EmptySource"

def message : Failure → String
  | settings error => "Configuration error: " ++ error.message
  | files reason => "IO error: " ++ reason
  | network reason _ => "Network error: " ++ reason
  | httpStatus status url => "HTTP " ++ toString status ++ " from " ++ url
  | address error => "Invalid URL: " ++ error.message
  | json reason => "Serialization error: " ++ reason
  | emptySource origin => "Plugin source is empty: " ++ origin

/-- Whether trying again may help: a server that is overburdened or fails may recover. -/
def isRetryable : Failure → Bool
  | network _ passing => passing
  | httpStatus status _ => status == 429 || 500 ≤ status
  | _ => false

end Failure

end PluginRecovery
