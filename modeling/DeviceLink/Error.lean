import DeviceLink.Cache
import DeviceLink.Session.Message
import DeviceLink.Session.State
/-!
# Errors

The failures that callers see. What concerns a single field, command or connection is dealt with
where it happens and is none of these. They are those of `SdkError`.
-/
namespace DeviceLink

inductive LinkError
  /-- The settings could not be read. -/
  | settings
  /-- The settings were read, but make no sense. -/
  | configuration (reason : String)
  /-- The device document could not be read. -/
  | document
  | invalidArgument (reason : String)
  | notRunning (state : SessionState)
  | cache (error : CacheError)
  | transportSetup (error : TransportError)
  | sessionTerminated
deriving DecidableEq

/-- The wording; `none` where a reader of documents or settings words the failure. -/
def LinkError.message? : LinkError → Option String
  | .settings => none
  | .configuration reason => some ("Configuration validation error: " ++ reason)
  | .document => none
  | .invalidArgument reason => some ("Invalid argument: " ++ reason)
  | .notRunning state => some ("Session is not running (state: " ++ state.name ++ ")")
  | .cache e => some e.message
  | .transportSetup e => some ("Transport setup failed: " ++ e.message)
  | .sessionTerminated => some "Session manager is no longer running"

end DeviceLink
