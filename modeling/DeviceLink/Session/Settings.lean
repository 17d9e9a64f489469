import DeviceLink.Time.Span
/-!
# Settings of a session

`SessionSettings` of the configuration, with the defaults of its fields.
-/
namespace DeviceLink

structure SessionSettings where
  /-- The pause after a failed attempt to open the streams. -/
  retry         : Span
  /-- From one health check to the next. -/
  keepalive     : Span
  /-- How long a health check may take. -/
  healthTimeout : Span
  /-- How many messages a stream holds. -/
  streamBuffer  : Nat
deriving DecidableEq, Repr

def SessionSettings.standard : SessionSettings := ⟨.ofSeconds 5, .ofSeconds 10, .ofSeconds 5, 64⟩

end DeviceLink
