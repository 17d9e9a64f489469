import DeviceLink.Pipeline.Basic
import DeviceLink.Session.Actor
import DeviceLink.Session.Dispatch
import DeviceLink.Settings.Basic
import DeviceLink.Wire.Endpoint
/-!
# The host of a driver

From settings to a host that has not been started: nothing is reached for before the start.

| here | in the SDK |
| --- | --- |
| `Host` | `DriverSdk`, with all that it is made of |
| `Host.ofSettings` | `connect`, which validates and sets up the transport |
| `checkEndpoint` | `connect_lazy` of `GrpcTransport`, as far as it can fail |
| `Builder` | `DriverSdkBuilder`, with `settings`, `stage` and `build` |
-/
namespace DeviceLink

structure Host where
  endpoint : String
  identity : Identity
  settings : SessionSettings
  actor    : Actor
  store    : Store
  pipeline : Pipeline

namespace Host

def endpointRefusal : String := "not of the form of an endpoint"

def checkEndpoint (endpoint : String) : Except LinkError Unit :=
  if Endpoint.isValid endpoint then .ok ()
  else .error (.transportSetup (.invalidEndpoint endpoint endpointRefusal))

/-- Settings that make sense and name an endpoint are enough. -/
def ofSettings (s : Settings) : Except LinkError Host := do
  s.validate
  checkEndpoint s.platform.endpoint
  pure ⟨s.platform.endpoint, s.identity, s.session, Actor.initial, Store.empty, Pipeline.standard⟩

/-! ## Hosts of one's own making -/

/-- What a host is put together from, besides the platform that it is to reach. -/
structure Builder where
  identity : Identity
  settings : SessionSettings
  /-- Stages from outside and their priorities, in the order in which they were added. -/
  stages   : List (ExternalStage × Int)

namespace Builder

def ofIdentity (identity : Identity) : Builder := ⟨identity, .standard, []⟩

def withSettings (b : Builder) (settings : SessionSettings) : Builder :=
  { b with settings := settings }

def addStage (b : Builder) (s : ExternalStage) (priority : Int) : Builder :=
  { b with stages := b.stages ++ [(s, priority)] }

/-- The stages from outside come to those that every pipeline has. -/
def pipeline (b : Builder) : Pipeline :=
  b.stages.foldl (fun p s => p.withStage s.1 s.2) .standard

def build (b : Builder) (endpoint : String) : Host :=
  ⟨endpoint, b.identity, b.settings, Actor.initial, Store.empty, b.pipeline⟩

end Builder
end Host
end DeviceLink
