import DeviceLink.Json.Structure
import DeviceLink.Session.Dispatch
/-!
# The driver of the bench

A driver whose commands say how they are to end. In its full form it implements every callback;
in its basic form writing tags and batches are not supported and debug requests are echoed.
-/
namespace DeviceLink.Bench

structure DemoConfig where
  /-- The kind of error with which the start is refused. -/
  reject : Option String
  delay  : Nat
  panic  : Bool

structure DemoCommand where
  action  : String
  millis  : Nat
  kind    : String
  message : String
  value   : Json

/-- How the stop callback of the full form ends. -/
inductive StopStyle
  | quiet
  | fail
  | panic
deriving DecidableEq

inductive DemoForm
  | basic
  | full (stop : StopStyle)
deriving DecidableEq

namespace DemoConfig

def keys : List String := ["reject", "delay_ms", "panic"]

def read (s : Source) : Option DemoConfig := do
  match ← s.fields keys with
  | [reject, delay, panic] =>
    pure ⟨← Source.optional Source.text reject,
      ← Source.orElse (Source.natBelow (Nat.pow 2 64)) 0 delay, ← Source.orElse Source.flag false panic⟩
  | _ => none

end DemoConfig

namespace DemoCommand

def keys : List String := ["action", "ms", "kind", "message", "value"]

def read (s : Source) : Option DemoCommand := do
  let inner ← Room.text.enter
  match ← s.fields keys with
  | [action, millis, kind, message, value] =>
    pure ⟨← Source.required Source.text action,
      ← Source.orElse (Source.natBelow (Nat.pow 2 64)) 0 millis,
      ← Source.orElse Source.text "" kind, ← Source.orElse Source.text "" message,
      ← Source.orElse (Source.keep inner) .null value⟩
  | _ => none

/-- The addressing of the command and its value. -/
def echo (context : Context) (c : DemoCommand) : Json :=
  .ofMembers [("request", .string context.request), ("serial", .string context.serial),
    ("table", .string context.table), ("device", .orNull .string context.devices.head?),
    ("devices", .array (context.devices.map .string)), ("value", c.value)]

/-- What the command is told to do. -/
def perform (context : Context) (c : DemoCommand) : Callback Json :=
  let failing : Callback Json :=
    match c.action with
    | "fail" => .now (.failed ⟨.ofName c.kind, c.message⟩)
    | "chain" => .now (.failed (.ofChain c.message [c.kind]))
    | "panic" => .now (.panicked (some c.message))
    | "panic_static" => .now (.panicked (some "static panic"))
    | "panic_any" => .now (.panicked none)
    | other => .now (.failed (.unsupported other))
  match c.action with
  | "echo" => .now (.done (c.echo context))
  | "sleep" => ⟨c.millis, .done (c.echo context)⟩
  | _ => failing

end DemoCommand

namespace DemoForm

def start (c : DemoConfig) : Callback Unit :=
  ⟨c.delay,
    if c.panic then .panicked (some "start panicked")
    else
      match c.reject with
      | some kind => .failed ⟨.ofName kind, "start rejected"⟩
      | none => .done ()⟩

def stop : DemoForm → Outcome Unit
  | .full .fail => .failed ⟨.communication, "stop failed"⟩
  | .full .panic => .panicked (some "stop panicked")
  | _ => .done ()

def schema : DemoForm → Outcome String
  | .basic => .done "\x7b\"type\":\"object\"\x7d"
  | .full _ => .failed ⟨.configuration, "no schema"⟩

def writeTag (f : DemoForm) (context : Context) (tag : Json) : Outcome Json :=
  match f, tag with
  | .basic, _ => .failed (.unsupported "writeTag")
  | .full _, .null => .failed ⟨.invalidParameter, "no tag"⟩
  | .full _, tag =>
    .done (.ofMembers [("device", .orNull .string context.devices.head?), ("tag", tag)])

def batchRun (f : DemoForm) (context : Context) (c : DemoCommand) : Callback Json :=
  match f with
  | .basic => .now (.failed (.unsupported "batchRun"))
  | .full _ => c.perform context

def debug (f : DemoForm) (request : Json) : Outcome Json :=
  match f, request with
  | .basic, request => .done request
  | .full _, .string "boom" => .panicked (some "debug panicked")
  | .full _, request => .done (.object [("debug", request)])

def driver (f : DemoForm) : Driver DemoConfig DemoCommand Json where
  readConfig := DemoConfig.read
  readCommand := DemoCommand.read
  readTag := Source.keep Room.text
  start := start
  stop := f.stop
  schema := .now f.schema
  run := fun context c => c.perform context
  writeTag := fun context tag => .now (f.writeTag context tag)
  batchRun := f.batchRun
  debug := fun request => .now (f.debug request)

/-! ## The diary

The driver notes the callbacks that are its own as they begin. -/

def noteCall (f : DemoForm) : Call DemoConfig DemoCommand Json → List String
  | .start _ => ["start"]
  | .schema => ["schema"]
  | .run context _ => ["run:" ++ context.request]
  | .writeTag context _ => if f = .basic then [] else ["writeTag:" ++ context.request]
  | .batchRun context _ => if f = .basic then [] else ["batchRun:" ++ context.request]
  | .debug _ => if f = .basic then [] else ["debug"]

def noteStop (f : DemoForm) : List String := if f = .basic then [] else ["stop"]

end DemoForm
end DeviceLink.Bench
