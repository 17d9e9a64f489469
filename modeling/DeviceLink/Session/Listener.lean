import DeviceLink.Session.Message
/-!
# Serving a stream

Requests are taken one at a time, and each is answered before the next is taken. The end of the
stream is reported; being told to end is not. This is `listen`, with a step for each point where it
waits: for a request, for the handler and for room to write.
-/
namespace DeviceLink

/-- What comes in on a stream. -/
inductive Inbound
  | request (r : Request)
  | failed (e : TransportError)
  | ended
deriving DecidableEq

inductive Listener
  | waiting
  | handling (r : Request)
  | sending (response : Response)
  /-- The stream came to its end, which is reported. -/
  | closed
  | cancelled
deriving DecidableEq

inductive ListenerInput
  | arrived (item : Inbound)
  | handled (payload : Bytes)
  | written
  /-- Nobody takes responses any more. -/
  | unwritten
  | cancelled
deriving DecidableEq

namespace Listener

def step : Listener → ListenerInput → Listener
  | .waiting, .arrived (.request r) => .handling r
  | .waiting, .arrived (.failed _) => .closed
  | .waiting, .arrived .ended => .closed
  | .handling r, .handled payload => .sending ⟨r.id, payload⟩
  | .sending _, .written => .waiting
  | .sending _, .unwritten => .closed
  | .closed, .cancelled => .closed
  | _, .cancelled => .cancelled
  | l, _ => l

end Listener
end DeviceLink
