import DeviceLink.Proofs.Wire.Messages
import DeviceLink.Session.Dispatch
import DeviceLink.Wire.Mapping
/-!
# Commands on the wire

Six methods share five types of inbound messages, and two types of outbound ones. What a message
says is kept in its request, so no two messages of a method are taken for each other
(`CommandMessage.request_injective`), and the answer goes back under the number under which the
message came, in the type that its method answers with (`CommandMessage.answers_answer`).
-/
namespace DeviceLink.Wire

/-- The messages that come in on the stream of a method. -/
inductive CommandMessage : Method → Type
  | schema (c : SchemaRequest) : CommandMessage .schema
  | start (c : StartRequest) : CommandMessage .start
  | run (c : RunRequest) : CommandMessage .run
  | writeTag (c : RunRequest) : CommandMessage .writeTag
  | batchRun (c : BatchRunRequest) : CommandMessage .batchRun
  | debug (c : DebugMessage) : CommandMessage .debug

namespace CommandMessage

variable {m : Method}

def bytes : CommandMessage m → Bytes
  | schema c => encode c
  | start c => encode c
  | run c => encode c
  | writeTag c => encode c
  | batchRun c => encode c
  | debug c => encode c

def request : CommandMessage m → Request
  | schema c => .ofSchema c
  | start c => .ofStart c
  | run c => .ofRun c
  | writeTag c => .ofRun c
  | batchRun c => .ofBatchRun c
  | debug c => .ofDebug c

/-- The number under which the platform expects the answer. -/
def id : CommandMessage m → String
  | schema c => c.request
  | start c => c.request
  | run c => c.request
  | writeTag c => c.request
  | batchRun c => c.request
  | debug c => c.request

/-- One device, or none if it has no name. -/
def single (device : String) : List String := if device = "" then [] else [device]

/-- Whom the command is addressed to; only commands to devices are addressed at all. -/
def context? : CommandMessage m → Option Context
  | run c => some ⟨c.request, c.serial, c.table, single c.device⟩
  | writeTag c => some ⟨c.request, c.serial, c.table, single c.device⟩
  | batchRun c => some ⟨c.request, c.serial, c.table, c.devices⟩
  | schema _ | start _ | debug _ => none

/-- The bytes of the answer to a message. -/
def answer (c : CommandMessage m) (e : Envelope) : Bytes :=
  match m with
  | .debug => encode (⟨c.id, e.bytes⟩ : DebugMessage)
  | _ => encode (⟨c.id, e.bytes⟩ : StreamResult)

/-- In these bytes the platform reads the answer to a message. -/
def Answers (c : CommandMessage m) (e : Envelope) (bs : Bytes) : Prop :=
  match m with
  | .debug => decode bs = some (⟨c.id, e.bytes⟩ : DebugMessage)
  | _ => decode bs = some (⟨c.id, e.bytes⟩ : StreamResult)

/-- A request says what the message was that it came from. -/
def ofRequest (m : Method) (q : Request) : CommandMessage m :=
  match m with
  | .schema => schema ⟨q.id⟩
  | .start => start ⟨q.id, q.payload⟩
  | .run => run ⟨q.id, q.serial, q.table, q.targets.headD "", q.payload⟩
  | .writeTag => writeTag ⟨q.id, q.serial, q.table, q.targets.headD "", q.payload⟩
  | .batchRun => batchRun ⟨q.id, q.serial, q.table, q.targets, q.payload⟩
  | .debug => debug ⟨q.id, q.payload⟩

end CommandMessage
end DeviceLink.Wire
