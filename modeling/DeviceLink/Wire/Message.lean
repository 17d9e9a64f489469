import DeviceLink.Wire.Field
/-!
# Messages on the wire

The messages of the link and their fields. A field at its default is not written; of a field that
comes twice the last one counts, and repeated fields add up; unknown fields are passed over, and a
known field must have the payload that it declares. The messages are those of `driver-proto`, with
its numbers and types.
-/
namespace DeviceLink.Wire

/-- A type of messages: the one without fields, the fields of a message, and how a field goes into
one. -/
class Message (α : Type) where
  empty  : α
  fields : α → List Field
  merge  : α → Field → Option α

def encode {α : Type} [Message α] (m : α) : Bytes := (Message.fields m).flatMap Field.encode

/-- Reads a message within which fields may nest `room` deep. -/
def decodeWithin {α : Type} [Message α] (room : Nat) (bs : Bytes) : Option α :=
  (fields? room bs).bind fun fs => fs.foldlM Message.merge Message.empty

/-- So deep may fields nest in a message. -/
def messageRoom : Nat := 100

def decode {α : Type} [Message α] (bs : Bytes) : Option α := decodeWithin messageRoom bs

/-! ## Fields of messages -/

def textField (number : Nat) (s : String) : List Field :=
  if s = "" then [] else [⟨number, .bytes (Utf8.encode s)⟩]

def dataField (number : Nat) (data : Bytes) : List Field :=
  if data = [] then [] else [⟨number, .bytes data⟩]

def flagField (number : Nat) (b : Bool) : List Field := if b then [⟨number, .varint 1⟩] else []

/-- An integer is written as the 64-bit word of its sign-extended value. -/
def intField (number : Nat) (n : Int32) : List Field :=
  if n = 0 then [] else [⟨number, .varint (n.toInt % (Nat.pow 2 64 : Int)).toNat⟩]

def Payload.data? : Payload → Option Bytes
  | .bytes data => some data
  | _ => none

def Payload.text? (p : Payload) : Option String := p.data?.bind Utf8.decode

def Payload.flag? : Payload → Option Bool
  | .varint n => some (n != 0)
  | _ => none

/-- The low half of the word counts. -/
def Payload.int? : Payload → Option Int32
  | .varint n => some (Int32.ofNat n)
  | _ => none

def Payload.message? {α : Type} [Message α] (p : Payload) : Option α :=
  p.data?.bind (decodeWithin (messageRoom - 1))

/-! ## Health -/

structure HealthCheckRequest where
  service : String
deriving DecidableEq, Repr

instance : Message HealthCheckRequest where
  empty := ⟨""⟩
  fields m := textField 1 m.service
  merge m f :=
    match f.number with
    | 1 => f.payload.text?.map fun s => { m with service := s }
    | _ => some m

structure Fault where
  code    : Int32
  message : String
deriving DecidableEq

instance : Message Fault where
  empty := ⟨0, ""⟩
  fields m := intField 1 m.code ++ textField 2 m.message
  merge m f :=
    match f.number with
    | 1 => f.payload.int?.map fun n => { m with code := n }
    | 2 => f.payload.text?.map fun s => { m with message := s }
    | _ => some m

structure HealthCheckResponse where
  /-- A number that need not be one of the known states. -/
  status : Int32
  errors : List Fault
deriving DecidableEq

instance : Message HealthCheckResponse where
  empty := ⟨0, []⟩
  fields m := intField 1 m.status ++ m.errors.map fun e => ⟨2, .bytes (encode e)⟩
  merge m f :=
    match f.number with
    | 1 => f.payload.int?.map fun n => { m with status := n }
    | 2 => f.payload.message?.map fun e => { m with errors := m.errors ++ [e] }
    | _ => some m

/-! ## Unary calls -/

structure UnaryRequest where
  project : String
  data    : Bytes
deriving DecidableEq, Repr

instance : Message UnaryRequest where
  empty := ⟨"", []⟩
  fields m := textField 1 m.project ++ dataField 2 m.data
  merge m f :=
    match f.number with
    | 1 => f.payload.text?.map fun s => { m with project := s }
    | 2 => f.payload.data?.map fun d => { m with data := d }
    | _ => some m

structure UnaryResponse where
  status : Bool
  info   : String
  detail : String
  result : Bytes
deriving DecidableEq, Repr

instance : Message UnaryResponse where
  empty := ⟨false, "", "", []⟩
  fields m :=
    flagField 1 m.status ++ textField 2 m.info ++ textField 3 m.detail ++ dataField 4 m.result
  merge m f :=
    match f.number with
    | 1 => f.payload.flag?.map fun b => { m with status := b }
    | 2 => f.payload.text?.map fun s => { m with info := s }
    | 3 => f.payload.text?.map fun s => { m with detail := s }
    | 4 => f.payload.data?.map fun d => { m with result := d }
    | _ => some m

structure TableData where
  project : String
  table   : String
  row     : String
  data    : Bytes
deriving DecidableEq, Repr

instance : Message TableData where
  empty := ⟨"", "", "", []⟩
  fields m :=
    textField 1 m.project ++ textField 2 m.table ++ textField 3 m.row ++ dataField 4 m.data
  merge m f :=
    match f.number with
    | 1 => f.payload.text?.map fun s => { m with project := s }
    | 2 => f.payload.text?.map fun s => { m with table := s }
    | 3 => f.payload.text?.map fun s => { m with row := s }
    | 4 => f.payload.data?.map fun d => { m with data := d }
    | _ => some m

/-! ## Command streams -/

structure SchemaRequest where
  request : String
deriving DecidableEq, Repr

instance : Message SchemaRequest where
  empty := ⟨""⟩
  fields m := textField 1 m.request
  merge m f :=
    match f.number with
    | 1 => f.payload.text?.map fun s => { m with request := s }
    | _ => some m

structure StartRequest where
  request : String
  data    : Bytes
deriving DecidableEq, Repr

instance : Message StartRequest where
  empty := ⟨"", []⟩
  fields m := textField 1 m.request ++ dataField 2 m.data
  merge m f :=
    match f.number with
    | 1 => f.payload.text?.map fun s => { m with request := s }
    | 2 => f.payload.data?.map fun d => { m with data := d }
    | _ => some m

structure RunRequest where
  request : String
  serial  : String
  table   : String
  device  : String
  command : Bytes
deriving DecidableEq, Repr

instance : Message RunRequest where
  empty := ⟨"", "", "", "", []⟩
  fields m :=
    textField 1 m.request ++ textField 2 m.serial ++ textField 3 m.table ++
      textField 4 m.device ++ dataField 5 m.command
  merge m f :=
    match f.number with
    | 1 => f.payload.text?.map fun s => { m with request := s }
    | 2 => f.payload.text?.map fun s => { m with serial := s }
    | 3 => f.payload.text?.map fun s => { m with table := s }
    | 4 => f.payload.text?.map fun s => { m with device := s }
    | 5 => f.payload.data?.map fun d => { m with command := d }
    | _ => some m

structure BatchRunRequest where
  request : String
  serial  : String
  table   : String
  devices : List String
  command : Bytes
deriving DecidableEq, Repr

instance : Message BatchRunRequest where
  empty := ⟨"", "", "", [], []⟩
  fields m :=
    textField 1 m.request ++ textField 2 m.serial ++ textField 3 m.table ++
      m.devices.map (fun s => ⟨4, .bytes (Utf8.encode s)⟩) ++ dataField 5 m.command
  merge m f :=
    match f.number with
    | 1 => f.payload.text?.map fun s => { m with request := s }
    | 2 => f.payload.text?.map fun s => { m with serial := s }
    | 3 => f.payload.text?.map fun s => { m with table := s }
    | 4 => f.payload.text?.map fun s => { m with devices := m.devices ++ [s] }
    | 5 => f.payload.data?.map fun d => { m with command := d }
    | _ => some m

structure DebugMessage where
  request : String
  data    : Bytes
deriving DecidableEq, Repr

instance : Message DebugMessage where
  empty := ⟨"", []⟩
  fields m := textField 1 m.request ++ dataField 2 m.data
  merge m f :=
    match f.number with
    | 1 => f.payload.text?.map fun s => { m with request := s }
    | 2 => f.payload.data?.map fun d => { m with data := d }
    | _ => some m

structure StreamResult where
  request : String
  data    : Bytes
deriving DecidableEq, Repr

instance : Message StreamResult where
  empty := ⟨"", []⟩
  fields m := textField 1 m.request ++ dataField 2 m.data
  merge m f :=
    match f.number with
    | 1 => f.payload.text?.map fun s => { m with request := s }
    | 2 => f.payload.data?.map fun d => { m with data := d }
    | _ => some m

end DeviceLink.Wire
