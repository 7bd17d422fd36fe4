import HubConsole.Rpc.Error
import HubConsole.Rpc.Id
import HubConsole.Rpc.Topic

namespace HubConsole.Rpc

open HubConsole.Json

structure Request where
  version : String
  method : String
  params : Value
  id : Id

/-- How a call ended at the hub. -/
abbrev Outcome := Except ErrorObject Value

inductive Frame where
  | response (id : Id) (outcome : Outcome)
  | notification (topic : String) (params : Value)

inductive FrameError where
  | oversized (size max : Nat)
  | decode (fault : Fault)
  | unrecognized
  deriving DecidableEq

/-- The greatest frame, in bytes, unless settings say otherwise. -/
def defaultMaxBytes : Nat := 67108864

namespace FrameError

/-- The text of a fault in a document is not this library's to word. -/
def message : FrameError → String
  | .oversized size max =>
    s!"frame exceeds max size: {Text.natText size} > {Text.natText max}"
  | .decode _ => "frame decode failed: <json>"
  | .unrecognized => "frame is neither a response nor a notification"

end FrameError

namespace Request

def form : Form Request :=
  Request.mk <$> Form.required "jsonrpc" Reader.text <*> Form.required "method" Reader.text
    <*> Form.required "params" Reader.free <*> Form.required "id" Wire.read

def write (r : Request) : Value :=
  .object [("jsonrpc", .string r.version), ("method", .string r.method), ("params", r.params),
    ("id", Wire.write r.id)]

instance : Wire Request := ⟨form.read, write⟩

/-- A call with a number as its id. -/
def call (id : Nat) (method : String) (params : Value) : Request := ⟨"2.0", method, params, .number id⟩

/-- The request to be sent the pushes of some topics. -/
def subscribe (id : Nat) (topics : List Topic) : Request :=
  call id "rpc.on" (.array (topics.map fun t => .string t.name))

/-- The text to send, unless it is too long. -/
def encode (r : Request) (max : Nat) : Except FrameError String :=
  let text := Wire.toText r
  if text.utf8ByteSize ≤ max then .ok text else .error (.oversized text.utf8ByteSize max)

end Request

/-- The members of a frame before it is known what the frame is. -/
structure Envelope where
  id : Option Id
  result : Option Value
  error : Option ErrorObject
  method : Option String
  notification : Option String
  params : Option Value

namespace Envelope

def form : Form Envelope :=
  Envelope.mk <$> Form.optional "id" Wire.read <*> Form.present "result" Reader.free
    <*> Form.optional "error" Wire.read <*> Form.optional "method" Reader.text
    <*> Form.optional "notification" Reader.text <*> Form.optional "params" Reader.free

/-- An id makes a response, if there is an error or a result; otherwise a topic makes a notification. -/
def classify (e : Envelope) : Except FrameError Frame :=
  match e.id, e.error, e.result with
  | some id, some error, _ => .ok (.response id (.error error))
  | some id, none, some result => .ok (.response id (.ok result))
  | _, _, _ =>
    match e.method, e.notification with
    | some topic, _ | none, some topic => .ok (.notification topic (e.params.getD .null))
    | none, none => .error .unrecognized

end Envelope

namespace Frame

/-- The text without the line ends at its end. -/
def trimLineEnds (s : String) : String :=
  String.ofList (Text.dropEnd (fun c => c = '\r' || c = '\n') s.toList)

def decode (text : String) (max : Nat) : Except FrameError Frame :=
  let raw := trimLineEnds text
  if raw.utf8ByteSize ≤ max then
    match Envelope.form.read.ofText raw with
    | .error e => .error (.decode e)
    | .ok envelope => envelope.classify
  else .error (.oversized raw.utf8ByteSize max)

/-- The id of a frame that could not be decoded, as far as it can be told. -/
def recoverId? (text : String) : Option Id :=
  match Reader.free.ofText text with
  | .error _ => none
  | .ok document =>
    match document.get? "id" with
    | none => none
    | some id => (Id.read.ofValue id).toOption

end Frame
end HubConsole.Rpc
