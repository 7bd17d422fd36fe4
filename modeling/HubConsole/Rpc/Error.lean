import HubConsole.Json.Record

namespace HubConsole.Rpc

open HubConsole.Json

structure ErrorObject where
  code : Int
  message : String
  data : Option Value

/-- Errors that are told to the user at once, whatever the call. -/
inductive CommonError where
  | nodeNotRunning
  | agentNotFound
  | internal
  deriving DecidableEq

/-- Codes of errors that only the start of a node can meet. -/
def alreadyRunningCode : Int := -10001

def envParseCode : Int := -10002

def updatingCode : Int := -10003

namespace CommonError

def code : CommonError → Int
  | .nodeNotRunning => 0
  | .agentNotFound => -1
  | .internal => -32603

def ofCode? (code : Int) : Option CommonError :=
  if code = 0 then some .nodeNotRunning
  else if code = -1 then some .agentNotFound
  else if code = -32603 then some .internal
  else none

theorem ofCode?_eq_some_iff (c : Int) (e : CommonError) : ofCode? c = some e ↔ c = e.code := by
  unfold ofCode?
  cases e <;> simp only [code] <;> grind

end CommonError

namespace ErrorObject

/-- The error as one line of text. -/
def line (e : ErrorObject) : String := s!"rpc error {Text.intText e.code}: {e.message}"

def form : Form ErrorObject :=
  ErrorObject.mk <$> Form.required "code" Reader.int64 <*> Form.withDefault "message" Reader.text ""
    <*> Form.optional "data" Reader.free

def write (e : ErrorObject) : Value :=
  .object ([("code", .ofInt e.code), ("message", .string e.message)] ++
    writeOptional "data" id e.data)

instance : Wire ErrorObject := ⟨form.read, write⟩

end ErrorObject
end HubConsole.Rpc
