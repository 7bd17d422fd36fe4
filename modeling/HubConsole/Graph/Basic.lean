import HubConsole.Text.Lowercase
import HubConsole.Time.Wire

namespace HubConsole.Graph

open HubConsole.Json HubConsole.Time

/-- How much time one point of a graph stands for. -/
inductive Period where
  | minutes5
  | hour
  | day
  deriving DecidableEq

structure Query where
  fromTime : Instant
  toTime : Instant
  period : Period
  deriving DecidableEq

/-- Traffic out of one node. -/
structure NodeRow where
  node : String
  time : Instant
  value : Double

/-- Traffic out of one node for one of its extensions. -/
structure ExtensionRow where
  extension : String
  time : Instant
  value : Double

structure Rows (α : Type) where
  rows : List α

namespace Period

def name : Period → String
  | .minutes5 => "minutes5"
  | .hour => "hour"
  | .day => "day"

def ofName? (s : String) : Option Period := [minutes5, hour, day].find? (·.name == s)

/-- Reads a period as people type it, in any case and also in short. -/
def parse (s : String) : Except String Period :=
  let word := Text.lowercase (Text.trim s)
  if word = "minutes5" ∨ word = "5m" then .ok .minutes5
  else if word = "hour" ∨ word = "1h" then .ok .hour
  else if word = "day" ∨ word = "1d" then .ok .day
  else .error s!"Unknown graph period: {word}"

instance : Wire Period := ⟨Reader.name ofName?, fun p => .string p.name⟩

theorem ofName?_name (p : Period) : ofName? p.name = some p := by cases p <;> decide

end Period

namespace Query

def form : Form Query :=
  Query.mk <$> Form.required "from" Wire.read <*> Form.required "to" Wire.read
    <*> Form.required "period" Wire.read

def write (q : Query) : Value :=
  .object [("from", Wire.write q.fromTime), ("to", Wire.write q.toTime),
    ("period", Wire.write q.period)]

instance : Wire Query := ⟨form.read, write⟩

end Query

namespace NodeRow

def form : Form NodeRow :=
  NodeRow.mk <$> Form.required "nodeName" Reader.text <*> Form.required "time" Wire.read
    <*> Form.required "value" Reader.double

def write (r : NodeRow) : Value :=
  .object [("nodeName", .string r.node), ("time", Wire.write r.time),
    ("value", writeDouble r.value)]

instance : Wire NodeRow := ⟨form.read, write⟩

end NodeRow

namespace ExtensionRow

def form : Form ExtensionRow :=
  ExtensionRow.mk <$> Form.required "extension" Reader.text <*> Form.required "time" Wire.read
    <*> Form.required "value" Reader.double

def write (r : ExtensionRow) : Value :=
  .object [("extension", .string r.extension), ("time", Wire.write r.time),
    ("value", writeDouble r.value)]

instance : Wire ExtensionRow := ⟨form.read, write⟩

end ExtensionRow

namespace Rows

variable {α : Type} [Wire α]

def form : Form (Rows α) := Rows.mk <$> Form.withDefault "rows" (Reader.list Wire.read) []

def write (r : Rows α) : Value := .object [("rows", writeList Wire.write r.rows)]

instance : Wire (Rows α) := ⟨form.read, write⟩

end Rows
end HubConsole.Graph
