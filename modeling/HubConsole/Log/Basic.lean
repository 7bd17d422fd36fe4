import HubConsole.Text.Lowercase
import HubConsole.Time.Wire

namespace HubConsole.Log

open HubConsole.Json HubConsole.Time

inductive Level where
  | error
  | warn
  | info
  | debug
  | trace
  deriving DecidableEq

/-- Which records come first. -/
inductive Direction where
  | oldestFirst
  | newestFirst
  deriving DecidableEq

/-- Which records are wanted. A list that is empty asks for nothing in particular. -/
structure Filter where
  nodes : List String
  levels : List Level
  targets : List String
  deriving DecidableEq

/-- The bounds that are in use. -/
structure Range where
  fromTime : Option Instant
  toTime : Option Instant
  deriving DecidableEq

/-- One page of records. -/
structure PageRequest where
  filter : Filter
  search : String
  range : Range
  page : Nat
  perPage : Nat
  direction : Direction
  deriving DecidableEq

/-- A record as the hub words it; its time is not read. -/
structure Record where
  id : String
  node : String
  level : String
  target : String
  timestamp : String
  message : String
  deriving DecidableEq

structure Targets where
  targets : List String
  deriving DecidableEq

structure Page where
  records : List Record
  deriving DecidableEq

namespace Level

def all : List Level := [.error, .warn, .info, .debug, .trace]

def name : Level → String
  | .error => "error"
  | .warn => "warn"
  | .info => "info"
  | .debug => "debug"
  | .trace => "trace"

def ofName? (s : String) : Option Level := all.find? (·.name == s)

/-- Reads a level as people type it, in any case. -/
def parse (s : String) : Except String Level :=
  let word := Text.lowercase (Text.trim s)
  match ofName? word with
  | some l => .ok l
  | none => .error s!"Unknown log level: {word}"

instance : Wire Level := ⟨Reader.name ofName?, fun l => .string l.name⟩

theorem ofName?_name (l : Level) : ofName? l.name = some l := by cases l <;> decide

end Level

namespace Direction

def name : Direction → String
  | .oldestFirst => "ASC"
  | .newestFirst => "DESC"

def ofName? (s : String) : Option Direction :=
  [oldestFirst, newestFirst].find? (·.name == s)

instance : Wire Direction := ⟨Reader.name ofName?, fun d => .string d.name⟩

theorem ofName?_name (d : Direction) : ofName? d.name = some d := by cases d <;> decide

end Direction

namespace Filter

def form : Form Filter :=
  Filter.mk <$> Form.withDefault "nodeNames" Reader.texts []
    <*> Form.withDefault "levels" (Reader.list Wire.read) []
    <*> Form.withDefault "targets" Reader.texts []

def write (f : Filter) : Value :=
  .object [("nodeNames", writeTexts f.nodes), ("levels", writeList Wire.write f.levels),
    ("targets", writeTexts f.targets)]

instance : Wire Filter := ⟨form.read, write⟩

end Filter

namespace Range

def form : Form Range :=
  Range.mk <$> Form.optional "fromTime" Wire.read <*> Form.optional "toTime" Wire.read

def write (r : Range) : Value :=
  .object (writeOptional "fromTime" Wire.write r.fromTime ++
    writeOptional "toTime" Wire.write r.toTime)

instance : Wire Range := ⟨form.read, write⟩

end Range

namespace PageRequest

def form : Form PageRequest :=
  PageRequest.mk <$> Form.required "filter" Wire.read <*> Form.required "search" Reader.text
    <*> Form.required "time" Wire.read <*> Form.required "page" Reader.nat32
    <*> Form.required "itemPerPage" Reader.nat32 <*> Form.required "orderBy" Wire.read

def write (r : PageRequest) : Value :=
  .object [("filter", Wire.write r.filter), ("search", .string r.search),
    ("time", Wire.write r.range), ("page", .ofNat r.page), ("itemPerPage", .ofNat r.perPage),
    ("orderBy", Wire.write r.direction)]

instance : Wire PageRequest := ⟨form.read, write⟩

end PageRequest

namespace Record

/-- An id is a text; a number stands for its own spelling. -/
def readId : Reader String := fun room s =>
  match s.free? room with
  | none => .error .malformed
  | some (.string t) => .ok t
  | some (.number n) => .ok (String.ofList n.write)
  | some _ => .error .idNotTextOrNumber

def form : Form Record :=
  Record.mk <$> Form.required "id" readId <*> Form.required "nodeName" Reader.text
    <*> Form.required "level" Reader.text <*> Form.required "target" Reader.text
    <*> Form.required "timestamp" Reader.text <*> Form.required "message" Reader.text

def write (r : Record) : Value :=
  .object [("id", .string r.id), ("nodeName", .string r.node), ("level", .string r.level),
    ("target", .string r.target), ("timestamp", .string r.timestamp),
    ("message", .string r.message)]

instance : Wire Record := ⟨form.read, write⟩

end Record

namespace Targets

def form : Form Targets := Targets.mk <$> Form.withDefault "targets" Reader.texts []

def write (t : Targets) : Value := .object [("targets", writeTexts t.targets)]

instance : Wire Targets := ⟨form.read, write⟩

end Targets

namespace Page

def form : Form Page := Page.mk <$> Form.withDefault "logs" (Reader.list Wire.read) []

def write (p : Page) : Value := .object [("logs", writeList Wire.write p.records)]

instance : Wire Page := ⟨form.read, write⟩

end Page
end HubConsole.Log
