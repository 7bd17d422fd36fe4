import HubConsole.Json.Source
import HubConsole.Json.Token

namespace HubConsole.Json

/-- A bracket that is open, with what stands in it so far, in reverse. -/
inductive Frame where
  | array (items : List Source)
  | object (members : List (Option String × Source))
  /-- An object whose last key waits for its value. -/
  | member (members : List (Option String × Source)) (key : Option String)

/-- What may come next; the innermost open bracket comes first. -/
inductive Stage where
  | value (frames : List Frame)
  /-- Just after an opening bracket. -/
  | start (frames : List Frame)
  /-- After a value inside brackets. -/
  | after (frames : List Frame)
  /-- After a comma between members. -/
  | key (frames : List Frame)
  | colon (frames : List Frame)
  /-- After the whole value. -/
  | done (value : Source)
  /-- After something that should not follow the whole value. -/
  | trailing (value : Source)
  | failed (frames : List Frame)

namespace Stage

/-- A value that has come to its end. -/
def deliver (v : Source) : List Frame → Stage
  | [] => .done v
  | .array items :: fs => .after (.array (v :: items) :: fs)
  | .member members k :: fs => .after (.object ((k, v) :: members) :: fs)
  | .object members :: fs => .failed (.object members :: fs)

def takeValue (fs : List Frame) : Token → Stage
  | .null => deliver .null fs
  | .bool b => deliver (.bool b) fs
  | .number n => deliver (.number n) fs
  | .string s => deliver (.string s) fs
  | .beginArray => .start (.array [] :: fs)
  | .beginObject => .start (.object [] :: fs)
  | .endArray | .endObject | .comma | .colon | .bad => .failed fs

def takeKey (members : List (Option String × Source)) (fs : List Frame) : Token → Stage
  | .string s => .colon (.member members s :: fs)
  | _ => .failed (.object members :: fs)

def take (stage : Stage) (t : Token) : Stage :=
  match stage with
  | .value fs => takeValue fs t
  | .start (.array items :: fs) =>
    match t with
    | .endArray => deliver (.array items.reverse true) fs
    | _ => takeValue (.array items :: fs) t
  | .start (.object members :: fs) =>
    match t with
    | .endObject => deliver (.object members.reverse true) fs
    | _ => takeKey members fs t
  | .after (.array items :: fs) =>
    match t with
    | .comma => .value (.array items :: fs)
    | .endArray => deliver (.array items.reverse true) fs
    | _ => .failed (.array items :: fs)
  | .after (.object members :: fs) =>
    match t with
    | .comma => .key (.object members :: fs)
    | .endObject => deliver (.object members.reverse true) fs
    | _ => .failed (.object members :: fs)
  | .key (.object members :: fs) => takeKey members fs t
  | .colon fs =>
    match t with
    | .colon => .value fs
    | _ => .failed fs
  | .done v => .trailing v
  | .trailing v => .trailing v
  | .start fs | .after fs | .key fs | .failed fs => .failed fs

/-- What stands in brackets that are never closed; `inner` is an unfinished part of them. -/
def unfinished (inner : Option Source) : List Frame → Source
  | [] => inner.getD .broken
  | .array items :: fs => unfinished (some (.array (inner.toList ++ items).reverse false)) fs
  | .object members :: fs => unfinished (some (.object members.reverse false)) fs
  | .member members k :: fs =>
    unfinished (some (.object ((k, inner.getD .broken) :: members).reverse false)) fs

/-- The document, and whether it is one value and nothing else. -/
def finish : Stage → Source × Bool
  | .done v => (v, true)
  | .trailing v => (v, false)
  | .value fs | .start fs | .after fs | .key fs | .colon fs | .failed fs =>
    (unfinished none fs, false)

end Stage

/-- Where a reader stands in a document. -/
structure Reading where
  mode : Mode
  stage : Stage

namespace Reading

def start : Reading := ⟨.between, .value []⟩

def step (r : Reading) (c : Char) : Reading :=
  let next := r.mode.step c
  ⟨next.2, next.1.foldl Stage.take r.stage⟩

def run (r : Reading) (cs : List Char) : Reading := cs.foldl step r

def finish (r : Reading) : Source × Bool := (r.mode.finish.foldl Stage.take r.stage).finish

theorem run_append (r : Reading) (cs ds : List Char) : r.run (cs ++ ds) = (r.run cs).run ds := by
  simp [run, List.foldl_append]

end Reading

/-- A text as a document, and whether it is one value and nothing else. -/
def Source.ofText (s : String) : Source × Bool := (Reading.start.run s.toList).finish

end HubConsole.Json
