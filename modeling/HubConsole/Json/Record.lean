import HubConsole.Json.Reader
import HubConsole.Json.Writer
import HubConsole.Power

namespace HubConsole.Json

/-- Why a document is not read as what it should be. -/
inductive Fault where
  | negativeId (value : Int)
  | idNotTextOrNumber
  | malformed
  deriving DecidableEq

/-- How many brackets may stand around any part of what is read. -/
def depthLimit : Nat := 127

/-- A kind of document: `room` is how many more brackets may be opened. -/
abbrev Reader (α : Type) := (room : Nat) → Source → Except Fault α

abbrev Members := List (Option String × Source)

/-- The first member with a key, and its place. -/
def Members.find? (key : String) (ms : Members) : Option (Nat × Source) :=
  match ms with
  | [] => none
  | (k, s) :: rest =>
    if k = some key then some (0, s)
    else (Members.find? key rest).map fun r => (r.1 + 1, r.2)

/-- The place of the first key that is no text, or that is among `keys` and stands there again. -/
def Members.misplaced? (keys : List String) (ms : Members) : Option Nat :=
  go [] ms
where
  go (seen : List String) : Members → Option Nat
    | [] => none
    | (none, _) :: _ => some 0
    | (some k, _) :: rest =>
      if k ∈ seen then some 0
      else (go (if k ∈ keys then k :: seen else seen) rest).map (· + 1)

/-- How the members of a record make up a value. A fault in an object carries its place. -/
structure Form (α : Type) where
  keys : List String
  ofMembers : Nat → Members → Except (Nat × Fault) α
  /-- From the items of an array; also the items left over. -/
  ofItems : Nat → List Source → Except Fault (α × List Source)

namespace Form

variable {α β : Type}

protected def pure (a : α) : Form α := ⟨[], fun _ _ => .ok a, fun _ items => .ok (a, items)⟩

protected def seq (f : Form (α → β)) (x : Form α) : Form β where
  keys := f.keys ++ x.keys
  ofMembers room ms :=
    match f.ofMembers room ms, x.ofMembers room ms with
    | .ok g, .ok a => .ok (g a)
    | .error e, .ok _ => .error e
    | .ok _, .error e => .error e
    | .error d, .error e => .error (if e.1 < d.1 then e else d)
  ofItems room items :=
    match f.ofItems room items with
    | .error e => .error e
    | .ok (g, rest) =>
      match x.ofItems room rest with
      | .error e => .error e
      | .ok (a, rest) => .ok (g a, rest)

protected def map (g : α → β) (x : Form α) : Form β := Form.seq (Form.pure g) x

instance : Functor Form := ⟨Form.map, fun a x => Form.map (fun _ => a) x⟩

instance : Pure Form := ⟨Form.pure⟩

instance : Seq Form := ⟨fun f x => f.seq (x ())⟩

/-- A member; `missing` is what its absence stands for, if it may be absent. -/
def member (key : String) (read : Reader α) (missing : Option α) : Form α where
  keys := [key]
  ofMembers room ms :=
    match ms.find? key, missing with
    | some (i, s), _ =>
      match read room s with
      | .ok a => .ok a
      | .error e => .error (i, e)
    | none, some a => .ok a
    | none, none => .error (ms.length, .malformed)
  ofItems room items :=
    match items, missing with
    | s :: rest, _ =>
      match read room s with
      | .ok a => .ok (a, rest)
      | .error e => .error e
    | [], some a => .ok (a, [])
    | [], none => .error .malformed

def required (key : String) (read : Reader α) : Form α := member key read none

def withDefault (key : String) (read : Reader α) (a : α) : Form α := member key read (some a)

/-- The first of two places at which a record cannot be read on. -/
def firstPlace : Option Nat → Option Nat → Option Nat
  | some i, some j => some (min i j)
  | some i, none => some i
  | none, j => j

/-- Reads a record, given as an object or as an array of its members in order. Members that the form does not
name are passed over; a named one may stand only once. Of several faults the first in the document counts. -/
def read (form : Form α) : Reader α
  | room, .object ms closed =>
    if room = 0 then .error .malformed
    else
      let stop := firstPlace (Members.misplaced? form.keys ms) (if closed then none else some ms.length)
      match form.ofMembers (room - 1) ms, stop with
      | .ok a, none => .ok a
      | .ok _, some _ => .error .malformed
      | .error (_, e), none => .error e
      | .error (i, e), some j => .error (if i < j then e else .malformed)
  | room, .array items closed =>
    if room = 0 then .error .malformed
    else
      match form.ofItems (room - 1) items with
      | .error e => .error e
      | .ok (a, rest) => if rest.isEmpty && closed then .ok a else .error .malformed
  | _, _ => .error .malformed

end Form

namespace Reader

variable {α : Type}

def text : Reader String
  | _, .string (some s) => .ok s
  | _, _ => .error .malformed

def bool : Reader Bool
  | _, .bool b => .ok b
  | _, _ => .error .malformed

/-- An integer from `low` to below `high`. -/
def int (low high : Int) : Reader Int
  | _, .number (some (.int n _)) => if low ≤ n ∧ n < high then .ok n else .error .malformed
  | _, _ => .error .malformed

def int64 : Reader Int := int (-twoTo 63) (twoTo 63)

def nat32 : Reader Nat := fun room s => (int 0 (twoTo 32) room s).map Int.toNat

def double : Reader Double
  | _, .number (some (.float x)) => .ok x
  | _, .number (some (.int n _)) => .ok (Double.ofInt n)
  | _, _ => .error .malformed

def free : Reader Value := fun room s =>
  match s.free? room with
  | some v => .ok v
  | none => .error .malformed

/-- Null, or something else. -/
def nullable (read : Reader α) : Reader (Option α)
  | _, .null => .ok none
  | room, s => (read room s).map some

/-- The items of an array, up to the first fault. -/
def items (read : Reader α) (room : Nat) : List Source → Except Fault (List α)
  | [] => .ok []
  | s :: ss =>
    match read room s with
    | .error e => .error e
    | .ok a =>
      match items read room ss with
      | .error e => .error e
      | .ok as => .ok (a :: as)

def list (read : Reader α) : Reader (List α)
  | room, .array ss closed =>
    if room = 0 then .error .malformed
    else
      match items read (room - 1) ss with
      | .error e => .error e
      | .ok as => if closed then .ok as else .error .malformed
  | _, _ => .error .malformed

def texts : Reader (List String) := list text

/-- One of several names, also given as the key of a lone null. -/
def name (ofName? : String → Option α) : Reader α
  | _, .string (some s) => ofOption (ofName? s)
  | room, .object [(some s, .null)] true =>
    if room = 0 then .error .malformed else ofOption (ofName? s)
  | _, _ => .error .malformed
where
  ofOption : Option α → Except Fault α
    | some a => .ok a
    | none => .error .malformed

end Reader

namespace Form

variable {α : Type}

/-- A member that may be absent or null. -/
def optional (key : String) (read : Reader α) : Form (Option α) :=
  withDefault key (Reader.nullable read) none

/-- A member that may be absent, where null is a value like any other. -/
def present (key : String) (read : Reader α) : Form (Option α) :=
  withDefault key (fun room s => (read room s).map some) none

end Form

namespace Reader

variable {α : Type}

/-- Reads a whole text. -/
def ofText (read : Reader α) (s : String) : Except Fault α :=
  let document := Source.ofText s
  match read depthLimit document.1 with
  | .error e => .error e
  | .ok a => if document.2 then .ok a else .error .malformed

/-- Reads a free value. -/
def ofValue (read : Reader α) (v : Value) : Except Fault α := read depthLimit v.toSource

end Reader

/-- A member that is written only when there is a value. -/
def writeOptional {α : Type} (key : String) (write : α → Value) : Option α → List (String × Value)
  | some a => [(key, write a)]
  | none => []

def writeList {α : Type} (write : α → Value) (as : List α) : Value := .array (as.map write)

def writeTexts (texts : List String) : Value := writeList .string texts

def writeDouble (x : Double) : Value := .number (.float x)

/-- A type with a form in documents. -/
class Wire (α : Type) where
  read : Reader α
  write : α → Value

namespace Wire

variable {α : Type} [Wire α]

def ofText (s : String) : Except Fault α := Reader.ofText Wire.read s

def ofValue (v : Value) : Except Fault α := Reader.ofValue Wire.read v

def toText (a : α) : String := (Wire.write a).text

end Wire

instance : Wire Value := ⟨Reader.free, id⟩

end HubConsole.Json
