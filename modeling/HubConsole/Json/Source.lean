import HubConsole.Json.Value

namespace HubConsole.Json

/-- A document as it is written, before it is asked to be a value of some kind: members in their order and with
their repetitions, and everything up to the first place where it stops being JSON. What is not asked for is
never judged. -/
inductive Source where
  | null
  | bool (value : Bool)
  /-- None when the number is too large for a double. -/
  | number (value : Option Number)
  /-- None when the string holds half of a surrogate pair. -/
  | string (value : Option String)
  /-- `closed` tells whether the bracket that ends the array was met. -/
  | array (items : List Source) (closed : Bool)
  | object (members : List (Option String × Source)) (closed : Bool)
  /-- Not a value. -/
  | broken

instance : Inhabited Source := ⟨.broken⟩

mutual

/-- The document that spells a value. -/
def Value.toSource : Value → Source
  | .null => .null
  | .bool b => .bool b
  | .number n => .number (some n)
  | .string s => .string (some s)
  | .array items => .array (toSources items) true
  | .object members => .object (toMembers members) true

def Value.toSources : List Value → List Source
  | [] => []
  | v :: vs => v.toSource :: Value.toSources vs

def Value.toMembers : List (String × Value) → List (Option String × Source)
  | [] => []
  | (k, v) :: ms => (some k, v.toSource) :: Value.toMembers ms

end

mutual

/-- The document as a free value, with at most `room` brackets around any part of it. -/
def Source.free? (room : Nat) : Source → Option Value
  | .null => some .null
  | .bool b => some (.bool b)
  | .number n => n.map .number
  | .string s => s.map .string
  | .array items closed =>
    if room = 0 ∨ closed = false then none else (freeItems? (room - 1) items).map .array
  | .object members closed =>
    if room = 0 ∨ closed = false then none else (freeMembers? (room - 1) members).map Value.ofMembers
  | .broken => none

def Source.freeItems? (room : Nat) : List Source → Option (List Value)
  | [] => some []
  | s :: ss =>
    match s.free? room, Source.freeItems? room ss with
    | some v, some vs => some (v :: vs)
    | _, _ => none

def Source.freeMembers? (room : Nat) :
    List (Option String × Source) → Option (List (String × Value))
  | [] => some []
  | (k, s) :: ms =>
    match k, s.free? room, Source.freeMembers? room ms with
    | some k, some v, some vs => some ((k, v) :: vs)
    | _, _, _ => none

end

end HubConsole.Json
