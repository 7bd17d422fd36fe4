import HubConsole.Double.Rounding
import HubConsole.Power

namespace HubConsole.Json

/-- The integers a document can hold: those of 64 bits, with or without a sign. -/
abbrev Fits (n : Int) : Prop := -(twoTo 63 : Int) ≤ n ∧ n < (twoTo 64 : Int)

/-- An integer and a double are different numbers even when they are equally large. -/
inductive Number where
  | int (value : Int) (fits : Fits value)
  | float (value : Double)

/-- A free value. What is read has the members of its objects in the order of their keys, one member a key. -/
inductive Value where
  | null
  | bool (value : Bool)
  | number (value : Number)
  | string (value : String)
  | array (items : List Value)
  | object (members : List (String × Value))

namespace Number

def same : Number → Number → Bool
  | .int m _, .int n _ => m == n
  | .float x, .float y => x == y
  | _, _ => false

instance : BEq Number := ⟨same⟩

theorem same_self (n : Number) : (n == n) = true := by
  cases n with
  | int m fits => exact beq_self_eq_true m
  | float x => exact x.same_self

instance : ReflBEq Number := ⟨same_self _⟩

instance : Inhabited Number := ⟨.int 0 (by decide)⟩

end Number

instance : Inhabited Value := ⟨.null⟩

namespace Value

mutual

/-- Equality of values: numbers by `Number.same`, all else as written. -/
def same : Value → Value → Bool
  | .null, .null => true
  | .bool a, .bool b => a == b
  | .number m, .number n => m == n
  | .string s, .string t => s == t
  | .array xs, .array ys => sameItems xs ys
  | .object xs, .object ys => sameMembers xs ys
  | _, _ => false

def sameItems : List Value → List Value → Bool
  | [], [] => true
  | x :: xs, y :: ys => same x y && sameItems xs ys
  | _, _ => false

def sameMembers : List (String × Value) → List (String × Value) → Bool
  | [], [] => true
  | (k, x) :: xs, (l, y) :: ys => k == l && same x y && sameMembers xs ys
  | _, _ => false

end

instance : BEq Value := ⟨same⟩

mutual

theorem same_self (v : Value) : v.same v = true := by
  cases v with
  | null => rfl
  | bool b => exact beq_self_eq_true b
  | number n => exact n.same_self
  | string s => exact beq_self_eq_true s
  | array items => exact sameItems_self items
  | object members => exact sameMembers_self members

theorem sameItems_self (vs : List Value) : sameItems vs vs = true := by
  cases vs with
  | nil => rfl
  | cons v vs => simp only [sameItems, same_self v, sameItems_self vs, Bool.and_self]

theorem sameMembers_self (ms : List (String × Value)) : sameMembers ms ms = true := by
  match ms with
  | [] => rfl
  | (k, v) :: ms =>
    simp only [sameMembers, beq_self_eq_true, same_self v, sameMembers_self ms, Bool.and_self]

end

instance : ReflBEq Value := ⟨same_self _⟩

/-- Puts a member into its place; it takes the place of one with the same key. -/
def insertMember (key : String) (value : Value) : List (String × Value) → List (String × Value)
  | [] => [(key, value)]
  | (k, v) :: rest =>
    if key < k then (key, value) :: (k, v) :: rest
    else if key = k then (key, value) :: rest
    else (k, v) :: insertMember key value rest

/-- The object of some members; of equal keys the last one counts. -/
def ofMembers (members : List (String × Value)) : Value :=
  .object (members.foldl (fun ms m => insertMember m.1 m.2 ms) [])

mutual

/-- The same value with the members of every object in the order of their keys. -/
def sorted : Value → Value
  | .array items => .array (sortedItems items)
  | .object members => ofMembers (sortedMembers members)
  | .null => .null
  | .bool b => .bool b
  | .number n => .number n
  | .string s => .string s

def sortedItems : List Value → List Value
  | [] => []
  | v :: vs => sorted v :: sortedItems vs

def sortedMembers : List (String × Value) → List (String × Value)
  | [] => []
  | (k, v) :: ms => (k, sorted v) :: sortedMembers ms

end

/-- The value of a member. -/
def get? (key : String) : Value → Option Value
  | .object members => (members.find? (·.1 == key)).map (·.2)
  | _ => none

/-- An integer of a domain in which it always fits. -/
def ofInt (n : Int) : Value :=
  if h : Fits n then .number (.int n h) else .number (.float (Double.ofInt n))

def ofNat (n : Nat) : Value := ofInt n

end Value
end HubConsole.Json
