import HubConsole.Double.Text
import HubConsole.Json.Value
import HubConsole.Text.Hex

namespace HubConsole.Json

open HubConsole.Text

/-- A quote, a backslash and the controls below the blank are escaped, all else stands for itself. -/
def escapeChar (c : Char) : List Char :=
  if c = '"' then ['\\', '"']
  else if c = '\\' then ['\\', '\\']
  else if c = '\n' then ['\\', 'n']
  else if c = '\r' then ['\\', 'r']
  else if c = '\t' then ['\\', 't']
  else if c.toNat = 0x08 then ['\\', 'b']
  else if c.toNat = 0x0C then ['\\', 'f']
  else if c.toNat < 0x20 then
    ['\\', 'u', '0', '0', hexDigit (c.toNat / 16), hexDigit (c.toNat % 16)]
  else [c]

def writeString (s : String) : List Char :=
  '"' :: (s.toList.flatMap escapeChar ++ ['"'])

def Number.write : Number → List Char
  | .int (.ofNat n) _ => digits n
  | .int (.negSucc n) _ => '-' :: digits (n + 1)
  | .float x => x.text Double.documentLayout

namespace Value

def writeBool (b : Bool) : List Char :=
  if b then ['t', 'r', 'u', 'e'] else ['f', 'a', 'l', 's', 'e']

mutual

def write : Value → List Char
  | .null => ['n', 'u', 'l', 'l']
  | .bool b => writeBool b
  | .number n => n.write
  | .string s => writeString s
  | .array [] => ['[', ']']
  | .array (v :: vs) => '[' :: (write v ++ writeItems vs)
  | .object [] => ['{', '}']
  | .object ((k, v) :: ms) => '{' :: (writeString k ++ ':' :: (write v ++ writeMembers ms))

/-- The items after the first, and the end of the array. -/
def writeItems : List Value → List Char
  | [] => [']']
  | v :: vs => ',' :: (write v ++ writeItems vs)

/-- The members after the first, and the end of the object. -/
def writeMembers : List (String × Value) → List Char
  | [] => ['}']
  | (k, v) :: ms => ',' :: (writeString k ++ ':' :: (write v ++ writeMembers ms))

end

/-- The compact text. -/
def text (v : Value) : String := String.ofList v.write

def newLine (depth : Nat) : List Char := '\n' :: List.replicate (2 * depth) ' '

mutual

/-- The indented text of a value that stands at some depth. -/
def writeIndented (depth : Nat) : Value → List Char
  | .null => ['n', 'u', 'l', 'l']
  | .bool b => writeBool b
  | .number n => n.write
  | .string s => writeString s
  | .array [] => ['[', ']']
  | .array (v :: vs) =>
    '[' :: (newLine (depth + 1) ++ writeIndented (depth + 1) v ++ indentItems depth vs)
  | .object [] => ['{', '}']
  | .object ((k, v) :: ms) =>
    '{' :: (newLine (depth + 1) ++ writeString k ++ ':' :: ' ' :: (writeIndented (depth + 1) v ++
      indentMembers depth ms))

def indentItems (depth : Nat) : List Value → List Char
  | [] => newLine depth ++ [']']
  | v :: vs => ',' :: (newLine (depth + 1) ++ writeIndented (depth + 1) v ++ indentItems depth vs)

def indentMembers (depth : Nat) : List (String × Value) → List Char
  | [] => newLine depth ++ ['}']
  | (k, v) :: ms =>
    ',' :: (newLine (depth + 1) ++ writeString k ++ ':' :: ' ' :: (writeIndented (depth + 1) v ++
      indentMembers depth ms))

end

/-- The text for people, indented by two blanks a level. -/
def indentedText (v : Value) : String := String.ofList (v.writeIndented 0)

end Value
end HubConsole.Json
