import HubConsole.Json.Numeral
import HubConsole.Text.Hex

namespace HubConsole.Json

open HubConsole.Text

inductive Token where
  | beginArray
  | endArray
  | beginObject
  | endObject
  | comma
  | colon
  | null
  | bool (value : Bool)
  | number (value : Option Number)
  | string (value : Option String)
  /-- Something that starts no token or does not end one. -/
  | bad

/-- What a string is spelled with: characters, and code units given by number. -/
inductive Piece where
  | char (c : Char)
  | unit (n : Nat)

def isHigh (n : Nat) : Bool := 0xD800 ≤ n && n ≤ 0xDBFF

def isLow (n : Nat) : Bool := 0xDC00 ≤ n && n ≤ 0xDFFF

/-- The characters spelled, or none when half a surrogate pair is left over. -/
def joinPieces : List Piece → Option (List Char)
  | [] => some []
  | .char c :: rest => (joinPieces rest).map (c :: ·)
  | .unit h :: .unit l :: rest =>
    if isHigh h && isLow l then
      (joinPieces rest).map (Char.ofNat (0x10000 + (h - 0xD800) * 0x400 + (l - 0xDC00)) :: ·)
    else if isHigh h || isLow h then none
    else (joinPieces (.unit l :: rest)).map (Char.ofNat h :: ·)
  | .unit h :: rest =>
    if isHigh h || isLow h then none else (joinPieces rest).map (Char.ofNat h :: ·)

/-- Where in a numeral the next character would stand. -/
inductive NumeralPart where
  | sign
  | zero
  | whole
  | point
  | fraction
  | mark
  | markSign
  | exponent
  deriving DecidableEq

/-- A numeral of which more may come; the digits stand in reverse. -/
structure Draft where
  part : NumeralPart
  negative : Bool
  whole : List Char
  fraction : List Char
  small : Bool
  exponent : List Char

namespace Draft

def start (negative : Bool) : Draft := ⟨.sign, negative, [], [], false, []⟩

/-- What may follow the digits before the point. -/
def leaveWhole (d : Draft) (c : Char) : Option Draft :=
  if c = '.' then some { d with part := .point }
  else if c = 'e' ∨ c = 'E' then some { d with part := .mark }
  else none

/-- The numeral with one more character, if that belongs to it. -/
def extend (d : Draft) (c : Char) : Option Draft :=
  match d.part with
  | .sign =>
    if c = '0' then some { d with part := .zero, whole := [c] }
    else if c.isDigit then some { d with part := .whole, whole := [c] }
    else none
  | .zero => d.leaveWhole c
  | .whole => if c.isDigit then some { d with whole := c :: d.whole } else d.leaveWhole c
  | .point => if c.isDigit then some { d with part := .fraction, fraction := [c] } else none
  | .fraction =>
    if c.isDigit then some { d with fraction := c :: d.fraction }
    else if c = 'e' ∨ c = 'E' then some { d with part := .mark }
    else none
  | .mark =>
    if c = '+' then some { d with part := .markSign }
    else if c = '-' then some { d with part := .markSign, small := true }
    else if c.isDigit then some { d with part := .exponent, exponent := [c] }
    else none
  | .markSign => if c.isDigit then some { d with part := .exponent, exponent := [c] } else none
  | .exponent => if c.isDigit then some { d with exponent := c :: d.exponent } else none

/-- Whether the numeral may end here. -/
def complete (d : Draft) : Bool :=
  match d.part with
  | .zero | .whole | .fraction | .exponent => true
  | .sign | .point | .mark | .markSign => false

def numeral (d : Draft) : Numeral where
  negative := d.negative
  whole := d.whole.reverse
  fraction := d.fraction.reverse
  exponent := if d.exponent.isEmpty then none else some (d.small, d.exponent.reverse)

def token (d : Draft) : Token := if d.complete then .number d.numeral.toNumber? else .bad

end Draft

/-- What the characters read last belong to. -/
inductive Mode where
  | between
  /-- A word of which these characters must follow. -/
  | word (rest : List Char) (token : Token)
  | numeral (draft : Draft)
  /-- A string; its pieces stand in reverse. -/
  | text (before : List Piece)
  | escape (before : List Piece)
  /-- An escape by number that lacks some hexadecimal digits. -/
  | unit (before : List Piece) (missing : Nat) (value : Nat)
  /-- After something that starts no token. -/
  | stuck

def isSpace (c : Char) : Bool := c = ' ' || c = '\n' || c = '\t' || c = '\r'

/-- The character that a backslash with this letter stands for. -/
def escaped? (c : Char) : Option Char :=
  if c = '"' ∨ c = '\\' ∨ c = '/' then some c
  else if c = 'b' then some (Char.ofNat 0x08)
  else if c = 'f' then some (Char.ofNat 0x0C)
  else if c = 'n' then some '\n'
  else if c = 'r' then some '\r'
  else if c = 't' then some '\t'
  else none

namespace Mode

/-- The first character of a token. -/
def first (c : Char) : List Token × Mode :=
  if isSpace c then ([], .between)
  else if c = '[' then ([.beginArray], .between)
  else if c = ']' then ([.endArray], .between)
  else if c = '{' then ([.beginObject], .between)
  else if c = '}' then ([.endObject], .between)
  else if c = ',' then ([.comma], .between)
  else if c = ':' then ([.colon], .between)
  else if c = '"' then ([], .text [])
  else if c = 'n' then ([], .word ['u', 'l', 'l'] .null)
  else if c = 't' then ([], .word ['r', 'u', 'e'] (.bool true))
  else if c = 'f' then ([], .word ['a', 'l', 's', 'e'] (.bool false))
  else if c = '-' then ([], .numeral (Draft.start true))
  else match (Draft.start false).extend c with
    | some d => ([], .numeral d)
    | none => ([.bad], .stuck)

/-- The tokens that end with a character, and what follows it belongs to. -/
def step (mode : Mode) (c : Char) : List Token × Mode :=
  match mode with
  | .between => first c
  | .word [] token => (token :: (first c).1, (first c).2)
  | .word (w :: ws) token =>
    if c = w then (if ws.isEmpty then ([token], .between) else ([], .word ws token))
    else ([.bad], .stuck)
  | .numeral d =>
    match d.extend c with
    | some d => ([], .numeral d)
    | none => if d.complete then (d.token :: (first c).1, (first c).2) else ([.bad], .stuck)
  | .text before =>
    if c = '"' then ([.string ((joinPieces before.reverse).map String.ofList)], .between)
    else if c = '\\' then ([], .escape before)
    else if c.toNat < 0x20 then ([.bad], .stuck)
    else ([], .text (.char c :: before))
  | .escape before =>
    if c = 'u' then ([], .unit before 4 0)
    else match escaped? c with
      | some e => ([], .text (.char e :: before))
      | none => ([.bad], .stuck)
  | .unit before missing value =>
    match hexValue? c with
    | some h =>
      if missing ≤ 1 then ([], .text (.unit (16 * value + h) :: before))
      else ([], .unit before (missing - 1) (16 * value + h))
    | none => ([.bad], .stuck)
  | .stuck => ([], .stuck)

/-- What the end of the document makes of the characters read last. -/
def finish : Mode → List Token
  | .between | .stuck => []
  | .numeral d => [d.token]
  | .word _ _ | .text _ | .escape _ | .unit _ _ _ => [.bad]

end Mode
end HubConsole.Json
