import HubConsole.Power
import HubConsole.Text.Blank
import HubConsole.Text.Digits
import HubConsole.Time.Calendar
import HubConsole.Time.Instant

namespace HubConsole.Time

open HubConsole.Text

/-- What reading a piece of a time gives: its value and the rest of the text. -/
abbrev Piece (α : Type) := Option (α × List Char)

/-- One digit and up to `most - 1` further ones. -/
def digitsUpTo (most : Nat) (cs : List Char) : Piece Nat :=
  let ds := (cs.take most).takeWhile Char.isDigit
  if ds.isEmpty then none else some (valueOf ds, cs.drop ds.length)

/-- One digit and all that follow. -/
def allDigits (cs : List Char) : Piece Nat := digitsUpTo cs.length cs

def skipBlanks (cs : List Char) : List Char := cs.dropWhile isBlank

/-- A number of at most two digits, blanks before it. -/
def twoDigits (cs : List Char) : Piece Nat := digitsUpTo 2 (skipBlanks cs)

/-- A year: four digits at most, or any number of them after a sign. -/
def readYear (cs : List Char) : Piece Int :=
  match skipBlanks cs with
  | '-' :: rest => (allDigits rest).map fun r => (-(r.1 : Int), r.2)
  | '+' :: rest => (allDigits rest).map fun r => ((r.1 : Int), r.2)
  | rest => (digitsUpTo 4 rest).map fun r => ((r.1 : Int), r.2)

/-- A sign between two numbers, blanks before it. -/
def expect (c : Char) (cs : List Char) : Option (List Char) :=
  match skipBlanks cs with
  | d :: rest => if d = c then some rest else none
  | [] => none

/-- Nanoseconds after the point; digits after the ninth do not count. -/
def readFraction (cs : List Char) : Piece Nat :=
  match cs with
  | '.' :: rest =>
    match digitsUpTo 9 rest with
    | some (n, after) =>
      some (n * tenTo (9 - (rest.length - after.length)), after.dropWhile Char.isDigit)
    | none => none
  | _ => some (0, cs)

/-- Minutes of an offset, after the hours. -/
def readOffsetMinutes (cs : List Char) : Piece Nat :=
  match cs.dropWhile (fun c => c = ':' || isBlank c) with
  | a :: b :: rest =>
    if a.isDigit ∧ b.isDigit ∧ digitValue a < 6 then some (valueOf [a, b], rest) else none
  | _ => none

/-- Seconds that local time is ahead of UTC. -/
def readOffset (cs : List Char) : Piece Int :=
  match cs with
  | 'Z' :: rest | 'z' :: rest => some (0, rest)
  | c :: a :: b :: rest =>
    if [c, a, b].map Char.toUpper = ['U', 'T', 'C'] then some (0, rest)
    else if (c = '+' ∨ c = '-' ∨ c.toNat = 0x2212) ∧ a.isDigit ∧ b.isDigit then
      match readOffsetMinutes rest with
      | some (m, rest) =>
        let size : Int := valueOf [a, b] * 3600 + m * 60
        if size < 86400 then some (if c = '+' then size else -size, rest) else none
      | none => none
    else none
  | _ => none

def readDate (cs : List Char) : Option (Date × List Char) := do
  let (year, cs) ← readYear cs
  let (month, cs) ← expect '-' cs >>= twoDigits
  let (day, cs) ← expect '-' cs >>= twoDigits
  let date : Date := ⟨year, month, day⟩
  if date.isValid then some (date, cs) else none

/-- Seconds and nanoseconds since midnight; second sixty is the leap second after the one before. -/
def readClock (cs : List Char) : Option ((Nat × Nat) × List Char) := do
  let (hour, cs) ← twoDigits cs
  let (minute, cs) ← expect ':' cs >>= twoDigits
  let (second, cs) ← expect ':' cs >>= twoDigits
  let (nanos, cs) ← readFraction cs
  if hour < 24 ∧ minute < 60 ∧ second ≤ 60 then
    if second = 60 then some ((hour * 3600 + minute * 60 + 59, 1000000000 + nanos), cs)
    else some ((hour * 3600 + minute * 60 + second, nanos), cs)
  else none

namespace Instant

/-- The year, in UTC, is one that a date can have. -/
def inCalendar (t : Instant) : Bool :=
  (Date.mk firstYear 1 1).dayNumber ≤ t.seconds / 86400 &&
    t.seconds / 86400 ≤ (Date.mk lastYear 12 31).dayNumber

def ofChars? (cs : List Char) : Option Instant := do
  let (date, cs) ← readDate cs
  let cs ← match cs with
    | 'T' :: rest | 't' :: rest | ' ' :: rest => some rest
    | _ => none
  let ((second, nanos), cs) ← readClock cs
  let (offset, cs) ← readOffset (skipBlanks cs)
  let t : Instant := ⟨date.dayNumber * 86400 + second - offset, nanos⟩
  if (skipBlanks cs).isEmpty ∧ t.inCalendar then some t else none

/-- Reads RFC 3339 leniently: numbers may be short and have blanks before them, the year may have a sign, and the
offset may do without its colon. -/
def ofText? (s : String) : Option Instant := ofChars? s.toList

/-- Digits with zeros in front, at least `width` of them. -/
def padded (width n : Nat) : List Char :=
  List.replicate (width - (digits n).length) '0' ++ digits n

def yearText (year : Int) : List Char :=
  if 0 ≤ year ∧ year ≤ 9999 then padded 4 year.toNat
  else (if year < 0 then '-' else '+') :: padded 4 year.natAbs

/-- As many digits as needed out of none, three, six and nine. -/
def fractionText (nanos : Nat) : List Char :=
  if nanos = 0 then []
  else if nanos % 1000000 = 0 then '.' :: padded 3 (nanos / 1000000)
  else if nanos % 1000 = 0 then '.' :: padded 6 (nanos / 1000)
  else '.' :: padded 9 nanos

/-- The text in UTC, up to the name of the zone. -/
def writeLocal (t : Instant) : List Char :=
  let date := Date.ofDayNumber (t.seconds / 86400)
  let second := (t.seconds % 86400).toNat
  let leap := if 1000000000 ≤ t.nanos then 1 else 0
  yearText date.year ++ '-' :: padded 2 date.month ++ '-' :: padded 2 date.day ++
    'T' :: padded 2 (second / 3600) ++ ':' :: padded 2 (second / 60 % 60) ++
    ':' :: padded 2 (second % 60 + leap) ++ fractionText (t.nanos - leap * 1000000000)

/-- As documents write it. -/
def text (t : Instant) : String := String.ofList (t.writeLocal ++ ['Z'])

/-- As views write it. -/
def offsetText (t : Instant) : String :=
  String.ofList (t.writeLocal ++ ['+', '0', '0', ':', '0', '0'])

end Instant
end HubConsole.Time
