import HubConsole.Power
import HubConsole.Text.Hex
import HubConsole.Text.Split

namespace HubConsole.Url

open HubConsole.Text

/-- One part of a dotted address: decimal, octal after `0` or hexadecimal after `0x`. -/
def readPart? : List Char → Option Nat
  | [] => none
  | '0' :: x :: cs => if x = 'x' ∨ x = 'X' then readBase? 16 cs else readBase? 8 (x :: cs)
  | cs => readBase? 10 cs

/-- The parts between dots, without the empty one after a dot at the end. -/
def dottedParts (cs : List Char) : List (List Char) :=
  let parts := splitAt (· = '.') cs
  if parts.getLast? = some [] then parts.dropLast else parts

/-- Whether a host must be a dotted address: its last part looks like a number. -/
def endsInNumber (cs : List Char) : Bool :=
  match (dottedParts cs).getLast? with
  | none => false
  | some part => (!part.isEmpty && part.all Char.isDigit) || (readPart? part).isSome

/-- The last number fills all bytes that the numbers before it leave. -/
def joinParts? (before : List Nat) (last : Nat) : Option Nat :=
  if before.length < 4 ∧ before.all (· ≤ 255) ∧ last < twoTo (32 - 8 * before.length) then
    some (before.foldl (fun n b => 256 * n + b) 0 * twoTo (32 - 8 * before.length) + last)
  else none

/-- A dotted address as a number of 32 bits. -/
def readDotted? (cs : List Char) : Option Nat :=
  ((dottedParts cs).mapM readPart?).bind fun ns =>
    ns.getLast?.bind (joinParts? ns.dropLast)

def dottedText (n : Nat) : List Char :=
  List.intercalate ['.'] ([n / twoTo 24, n / twoTo 16 % 256, n / twoTo 8 % 256, n % 256].map digits)

/-- One to four hexadecimal digits. -/
def readGroup? (cs : List Char) : Option Nat :=
  if 1 ≤ cs.length ∧ cs.length ≤ 4 then readBase? 16 cs else none

/-- One byte of a dotted end: decimal, and no zero in front. -/
def readByte? (cs : List Char) : Option Nat :=
  (readBase? 10 cs).bind fun n => if digits n = cs ∧ n ≤ 255 then some n else none

/-- The last piece of a colon address: one group, or two written as four bytes. -/
def readEnd? (cs : List Char) : Option (List Nat) :=
  match (splitAt (· = '.') cs).mapM readByte? with
  | some [a, b, c, d] => some [256 * a + b, 256 * c + d]
  | _ => (readGroup? cs).map ([·])

/-- The groups on one side of `::`. -/
def readGroups? (last : List Char → Option (List Nat)) : List (List Char) → Option (List Nat)
  | [] => some []
  | [cs] => last cs
  | cs :: rest => (readGroup? cs).bind fun g => (readGroups? last rest).map (g :: ·)

def readSide? (last : List Char → Option (List Nat)) (cs : List Char) : Option (List Nat) :=
  if cs.isEmpty then some [] else readGroups? last (splitAt (· = ':') cs)

/-- The two sides of the first `::`. -/
def cutRun? : List Char → Option (List Char × List Char)
  | ':' :: ':' :: cs => some ([], cs)
  | c :: cs => (cutRun? cs).map fun r => (c :: r.1, r.2)
  | [] => none

/-- A colon address as its eight groups. -/
def readColons? (cs : List Char) : Option (List Nat) :=
  match cutRun? cs with
  | some (left, right) =>
    (readSide? (fun g => (readGroup? g).map ([·])) left).bind fun l =>
      (readSide? readEnd? right).bind fun r =>
        if l.length + r.length ≤ 7 then
          some (l ++ List.replicate (8 - (l.length + r.length)) 0 ++ r)
        else none
  | none =>
    (readSide? readEnd? cs).bind fun gs => if gs.length = 8 then some gs else none

/-- How many groups from a position on are zero. -/
def zerosAt (groups : List Nat) (i : Nat) : Nat := ((groups.drop i).takeWhile (· = 0)).length

/-- The first of the longest runs of zero groups, as its start and length. -/
def longestZeros (groups : List Nat) : Nat × Nat :=
  (List.range groups.length).foldl
    (fun best i => if zerosAt groups i > best.2 then (i, zerosAt groups i) else best) (0, 0)

/-- The groups in hexadecimal, the longest run of at least two zeros as `::`. -/
def colonText (groups : List Nat) : List Char :=
  let text (gs : List Nat) := List.intercalate [':'] (gs.map hexDigits)
  let run := longestZeros groups
  if run.2 < 2 then text groups
  else text (groups.take run.1) ++ [':', ':'] ++ text (groups.drop (run.1 + run.2))

end HubConsole.Url
