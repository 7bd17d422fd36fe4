import HubConsole.Text.Split
import HubConsole.Url.Percent

namespace HubConsole.Url

open HubConsole.Text

abbrev Segment := List Char

/-- How many dots a segment consists of, a dot also being written as `%2e`. -/
def dotsOnly? : Segment → Option Nat
  | [] => some 0
  | '.' :: cs => (dotsOnly? cs).map (· + 1)
  | '%' :: '2' :: e :: cs => if e = 'e' ∨ e = 'E' then (dotsOnly? cs).map (· + 1) else none
  | _ => none

def isDrive : Segment → Bool
  | [letter, mark] => letter.isAlpha && (mark = ':' || mark = '|')
  | _ => false

/-- One level up, except out of the root or of a drive; `closed` is what has been entered, the last first. -/
def parent : List Segment → List Segment
  | [] => []
  | s :: closed => if isDrive s then s :: closed else closed

/-- Follows segments from `closed` on; the last one is where the path ends. -/
def follow (closed : List Segment) : List Segment → List Segment
  | [] => ([] :: closed).reverse
  | [s] =>
    match dotsOnly? s with
    | some 1 => ([] :: closed).reverse
    | some 2 => ([] :: parent closed).reverse
    | _ => (s :: closed).reverse
  | s :: rest =>
    match dotsOnly? s with
    | some 1 => follow closed rest
    | some 2 => follow (parent closed) rest
    | _ => follow (s :: closed) rest

/-- The segments of a path, of which there is always one; the path `/` is one empty segment. -/
structure Path where
  segments : List Segment
  deriving DecidableEq

namespace Path

/-- The path of a text without its first slash. -/
def ofText (cs : List Char) : Path :=
  ⟨follow [] ((splitAt (fun c => c = '/' || c = '\\') cs).map (escape .path))⟩

def text (p : Path) : List Char := '/' :: List.intercalate ['/'] p.segments

/-- Without an empty segment at the end, so that the next segment takes its place. -/
def dropEmptyEnd (p : Path) : List Segment :=
  if p.segments.getLast? = some [] then p.segments.dropLast else p.segments

/-- The path with one more segment, which is taken literally. Tabs and line ends do not count; a lone
`.` or `..` adds nothing. -/
def push (p : Path) (segment : Segment) : Path :=
  if segment = ['.'] ∨ segment = ['.', '.'] then
    ⟨if p.dropEmptyEnd.isEmpty then [[]] else p.dropEmptyEnd⟩
  else
    let segment := escape .segment (segment.filter fun c => c ≠ '\t' ∧ c ≠ '\n' ∧ c ≠ '\r')
    let below := if p.dropEmptyEnd = [[]] then [] else p.dropEmptyEnd
    ⟨follow below.reverse [segment]⟩

end Path
end HubConsole.Url
