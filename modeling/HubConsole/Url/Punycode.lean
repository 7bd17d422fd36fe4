import HubConsole.Text.Digits

namespace HubConsole.Url.Punycode

def digitChar (d : Nat) : Char := if d < 26 then Char.ofNat (0x61 + d) else Char.ofNat (0x16 + d)

def digitValue? (c : Char) : Option Nat :=
  if 'a' ≤ c ∧ c ≤ 'z' then some (c.toNat - 0x61)
  else if 'A' ≤ c ∧ c ≤ 'Z' then some (c.toNat - 0x41)
  else if c.isDigit then some (c.toNat - 0x16)
  else none

/-- A digit below the threshold of its place ends a number. -/
def threshold (place bias : Nat) : Nat := min 26 (max 1 (place - bias))

theorem one_le_threshold (place bias : Nat) : 1 ≤ threshold place bias := by
  unfold threshold
  omega

/-- The bias that suits numbers as large as `size`; places come in steps of 36. -/
def fit (size place : Nat) : Nat :=
  if size ≤ 455 then place + 36 * size / (size + 38) else fit (size / 35) (place + 36)
termination_by size
decreasing_by omega

/-- The bias after a distance, with `count` characters placed so far. -/
def adapt (delta count : Nat) (first : Bool) : Nat :=
  let halved := delta / (if first then 700 else 2)
  fit (halved + halved / count) 0

/-- The digits of a number from a place on, the lowest first. -/
def writeNumber (bias place n : Nat) : List Char :=
  let t := threshold place bias
  if n < t then [digitChar n]
  else digitChar (t + (n - t) % (36 - t)) :: writeNumber bias (place + 36) ((n - t) / (36 - t))
termination_by n
decreasing_by
  have := one_le_threshold place bias
  have := Nat.div_le_self (n - threshold place bias) (36 - threshold place bias)
  omega

structure Progress where
  /-- What is written, nearest first. -/
  written : List Char
  delta : Nat
  bias : Nat
  /-- How many characters are placed. -/
  placed : Nat

/-- Passes one character of the label while the code point `n` is placed. -/
def visit (basic n : Nat) (p : Progress) (c : Char) : Progress :=
  if c.toNat < n then { p with delta := p.delta + 1 }
  else if c.toNat = n then
    ⟨(writeNumber p.bias 36 p.delta).reverse ++ p.written, 0,
      adapt p.delta (p.placed + 1) (p.placed == basic), p.placed + 1⟩
  else p

/-- Places the code points that are left, in ascending order, from `next` on. -/
def place (label : List Char) (basic : Nat) : List Nat → Nat → Progress → Progress
  | [], _, p => p
  | n :: rest, next, p =>
    let q := label.foldl (visit basic n) { p with delta := p.delta + (n - next) * (p.placed + 1) }
    place label basic rest (n + 1) { q with delta := q.delta + 1 }

def beyondAscii (label : List Char) : List Nat :=
  (((label.map Char.toNat).filter (0x80 ≤ ·)).mergeSort (· ≤ ·)).eraseDups

/-- The characters beyond ASCII are taken in the order of their code points. Each occurrence is written as the
distance from the one before, in digits to the base 36 whose thresholds adapt to the distances seen. -/
def encode (label : List Char) : List Char :=
  let basic := label.filter (·.toNat < 0x80)
  let rest := place label basic.length (beyondAscii label) 0x80 ⟨[], 0, 72, basic.length⟩
  basic ++ (if basic.isEmpty then [] else ['-']) ++ rest.written.reverse

/-- Reads one number: its value, and what comes after it. -/
def readNumber? (bias place weight i : Nat) : List Char → Option (Nat × List Char)
  | [] => none
  | c :: cs =>
    (digitValue? c).bind fun d =>
      let t := threshold place bias
      if d < t then some (i + d * weight, cs)
      else readNumber? bias (place + 36) (weight * (36 - t)) (i + d * weight) cs

def insertAt (i : Nat) (c : Char) (cs : List Char) : List Char := cs.take i ++ c :: cs.drop i

/-- Undoes the placing; `fuel` bounds the numbers to be read. -/
def unplace? (n i bias : Nat) (first : Bool) (label : List Char) : Nat → List Char → Option (List Char)
  | _, [] => some label
  | 0, _ => none
  | fuel + 1, cs =>
    (readNumber? bias 36 1 i cs).bind fun r =>
      let count := label.length + 1
      let n := n + r.1 / count
      if n.isValidChar then
        unplace? n (r.1 % count + 1) (adapt (r.1 - i) count first) false
          (insertAt (r.1 % count) (Char.ofNat n) label) fuel r.2
      else none

/-- The label that is written so; what comes before the last hyphen stands for itself. -/
def decode? (cs : List Char) : Option (List Char) :=
  let tail := (cs.reverse.takeWhile (· ≠ '-')).reverse
  let basic := (cs.take (cs.length - tail.length)).dropLast
  unplace? 0x80 0 72 true basic tail.length tail

end HubConsole.Url.Punycode
