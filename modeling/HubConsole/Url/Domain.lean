import HubConsole.Text.Lowercase
import HubConsole.Text.Split
import HubConsole.Url.Punycode

namespace HubConsole.Url

open HubConsole.Text

/-- Characters that would mean something else in an address; controls and blanks are barred too. -/
def barredInName : List Char := "%#/:<>?@[\\]^|".toList

def allowedInName (c : Char) : Bool :=
  0x20 < c.toNat && c.toNat != 0x7F && !barredInName.contains c

/-- Characters beyond ASCII that a name may hold without them counting. -/
def ignoredInName : List (Nat × Nat) :=
  [(0xAD, 0xAD), (0x34F, 0x34F), (0x180B, 0x180D), (0x180F, 0x180F), (0x200B, 0x200B),
   (0x2060, 0x2060), (0x2064, 0x2064), (0xFE00, 0xFE0F), (0xFEFF, 0xFEFF), (0xE0100, 0xE01EF)]

/-- Characters beyond ASCII that no name holds: controls, blanks, marks of direction and characters
for private use. -/
def excludedFromName : List (Nat × Nat) :=
  [(0x80, 0xA0), (0x1680, 0x1680), (0x2000, 0x200A), (0x200C, 0x200F), (0x2028, 0x202F),
   (0x205F, 0x205F), (0x2061, 0x2063), (0x2065, 0x206F), (0x3000, 0x3000), (0xE000, 0xF8FF),
   (0xFDD0, 0xFDEF), (0xFFF0, 0xFFFF), (0xE0000, 0xE00FF), (0xE01F0, 0x10FFFF)]

/-- What a character becomes in a name, if it may stand in one: characters that do not count are left out, and
full-width forms become plain ones. This is UTS 46 in part. Other compatibility forms and the parts of composed
characters are kept as they are, and not all characters that it bars are known here. -/
def mapInName? (c : Char) : Option (List Char) :=
  if c.toNat < 0x80 then (if allowedInName c then some [c.toLower] else none)
  else if c.toNat = 0x3002 ∨ c.toNat = 0xFF0E ∨ c.toNat = 0xFF61 then some ['.']
  else if 0xFF01 ≤ c.toNat ∧ c.toNat ≤ 0xFF5E then
    let plain := Char.ofNat (c.toNat - 0xFEE0)
    if allowedInName plain then some [plain.toLower] else none
  else if inRanges ignoredInName c then some []
  else if inRanges excludedFromName c then none
  else some (lowerChar c)

def isAscii (cs : List Char) : Bool := cs.all (·.toNat < 0x80)

/-- A label in ASCII. One that is written so already must stand for a label beyond ASCII. -/
def asciiLabel? (cs : List Char) : Option (List Char) :=
  match cs with
  | 'x' :: 'n' :: '-' :: '-' :: rest =>
    (Punycode.decode? rest).bind fun label =>
      if !isAscii label && label.all (fun c => mapInName? c == some [c]) then some cs else none
  | _ => if isAscii cs then some cs else some ("xn--".toList ++ Punycode.encode cs)

/-- A name in ASCII, if it can be the name of a host. -/
def asciiName? (cs : List Char) : Option (List Char) :=
  (cs.mapM mapInName?).bind fun mapped =>
    ((splitAt (· = '.') mapped.flatten).mapM asciiLabel?).map (List.intercalate ['.'])

end HubConsole.Url
