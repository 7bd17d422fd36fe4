import HubConsole.Text.Hex

namespace HubConsole.Url

open HubConsole.Text

/-- What a part of an address may not hold as it is, besides controls and all that is beyond ASCII. -/
structure Reserved where
  chars : List Char

namespace Reserved

def fragment : Reserved := ⟨" \"<>`".toList⟩

def path : Reserved := ⟨fragment.chars ++ "#?\x7b\x7d".toList⟩

/-- For one segment, taken literally: what would end it or be read as an escape is reserved too. -/
def segment : Reserved := ⟨path.chars ++ "/%\\".toList⟩

def userinfo : Reserved := ⟨path.chars ++ "/:;=@[\\]^|".toList⟩

def query : Reserved := ⟨" \"#<>\x27".toList⟩

/-- Nothing but controls and what is beyond ASCII. -/
def controls : Reserved := ⟨[]⟩

end Reserved

def escapeByte (b : UInt8) : List Char :=
  ['%', capitalHexDigit (b.toNat / 16), capitalHexDigit (b.toNat % 16)]

def escapeChar (r : Reserved) (c : Char) : List Char :=
  if c.toNat < 0x20 ∨ 0x7F ≤ c.toNat ∨ c ∈ r.chars then
    (String.utf8EncodeChar c).flatMap escapeByte
  else [c]

def escape (r : Reserved) (cs : List Char) : List Char := cs.flatMap (escapeChar r)

/-- The byte of two hexadecimal digits. -/
def byteOf? (high low : Char) : Option UInt8 :=
  (hexValue? high).bind fun h => (hexValue? low).map fun l => UInt8.ofNat (16 * h + l)

/-- The bytes of a text whose escapes are undone; a `%` that starts none stands for itself. -/
def unescape : List Char → List UInt8
  | '%' :: high :: low :: cs =>
    match byteOf? high low with
    | some b => b :: unescape cs
    | none => String.utf8EncodeChar '%' ++ unescape (high :: low :: cs)
  | c :: cs => String.utf8EncodeChar c ++ unescape cs
  | [] => []

/-- Bytes as text, if they are well-formed UTF-8. -/
def textOf? (bytes : List UInt8) : Option (List Char) :=
  (String.fromUTF8? (ByteArray.mk bytes.toArray)).map (·.toList)

end HubConsole.Url
