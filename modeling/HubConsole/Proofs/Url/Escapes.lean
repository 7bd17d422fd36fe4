import HubConsole.Proofs.Text.Utf8
import HubConsole.Url.Percent

namespace HubConsole.Url

open HubConsole.Text

theorem textOf?_utf8 (cs : List Char) : textOf? (utf8 cs) = some cs := by
  have hbytes : ByteArray.mk (utf8 cs).toArray = cs.utf8Encode := by
    rw [List.utf8Encode, ByteArray.ext_iff, List.data_toByteArray, utf8]
  have htext : String.fromUTF8 cs.utf8Encode ByteArray.isValidUTF8_utf8Encode = String.ofList cs := rfl
  rw [textOf?, hbytes, String.fromUTF8?, dif_pos ByteArray.isValidUTF8_utf8Encode, htext, Option.map_some,
    String.toList_ofList]

theorem byteOf?_digits (b : UInt8) :
    byteOf? (capitalHexDigit (b.toNat / 16)) (capitalHexDigit (b.toNat % 16)) = some b := by
  have hb := b.toNat_lt
  rw [byteOf?, hexValue?_capitalHexDigit (by omega), hexValue?_capitalHexDigit (Nat.mod_lt _ (by decide)),
    Option.bind_some, Option.map_some, Nat.div_add_mod, UInt8.ofNat_toNat]

theorem unescape_escapeByte (b : UInt8) (rest : List Char) :
    unescape (escapeByte b ++ rest) = b :: unescape rest := by
  simp only [escapeByte, List.cons_append, List.nil_append, unescape, byteOf?_digits]

theorem unescape_flatMap_escapeByte (bs : List UInt8) (rest : List Char) :
    unescape (bs.flatMap escapeByte ++ rest) = bs ++ unescape rest := by
  induction bs with
  | nil => rfl
  | cons b bs ih => rw [List.flatMap_cons, List.append_assoc, unescape_escapeByte, ih, List.cons_append]

theorem unescape_cons_of_ne {c : Char} (h : c ≠ '%') (cs : List Char) :
    unescape (c :: cs) = String.utf8EncodeChar c ++ unescape cs := by
  rw [unescape.eq_def (c :: cs)]
  split <;> simp_all

/-- A character that may stand as it is. -/
def Reserved.Keeps (r : Reserved) (c : Char) : Prop := ¬(c.toNat < 0x20 ∨ 0x7F ≤ c.toNat ∨ c ∈ r.chars)

instance (r : Reserved) (c : Char) : Decidable (r.Keeps c) :=
  inferInstanceAs (Decidable ¬(c.toNat < 0x20 ∨ 0x7F ≤ c.toNat ∨ c ∈ r.chars))

theorem escapeChar_of_keeps {r : Reserved} {c : Char} (h : r.Keeps c) : escapeChar r c = [c] := if_neg h

theorem escapeChar_of_not_keeps {r : Reserved} {c : Char} (h : ¬r.Keeps c) :
    escapeChar r c = (String.utf8EncodeChar c).flatMap escapeByte := if_pos (Classical.not_not.mp h)

theorem unescape_escape (r : Reserved) (hr : '%' ∈ r.chars) (cs : List Char) :
    unescape (escape r cs) = utf8 cs := by
  induction cs with
  | nil => rfl
  | cons c cs ih =>
    rw [escape] at ih
    rw [escape, utf8, List.flatMap_cons, List.flatMap_cons]
    by_cases hc : r.Keeps c
    · have hne : c ≠ '%' := by
        rintro rfl
        exact hc (.inr (.inr hr))
      rw [escapeChar_of_keeps hc, List.singleton_append, unescape_cons_of_ne hne, ih, utf8]
    · rw [escapeChar_of_not_keeps hc, unescape_flatMap_escapeByte, ih, utf8]

/-- The characters of escapes. -/
def escapeMarks : List Char := "%0123456789ABCDEF".toList

theorem mem_escapeByte (b : UInt8) (c : Char) (h : c ∈ escapeByte b) : c ∈ escapeMarks := by
  have hdigit : ∀ {d : Nat}, d < 16 → capitalHexDigit d ∈ escapeMarks := by decide
  have hb := b.toNat_lt
  have hhigh : b.toNat / 16 < 16 := by omega
  have hlow : b.toNat % 16 < 16 := Nat.mod_lt _ (by decide)
  simp only [escapeByte, List.mem_cons, List.not_mem_nil, or_false] at h
  rcases h with rfl | rfl | rfl
  · decide
  · exact hdigit hhigh
  · exact hdigit hlow

theorem mem_escape (r : Reserved) (cs : List Char) (c : Char) (h : c ∈ escape r cs) :
    c ∈ escapeMarks ∨ c ∈ cs ∧ r.Keeps c := by
  obtain ⟨d, hd, hc⟩ := List.mem_flatMap.mp h
  by_cases hkept : r.Keeps d
  · rw [escapeChar_of_keeps hkept, List.mem_singleton] at hc
    subst hc
    exact .inr ⟨hd, hkept⟩
  · rw [escapeChar_of_not_keeps hkept] at hc
    obtain ⟨b, -, hc⟩ := List.mem_flatMap.mp hc
    exact .inl (mem_escapeByte b c hc)

/-- Escaped text may stand as it is wherever no more is reserved, as long as escapes may. -/
theorem keeps_of_mem_escape (r s : Reserved) (hs : ∀ c ∈ s.chars, c ∈ r.chars)
    (hmarks : ∀ c ∈ escapeMarks, s.Keeps c) (cs : List Char) : ∀ c ∈ escape r cs, s.Keeps c := by
  intro c hc
  rcases mem_escape r cs c hc with hmark | ⟨-, hkept⟩
  · exact hmarks c hmark
  · exact fun hreserved => hkept (hreserved.imp_right (Or.imp_right (hs c)))

theorem escape_of_keeps (r : Reserved) (cs : List Char) (h : ∀ c ∈ cs, r.Keeps c) : escape r cs = cs := by
  induction cs with
  | nil => rfl
  | cons c cs ih =>
    obtain ⟨hc, hcs⟩ := List.forall_mem_cons.mp h
    have hrest := ih hcs
    rw [escape] at hrest ⊢
    rw [List.flatMap_cons, escapeChar_of_keeps hc, hrest, List.singleton_append]

end HubConsole.Url
