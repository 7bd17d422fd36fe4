import Mathlib.Tactic.SplitIfs

namespace HubConsole.Text

/-- The bytes of a text. -/
def utf8 (cs : List Char) : List UInt8 := cs.flatMap String.utf8EncodeChar

/-- The first bytes in which two characters differ decide, whatever follows them. -/
theorem utf8EncodeChar_append_lt (c d : Char) (h : c < d) (xs ys : List UInt8) :
    String.utf8EncodeChar c ++ xs < String.utf8EncodeChar d ++ ys := by
  have hlt : c.val.toNat < d.val.toNat := h
  have hmax : d.val.toNat < 0x110000 := by
    rcases d.valid with hd | hd
    · exact Nat.lt_trans hd (by decide)
    · exact hd.2
  simp only [String.utf8EncodeChar]
  generalize c.val.toNat = m at hlt
  generalize d.val.toNat = n at hlt hmax
  -- One case for each pair of lengths; in all of them the bytes are digits to the base 64 with marks.
  split_ifs <;>
    simp only [List.cons_append, List.nil_append, List.cons_lt_cons_iff, UInt8.lt_iff_toNat_lt,
      UInt8.toNat_ofNat', ← UInt8.toNat_inj] <;>
    simp (disch := omega) only [Nat.mod_eq_of_lt] <;>
    omega

theorem utf8_lt_utf8 (cs ds : List Char) (h : cs < ds) : utf8 cs < utf8 ds := by
  induction h with
  | @nil d ds =>
    obtain ⟨b, bs, hbytes⟩ := List.exists_cons_of_ne_nil (String.utf8EncodeChar_ne_nil (c := d))
    rw [utf8, utf8, List.flatMap_nil, List.flatMap_cons, hbytes]
    exact List.nil_lt_cons _ _
  | rel h =>
    rw [utf8, utf8, List.flatMap_cons, List.flatMap_cons]
    exact utf8EncodeChar_append_lt _ _ h _ _
  | cons _ ih =>
    rw [utf8, utf8, List.flatMap_cons, List.flatMap_cons]
    exact List.append_left_lt ih

end HubConsole.Text
