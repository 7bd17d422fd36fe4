import HubConsole.Proofs.Json.Numerals
import Mathlib.Data.List.Forall2

namespace HubConsole.Json

open HubConsole.Text

/-- What a single piece of a string spells, apart from halves of surrogate pairs. -/
def Piece.Spells (p : Piece) (c : Char) : Prop := p = .char c ∨ (p = .unit c.toNat ∧ c.toNat < 0x20)

theorem joinPieces_unit (n : Nat) (ps : List Piece) (h : n < 0x20) :
    joinPieces (.unit n :: ps) = (joinPieces ps).map (Char.ofNat n :: ·) := by
  have hhigh : isHigh n = false := by
    simp only [isHigh, Bool.and_eq_false_iff, decide_eq_false_iff_not]
    omega
  have hlow : isLow n = false := by
    simp only [isLow, Bool.and_eq_false_iff, decide_eq_false_iff_not]
    omega
  cases ps with
  | nil => simp [joinPieces, hhigh, hlow]
  | cons p ps => cases p <;> simp [joinPieces, hhigh, hlow]

theorem joinPieces_of_spells (ps : List Piece) (cs : List Char) (h : List.Forall₂ Piece.Spells ps cs) :
    joinPieces ps = some cs := by
  induction h with
  | nil => rfl
  | @cons p c ps cs hp _ ih =>
    rcases hp with rfl | ⟨rfl, hsmall⟩
    · rw [joinPieces, ih, Option.map_some]
    · rw [joinPieces_unit c.toNat ps hsmall, ih, Option.map_some, Char.ofNat_toNat]

theorem hexValue?_hexDigit : ∀ {d : Nat}, d < 16 → hexValue? (hexDigit d) = some d := by decide

namespace Mode

theorem tokens_unit_more (before : List Piece) (missing value h : Nat) (c : Char) (rest : List Char)
    (hc : hexValue? c = some h) :
    (Mode.unit before (missing + 2) value).tokens (c :: rest) =
      (Mode.unit before (missing + 1) (16 * value + h)).tokens rest := by
  rw [tokens, step, hc]
  rfl

theorem tokens_unit_last (before : List Piece) (value h : Nat) (c : Char) (rest : List Char)
    (hc : hexValue? c = some h) :
    (Mode.unit before 1 value).tokens (c :: rest) =
      (Mode.text (.unit (16 * value + h) :: before)).tokens rest := by
  rw [tokens, step, hc]
  rfl

/-- An escape by number whose first two digits are zeros. -/
theorem tokens_unit (before : List Piece) (n : Nat) (rest : List Char) (h : n < 0x20) :
    (Mode.text before).tokens
        ('\\' :: 'u' :: '0' :: '0' :: hexDigit (n / 16) :: hexDigit (n % 16) :: rest) =
      (Mode.text (.unit n :: before)).tokens rest := by
  have hfirst : hexValue? (hexDigit (n / 16)) = some (n / 16) := hexValue?_hexDigit (by omega)
  have hsecond : hexValue? (hexDigit (n % 16)) = some (n % 16) := hexValue?_hexDigit (by omega)
  have hzero : hexValue? '0' = some 0 := by decide
  have hvalue : 16 * (16 * (16 * (16 * 0 + 0) + 0) + n / 16) + n % 16 = n := by omega
  have hstart (cs : List Char) :
      (Mode.text before).tokens ('\\' :: 'u' :: cs) = (Mode.unit before 4 0).tokens cs := rfl
  rw [hstart, tokens_unit_more before 2 0 0 _ _ hzero, tokens_unit_more before 1 _ 0 _ _ hzero,
    tokens_unit_more before 0 _ _ _ _ hfirst, tokens_unit_last before _ _ _ _ hsecond, hvalue]

/-- What a character is written as is read as a piece that spells it. -/
theorem tokens_escapeChar (before : List Piece) (c : Char) (rest : List Char) :
    ∃ p, Piece.Spells p c ∧ (Mode.text before).tokens (escapeChar c ++ rest) =
      (Mode.text (p :: before)).tokens rest := by
  unfold escapeChar
  split_ifs with hquote hslash hline hreturn htab hback hfeed hcontrol
  · subst hquote
    exact ⟨.char '"', .inl rfl, rfl⟩
  · subst hslash
    exact ⟨.char '\\', .inl rfl, rfl⟩
  · subst hline
    exact ⟨.char '\n', .inl rfl, rfl⟩
  · subst hreturn
    exact ⟨.char '\r', .inl rfl, rfl⟩
  · subst htab
    exact ⟨.char '\t', .inl rfl, rfl⟩
  · have hc : c = Char.ofNat 0x08 := by rw [← hback, Char.ofNat_toNat]
    subst hc
    exact ⟨.char (Char.ofNat 0x08), .inl rfl, rfl⟩
  · have hc : c = Char.ofNat 0x0C := by rw [← hfeed, Char.ofNat_toNat]
    subst hc
    exact ⟨.char (Char.ofNat 0x0C), .inl rfl, rfl⟩
  · exact ⟨.unit c.toNat, .inr ⟨rfl, hcontrol⟩, tokens_unit before c.toNat rest hcontrol⟩
  · refine ⟨.char c, .inl rfl, ?_⟩
    rw [List.singleton_append, tokens, step, if_neg hquote, if_neg hslash, if_neg hcontrol]
    rfl

theorem tokens_escaped (cs : List Char) (before : List Piece) (rest : List Char) :
    ∃ ps, List.Forall₂ Piece.Spells ps cs ∧
      (Mode.text before).tokens (cs.flatMap escapeChar ++ rest) =
        (Mode.text (ps.reverse ++ before)).tokens rest := by
  induction cs generalizing before with
  | nil => exact ⟨[], .nil, rfl⟩
  | cons c cs ih =>
    obtain ⟨p, hp, hfirst⟩ := tokens_escapeChar before c (cs.flatMap escapeChar ++ rest)
    obtain ⟨ps, hps, hrest⟩ := ih (p :: before)
    refine ⟨p :: ps, .cons hp hps, ?_⟩
    rw [List.flatMap_cons, List.append_assoc, hfirst, hrest, List.reverse_cons, List.append_assoc,
      List.singleton_append]

/-- A written string is one token. -/
theorem tokens_writeString (s : String) (rest : List Char) :
    Mode.between.tokens (writeString s ++ rest) = .string (some s) :: Mode.between.tokens rest := by
  obtain ⟨ps, hps, htokens⟩ := tokens_escaped s.toList [] ('"' :: rest)
  have hjoin := joinPieces_of_spells ps s.toList hps
  have hstart : Mode.between.tokens (writeString s ++ rest) =
      (Mode.text []).tokens (s.toList.flatMap escapeChar ++ '"' :: rest) := by
    rw [writeString, List.cons_append, List.append_assoc]
    rfl
  rw [hstart, htokens, tokens, step, if_pos rfl, List.append_nil, List.reverse_reverse, hjoin,
    Option.map_some, String.ofList_toList]
  rfl

end Mode
end HubConsole.Json
