import HubConsole.Proofs.Json.Numerals
import Mathlib.Tactic.ByContra
import Mathlib.Tactic.SplitIfs

namespace HubConsole.Text

/-- Only zero is written with a zero in front. -/
theorem exists_digits_eq_cons (n : Nat) :
    ∃ c cs, digits n = c :: cs ∧ c.isDigit ∧ cs.all Char.isDigit ∧ (c = '0' → n = 0) := by
  induction n using digits.induct with
  | case1 n h =>
    rw [digits, if_pos h]
    refine ⟨digitChar n, [], rfl, isDigit_digitChar h, rfl, ?_⟩
    intro hzero
    have hvalue := digitValue_digitChar h
    rw [hzero] at hvalue
    exact hvalue.symm
  | case2 n h ih =>
    obtain ⟨c, cs, hcons, hc, hcs, hzero⟩ := ih
    have hlast := isDigit_digitChar (Nat.mod_lt n (show 0 < 10 by decide))
    rw [digits, if_neg h, hcons]
    refine ⟨c, cs ++ [digitChar (n % 10)], rfl, hc, ?_, ?_⟩
    · simp only [List.all_append, hcs, List.all_cons, hlast, List.all_nil, Bool.and_self]
    · intro h0
      have := hzero h0
      omega

end HubConsole.Text

namespace HubConsole.Double

open HubConsole.Json HubConsole.Text

theorem unitsAt_pos (rank : Nat) (h : rank ≠ 0) : 0 < unitsAt rank := by
  unfold unitsAt
  split
  · omega
  · have hbase := zero_lt_twoTo 52
    exact Nat.mul_pos (by omega) (zero_lt_twoTo _)

/-- Zero rounds to no double but zero. -/
theorem digits_pos_of_roundsTo (d : Decimal) (rank : Nat) (hrank : rank ≠ 0)
    (h : d.roundsTo rank = true) : 0 < d.digits := by
  by_contra hzero
  have hlow : 0 < (unitsAt (rank - 1) + unitsAt rank) * d.ratio.2 :=
    Nat.mul_pos (by have := unitsAt_pos rank hrank; omega) (zero_lt_tenTo _)
  have htwice : 2 * d.ratio.1 * twoTo 1074 = 0 := by
    have hdigits : d.digits = 0 := by omega
    simp [Decimal.ratio, hdigits]
  unfold Decimal.roundsTo at h
  simp only [htwice] at h
  split at h <;> simp only [Bool.and_eq_true, decide_eq_true_eq] at h <;> omega

theorem div_le_roundHalfEven (num den : Nat) : num / den ≤ roundHalfEven num den := by
  unfold roundHalfEven
  dsimp only
  split_ifs <;> omega

theorem digits_pos_of_onGrid (rank : Nat) (k : Int) (d : Decimal) (hrank : rank ≠ 0)
    (h : onGrid rank k = some d) : 0 < d.digits := by
  unfold onGrid at h
  dsimp only at h
  generalize unitsAt rank * tenTo (-k).toNat = num at h
  generalize twoTo 1074 * tenTo k.toNat = den at h
  split at h
  · next hbelow habove =>
    obtain rfl := Option.some.inj h
    have hpos := digits_pos_of_roundsTo _ rank hrank hbelow
    exact Nat.lt_of_lt_of_le hpos (div_le_roundHalfEven _ _)
  · next hbelow habove =>
    obtain rfl := Option.some.inj h
    exact digits_pos_of_roundsTo _ rank hrank hbelow
  · next hbelow habove =>
    obtain rfl := Option.some.inj h
    exact Nat.succ_pos _
  · cases h

theorem digits_pos_of_search (rank steps : Nat) (k : Int) (hrank : rank ≠ 0) :
    0 < (search rank steps k).digits := by
  induction steps generalizing k with
  | zero =>
    have hpow : ∀ n, 0 < Nat.pow 5 n := fun n => Nat.pow_pos (by decide)
    exact Nat.mul_pos (unitsAt_pos rank hrank) (hpow 1074)
  | succ steps ih =>
    unfold search
    split
    · next d hd => exact digits_pos_of_onGrid rank k d hrank hd
    · exact ih (k - 1)

/-- The shortest decimal has no digits only if it is plain zero. -/
theorem shortest_eq_zero (x : Double) (h : x.shortest.digits = 0) : x.shortest = ⟨0, 0⟩ := by
  unfold shortest at h ⊢
  split at h
  · next hzero => rw [if_pos hzero]
  · next hrank =>
    have hpos := digits_pos_of_search x.rank 24 (topExponent x.rank) hrank
    omega

/-- A point among the digits has digits after it. -/
theorem drop_places_ne_nil (ds : List Char) (places : Nat) (h : 0 < places) (hlt : places < ds.length) :
    ds.drop (ds.length - places) ≠ [] := by
  rw [Ne, List.drop_eq_nil_iff]
  omega

/-- How a decimal is spelled in documents. -/
def spelling (negative : Bool) (d : Decimal) : Numeral :=
  let ds := digits d.digits
  let e := d.exponent + ds.length - 1
  let places := (-d.exponent).toNat
  if documentLayout.plain e then
    if 0 ≤ d.exponent then ⟨negative, ds ++ zeros d.exponent.toNat, ['0'], none⟩
    else if places < ds.length then
      ⟨negative, ds.take (ds.length - places), ds.drop (ds.length - places), none⟩
    else ⟨negative, ['0'], zeros (places - ds.length) ++ ds, none⟩
  else ⟨negative, ds.take 1, ds.drop 1, some (decide (e < 0), digits e.natAbs)⟩

def numeral (x : Double) : Numeral := spelling x.negative x.shortest

theorem spell_spelling (negative : Bool) (d : Decimal) :
    (spelling negative d).spell =
      (if negative then ['-'] else []) ++ sizeText documentLayout d := by
  obtain ⟨c, cs, hds, -⟩ := exists_digits_eq_cons d.digits
  have hne : digits d.digits ≠ [] := by
    rw [hds]
    exact List.cons_ne_nil c cs
  by_cases hplain : documentLayout.plain (d.exponent + (digits d.digits).length - 1) = true
  · by_cases hwhole : 0 ≤ d.exponent
    · simp [spelling, sizeText, plainText, Numeral.spell, hplain, hwhole]
      rfl
    · by_cases hplaces : (-d.exponent).toNat < (digits d.digits).length
      · have hdrop := drop_places_ne_nil _ _ (by omega) hplaces
        simp only [spelling, sizeText, plainText, Numeral.spell, hplain, hwhole, hplaces, if_true,
          if_false, hdrop, List.append_nil, List.append_assoc]
      · simp [spelling, sizeText, plainText, Numeral.spell, hplain, hwhole, hplaces, hne]
  · simp only [spelling, sizeText, scientificText, Numeral.spell, hplain]
    rw [hds]
    cases cs with
    | nil => simp
    | cons d more => simp

theorem text_eq_spell (x : Double) : x.text documentLayout = x.numeral.spell :=
  (spell_spelling x.negative x.shortest).symm

theorem all_isDigit_zeros (n : Nat) : (zeros n).all Char.isDigit := by
  rw [List.all_eq_true]
  intro c hc
  rw [List.eq_of_mem_replicate hc]
  rfl

theorem spelling_wellFormed (negative : Bool) (d : Decimal) (h : d.digits = 0 → d.exponent = 0) :
    (spelling negative d).WellFormed := by
  obtain ⟨c, cs, hds, hc, hcs, hzero⟩ := exists_digits_eq_cons d.digits
  have hall := all_isDigit_digits d.digits
  have hlast (k : Nat) : ((digits d.digits).drop k).all Char.isDigit := by
    rw [List.all_eq_true] at hall ⊢
    exact fun c hc => hall c (List.mem_of_mem_drop hc)
  have hnone : ∀ small ds, (none : Option (Bool × List Char)) = some (small, ds) →
      ds ≠ [] ∧ ds.all Char.isDigit := by
    intro small ds hsome
    cases hsome
  unfold spelling
  dsimp only
  split_ifs with hplain hwhole hplaces
  · refine ⟨⟨c, cs ++ zeros d.exponent.toNat, ?_, hc, ?_, ?_⟩, rfl, hnone⟩
    · rw [hds, List.cons_append]
    · rw [List.all_append, hcs, all_isDigit_zeros, Bool.and_self]
    · intro h0
      have hdigits := hzero h0
      rw [hdigits, digits, if_pos (by decide)] at hds
      obtain ⟨-, rfl⟩ := List.cons.inj hds
      rw [h hdigits]
      rfl
  · obtain ⟨k, hk⟩ : ∃ k, (digits d.digits).length - (-d.exponent).toNat = k + 1 :=
      Nat.exists_eq_succ_of_ne_zero (by omega)
    refine ⟨⟨c, cs.take k, ?_, hc, ?_, ?_⟩, hlast _, hnone⟩
    · rw [hk, hds, List.take_succ_cons]
    · rw [List.all_eq_true] at hcs ⊢
      exact fun c hc => hcs c (List.mem_of_mem_take hc)
    · intro h0
      have := h (hzero h0)
      omega
  · refine ⟨⟨'0', [], rfl, rfl, rfl, fun _ => rfl⟩, ?_, hnone⟩
    rw [List.all_append, all_isDigit_zeros, hall, Bool.and_self]
  · refine ⟨⟨c, [], ?_, hc, rfl, fun _ => rfl⟩, hlast 1, ?_⟩
    · rw [hds, List.take_succ_cons, List.take_zero]
    · intro small ds hsome
      obtain ⟨-, rfl⟩ := Prod.mk.inj (Option.some.inj hsome)
      exact ⟨digits_ne_nil _, all_isDigit_digits _⟩

/-- The text of a double has a fraction or an exponent. -/
theorem isWhole_spelling (negative : Bool) (d : Decimal) : (spelling negative d).isWhole = false := by
  have hne := digits_ne_nil d.digits
  unfold spelling Numeral.isWhole
  dsimp only
  split_ifs with hplain hwhole hplaces
  · rfl
  · have hdrop := drop_places_ne_nil _ _ (by omega) hplaces
    simp [hdrop]
  · simp [hne]
  · simp

theorem numeral_wellFormed (x : Double) : x.numeral.WellFormed := by
  refine spelling_wellFormed x.negative x.shortest ?_
  intro h
  rw [shortest_eq_zero x h]

theorem toNumber?_numeral (x : Double) :
    x.numeral.toNumber? = x.numeral.toDouble?.map .float := by
  unfold Numeral.toNumber?
  rw [dif_neg]
  rw [numeral, isWhole_spelling]
  simp

end HubConsole.Double
