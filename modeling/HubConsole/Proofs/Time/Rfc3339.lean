import HubConsole.Proofs.Json.Lawful
import HubConsole.Proofs.Text.Digits
import HubConsole.Proofs.Time.Calendar
import HubConsole.Time.Wire
import Mathlib.Data.List.Induction
import Mathlib.Data.List.TakeWhile

namespace HubConsole.Time

open HubConsole.Text

/-- The text that follows does not go on with a digit. -/
def Stops (rest : List Char) : Prop := ∀ c ∈ rest.head?, c.isDigit = false

theorem digitsUpTo_append (most : Nat) (ds rest : List Char) (hne : ds ≠ []) (hall : ds.all Char.isDigit)
    (hlength : ds.length ≤ most) (hend : ds.length = most ∨ Stops rest) :
    digitsUpTo most (ds ++ rest) = some (valueOf ds, rest) := by
  have hnone : (rest.take (most - ds.length)).takeWhile Char.isDigit = [] := by
    rcases hend with hfull | hstop
    · rw [hfull, Nat.sub_self, List.take_zero, List.takeWhile_nil]
    · cases rest with
      | nil => rw [List.take_nil, List.takeWhile_nil]
      | cons c rest =>
        have hc : c.isDigit = false := hstop c rfl
        cases most - ds.length with
        | zero => rfl
        | succ k => rw [List.take_succ_cons, List.takeWhile_cons, hc]; rfl
  have htaken : ((ds ++ rest).take most).takeWhile Char.isDigit = ds := by
    rw [List.take_append, List.take_of_length_le hlength,
      List.takeWhile_append_of_pos (List.all_eq_true.mp hall), hnone, List.append_nil]
  have hempty : ds.isEmpty = false := List.isEmpty_eq_false_iff.mpr hne
  simp only [digitsUpTo, htaken, hempty, List.drop_left, Bool.false_eq_true, if_false]

namespace Instant

theorem all_isDigit_padded (width n : Nat) : (padded width n).all Char.isDigit := by
  rw [padded, List.all_append, all_isDigit_digits, Bool.and_true, List.all_eq_true]
  intro c hc
  rw [List.eq_of_mem_replicate hc]
  rfl

theorem padded_ne_nil (width n : Nat) : padded width n ≠ [] :=
  List.append_ne_nil_of_right_ne_nil _ (digits_ne_nil n)

theorem valueOf_padded (width n : Nat) : valueOf (padded width n) = n := by
  rw [padded, valueOf_zeros, valueOf_digits]

theorem length_padded (k n : Nat) (h : n < tenTo (k + 1)) : (padded (k + 1) n).length = k + 1 := by
  have hle := length_digits_le n k h
  rw [padded, List.length_append, List.length_replicate]
  omega

/-- A number of a fixed width is read whatever follows. -/
theorem digitsUpTo_padded (k n : Nat) (rest : List Char) (h : n < tenTo (k + 1)) :
    digitsUpTo (k + 1) (padded (k + 1) n ++ rest) = some (n, rest) := by
  have hlength := length_padded k n h
  rw [digitsUpTo_append _ _ _ (padded_ne_nil _ n) (all_isDigit_padded _ n) hlength.le (.inl hlength),
    valueOf_padded]

theorem allDigits_padded (width n : Nat) (rest : List Char) (hstop : Stops rest) :
    allDigits (padded width n ++ rest) = some (n, rest) := by
  rw [allDigits, digitsUpTo_append _ _ _ (padded_ne_nil _ n) (all_isDigit_padded _ n) (by simp)
    (.inr hstop), valueOf_padded]

theorem skipBlanks_cons (c : Char) (cs : List Char) (h : isBlank c = false) :
    skipBlanks (c :: cs) = c :: cs := by
  rw [skipBlanks, List.dropWhile_cons, h]
  rfl

theorem exists_padded_eq_cons (width n : Nat) :
    ∃ c cs, padded width n = c :: cs ∧ c.isDigit := by
  obtain ⟨c, cs, hcons⟩ := List.exists_cons_of_ne_nil (padded_ne_nil width n)
  have hall := all_isDigit_padded width n
  rw [hcons, List.all_cons, Bool.and_eq_true] at hall
  exact ⟨c, cs, hcons, hall.1⟩

theorem skipBlanks_padded (width n : Nat) (rest : List Char) :
    skipBlanks (padded width n ++ rest) = padded width n ++ rest := by
  obtain ⟨c, cs, hcons, hc⟩ := exists_padded_eq_cons width n
  rw [hcons, List.cons_append, skipBlanks_cons _ _ (isBlank_of_isDigit c hc)]

theorem twoDigits_padded (n : Nat) (rest : List Char) (h : n < 100) :
    twoDigits (padded 2 n ++ rest) = some (n, rest) := by
  rw [twoDigits, skipBlanks_padded]
  exact digitsUpTo_padded 1 n rest h

theorem expect_cons (c : Char) (rest : List Char) (h : isBlank c = false) :
    expect c (c :: rest) = some rest := by
  rw [expect, skipBlanks_cons c rest h]
  exact if_pos rfl

theorem readYear_yearText (year : Int) (rest : List Char) (hstop : Stops rest) :
    readYear (yearText year ++ rest) = some (year, rest) := by
  unfold yearText
  split
  · next hplain =>
    obtain ⟨c, cs, hcons, hc⟩ := exists_padded_eq_cons 4 year.toNat
    have hread := digitsUpTo_padded 3 year.toNat rest (by rw [show tenTo 4 = 10000 from rfl]; omega)
    rw [readYear, skipBlanks_padded]
    split
    · next more heq =>
      rw [hcons, List.cons_append] at heq
      obtain ⟨rfl, -⟩ := List.cons.inj heq
      cases hc
    · next more heq =>
      rw [hcons, List.cons_append] at heq
      obtain ⟨rfl, -⟩ := List.cons.inj heq
      cases hc
    · rw [hread, Option.map_some, Int.toNat_of_nonneg hplain.1]
  · split
    · next hnegative =>
      have hvalue : -(year.natAbs : Int) = year := by omega
      rw [List.cons_append, readYear, skipBlanks_cons _ _ rfl]
      simp only [allDigits_padded 4 year.natAbs rest hstop, Option.map_some, hvalue]
    · next hnegative =>
      have hvalue : (year.natAbs : Int) = year := by omega
      rw [List.cons_append, readYear, skipBlanks_cons _ _ rfl]
      simp only [allDigits_padded 4 year.natAbs rest hstop, Option.map_some, hvalue]

theorem readDate_append (date : Date) (rest : List Char) (h : date.isValid) :
    readDate (yearText date.year ++
      '-' :: (padded 2 date.month ++ '-' :: (padded 2 date.day ++ rest))) = some (date, rest) := by
  have hvalid := h
  simp only [Date.isValid, Bool.and_eq_true, decide_eq_true_eq] at hvalid
  obtain ⟨⟨⟨-, hmonth⟩, -⟩, hday⟩ := hvalid
  have hdays : daysInMonth date.year date.month ≤ 31 := by
    unfold daysInMonth
    split_ifs <;> omega
  have hyear := readYear_yearText date.year
    ('-' :: (padded 2 date.month ++ '-' :: (padded 2 date.day ++ rest))) (by simp [Stops])
  simp only [readDate, hyear, Option.bind_eq_bind, Option.bind_some, expect_cons '-' _ rfl,
    twoDigits_padded date.month _ (show date.month < 100 by omega),
    twoDigits_padded date.day _ (show date.day < 100 by omega), h, if_true]

theorem readFraction_append (nanos : Nat) (h : nanos < 1000000000) :
    readFraction (fractionText nanos ++ ['Z']) = some (nanos, ['Z']) := by
  have hpadded (k n : Nat) (hn : n < tenTo (k + 1)) (hk : k + 1 ≤ 9) :
      readFraction ('.' :: padded (k + 1) n ++ ['Z']) = some (n * tenTo (9 - (k + 1)), ['Z']) := by
    have hlength := length_padded k n hn
    have hread : digitsUpTo 9 (padded (k + 1) n ++ ['Z']) = some (n, ['Z']) := by
      rw [digitsUpTo_append _ _ _ (padded_ne_nil _ n) (all_isDigit_padded _ n) (hlength.trans_le hk)
        (.inr (by simp [Stops, Char.isDigit])), valueOf_padded]
    have hcount : (padded (k + 1) n ++ ['Z']).length - ['Z'].length = k + 1 := by
      rw [List.length_append, Nat.add_sub_cancel, hlength]
    simp only [List.cons_append, readFraction, hread, hcount]
    rfl
  unfold fractionText
  split_ifs with hzero hmillis hmicros
  · subst hzero
    rfl
  · rw [hpadded 2 _ (by rw [show tenTo 3 = 1000 from rfl]; omega) (by decide),
      show tenTo (9 - 3) = 1000000 from rfl, Nat.div_mul_cancel (Nat.dvd_of_mod_eq_zero hmillis)]
  · rw [hpadded 5 _ (by rw [show tenTo 6 = 1000000 from rfl]; omega) (by decide),
      show tenTo (9 - 6) = 1000 from rfl, Nat.div_mul_cancel (Nat.dvd_of_mod_eq_zero hmicros)]
  · rw [hpadded 8 _ h (by decide)]
    exact congrArg (fun n => some (n, ['Z'])) (Nat.mul_one nanos)

theorem readClock_append (hour minute second nanos : Nat) (hhour : hour < 24) (hminute : minute < 60)
    (hsecond : second ≤ 60) (hnanos : nanos < 1000000000) :
    readClock (padded 2 hour ++ ':' :: (padded 2 minute ++
      ':' :: (padded 2 second ++ (fractionText nanos ++ ['Z'])))) =
      some (if second = 60 then (hour * 3600 + minute * 60 + 59, 1000000000 + nanos)
        else (hour * 3600 + minute * 60 + second, nanos), ['Z']) := by
  simp only [readClock, Option.bind_eq_bind, Option.bind_some,
    twoDigits_padded _ _ (show hour < 100 by omega), expect_cons ':' _ rfl,
    twoDigits_padded _ _ (show minute < 100 by omega),
    twoDigits_padded _ _ (show second < 100 by omega), readFraction_append _ hnanos]
  rw [if_pos ⟨hhour, hminute, hsecond⟩]
  split <;> rfl

/-- The seconds of a day and the nanoseconds, in the last second of a minute perhaps those of a leap second. -/
theorem readClock_clock (second nanos leap : Nat) (hsecond : second < 86400)
    (hleap : leap = if 1000000000 ≤ nanos then 1 else 0)
    (hnanos : nanos < 1000000000 ∨ (nanos < 2000000000 ∧ second % 60 = 59)) :
    readClock (padded 2 (second / 3600) ++ ':' :: (padded 2 (second / 60 % 60) ++
      ':' :: (padded 2 (second % 60 + leap) ++ (fractionText (nanos - leap * 1000000000) ++ ['Z'])))) =
      some ((second, nanos), ['Z']) := by
  have hle : leap ≤ 1 := by
    rw [hleap]
    split <;> decide
  split at hleap
  · rw [readClock_append _ _ _ _ (by omega) (by omega) (by omega) (by omega), if_pos (by omega)]
    have hwhole : second / 3600 * 3600 + second / 60 % 60 * 60 + 59 = second := by omega
    have hsum : 1000000000 + (nanos - leap * 1000000000) = nanos := by omega
    rw [hwhole, hsum]
  · rw [readClock_append _ _ _ _ (by omega) (by omega) (by omega) (by omega), if_neg (by omega)]
    have hwhole : second / 3600 * 3600 + second / 60 % 60 * 60 + (second % 60 + leap) = second := by omega
    have hsame : nanos - leap * 1000000000 = nanos := by omega
    rw [hwhole, hsame]

/-- The instants that documents can give: the year is one that a date can have, and the nanoseconds run past
a whole second only in the last second of a minute. -/
structure Proper (t : Instant) : Prop where
  inCalendar : t.inCalendar = true
  nanos : t.nanos < 1000000000 ∨ (t.nanos < 2000000000 ∧ t.seconds % 60 = 59)

theorem Proper.isValid {t : Instant} (h : t.Proper) : (Date.ofDayNumber (t.seconds / 86400)).isValid := by
  have hcalendar := h.inCalendar
  simp only [Instant.inCalendar, Bool.and_eq_true, decide_eq_true_eq] at hcalendar
  exact isValid_ofDayNumber _ hcalendar.1 hcalendar.2

/-- A proper instant is read from its text. -/
theorem ofText?_text {t : Instant} (h : t.Proper) : ofText? t.text = some t := by
  have hcalendar := h.inCalendar
  have hdays := dayNumber_ofDayNumber (t.seconds / 86400)
  have hclock := readClock_clock (t.seconds % 86400).toNat t.nanos _ (by omega) rfl
    (h.nanos.imp_right fun hlast => ⟨hlast.1, by omega⟩)
  have hdate := fun rest => readDate_append (Date.ofDayNumber (t.seconds / 86400)) rest h.isValid
  have hseconds : t.seconds / 86400 * 86400 + (t.seconds % 86400).toNat - 0 = t.seconds := by omega
  have hsame : (⟨t.seconds, t.nanos⟩ : Instant) = t := rfl
  rw [ofText?, text, String.toList_ofList]
  unfold writeLocal
  simp only [List.append_assoc, List.cons_append]
  simp only [ofChars?, hdate, Option.bind_eq_bind, Option.bind_some, hclock,
    skipBlanks_cons 'Z' [] rfl, readOffset, hdays, hseconds, hsame]
  simp [skipBlanks, hcalendar]

theorem of_digitsUpTo {most n : Nat} {cs rest : List Char} (h : digitsUpTo most cs = some (n, rest)) :
    ∃ ds, ds.all Char.isDigit ∧ ds.length ≤ most ∧ n = valueOf ds ∧
      cs.length - rest.length = ds.length := by
  unfold digitsUpTo at h
  dsimp only at h
  split at h
  · cases h
  · obtain ⟨rfl, rfl⟩ := Prod.mk.inj (Option.some.inj h)
    have hsub := List.takeWhile_sublist (l := cs.take most) Char.isDigit
    have htake := hsub.length_le
    rw [List.length_take] at htake
    refine ⟨_, List.all_eq_true.mpr fun c hc => List.mem_takeWhile_imp hc, by omega, rfl, ?_⟩
    rw [List.length_drop]
    omega

theorem nanos_lt_of_readFraction {cs rest : List Char} {n : Nat} (h : readFraction cs = some (n, rest)) :
    n < 1000000000 := by
  unfold readFraction at h
  split at h
  · split at h
    · next digits n' after hdigits =>
      obtain ⟨ds, hall, hlength, rfl, hcount⟩ := of_digitsUpTo hdigits
      obtain ⟨rfl, -⟩ := Prod.mk.inj (Option.some.inj h)
      have hvalue := valueOf_lt ds hall
      rw [hcount]
      calc valueOf ds * tenTo (9 - ds.length)
        _ < tenTo ds.length * tenTo (9 - ds.length) :=
          Nat.mul_lt_mul_of_pos_right hvalue (zero_lt_tenTo _)
        _ = 10 ^ (ds.length + (9 - ds.length)) := (Nat.pow_add 10 _ _).symm
        _ = 1000000000 := by rw [Nat.add_sub_cancel' hlength]; rfl
    · cases h
  · obtain ⟨rfl, -⟩ := Prod.mk.inj (Option.some.inj h)
    decide

theorem whole_minutes_of_readOffset {cs rest : List Char} {offset : Int}
    (h : readOffset cs = some (offset, rest)) : offset % 60 = 0 := by
  unfold readOffset at h
  split at h
  · obtain ⟨rfl, -⟩ := Prod.mk.inj (Option.some.inj h)
    rfl
  · obtain ⟨rfl, -⟩ := Prod.mk.inj (Option.some.inj h)
    rfl
  · split at h
    · obtain ⟨rfl, -⟩ := Prod.mk.inj (Option.some.inj h)
      rfl
    · split at h
      · split at h
        · dsimp only at h
          split at h
          · obtain ⟨rfl, -⟩ := Prod.mk.inj (Option.some.inj h)
            split <;> omega
          · cases h
        · cases h
      · cases h
  · cases h

theorem of_readClock {cs rest : List Char} {second nanos : Nat}
    (h : readClock cs = some ((second, nanos), rest)) :
    nanos < 1000000000 ∨ (nanos < 2000000000 ∧ second % 60 = 59) := by
  simp only [readClock, Option.bind_eq_bind, Option.bind_eq_some_iff] at h
  obtain ⟨⟨hour, cs₁⟩, -, ⟨minute, cs₂⟩, -, ⟨s, cs₃⟩, -, ⟨n, cs₄⟩, hfraction, h⟩ := h
  have hn := nanos_lt_of_readFraction hfraction
  split_ifs at h
  · obtain ⟨⟨rfl, rfl⟩, -⟩ := h
    omega
  · obtain ⟨⟨rfl, rfl⟩, -⟩ := h
    omega

/-- What is read as an instant is proper. -/
theorem proper_of_ofText? {s : String} {t : Instant} (h : ofText? s = some t) : t.Proper := by
  rw [ofText?, ofChars?] at h
  simp only [Option.bind_eq_bind] at h
  obtain ⟨⟨date, cs⟩, -, h⟩ := Option.bind_eq_some_iff.mp h
  have hafter : ∀ cs, ((readClock cs).bind fun clock => (readOffset (skipBlanks clock.2)).bind fun offset =>
      if (skipBlanks offset.2).isEmpty ∧
          (Instant.mk (date.dayNumber * 86400 + clock.1.1 - offset.1) clock.1.2).inCalendar then
        some (Instant.mk (date.dayNumber * 86400 + clock.1.1 - offset.1) clock.1.2)
      else none) = some t → t.Proper := by
    intro cs hcs
    obtain ⟨⟨⟨second, nanos⟩, cs₁⟩, hclock, hcs⟩ := Option.bind_eq_some_iff.mp hcs
    obtain ⟨⟨offset, cs₂⟩, hoffset, hcs⟩ := Option.bind_eq_some_iff.mp hcs
    split_ifs at hcs with hlast
    obtain rfl := Option.some.inj hcs
    have hminutes := whole_minutes_of_readOffset hoffset
    refine ⟨hlast.2, (of_readClock hclock).imp_right fun hnanos => ⟨hnanos.1, ?_⟩⟩
    have hsecond := hnanos.2
    dsimp only
    omega
  dsimp only at h
  split at h
  · exact hafter _ h
  · exact hafter _ h
  · exact hafter _ h
  · cases h

open HubConsole.Json in
theorem lawful : Reader.Lawful Wire.read (Wire.write (α := Instant)) Proper 0 where
  read_rendering {t w room} ht hw := by
    rw [Value.Renders.string hw]
    change Instant.read room (.string (some t.text)) = .ok t
    rw [Instant.read, ofText?_text ht]
  distinct _ := Value.distinct_of_depth_eq_zero _ rfl
  proper {room s t} hread := by
    change Instant.read room s = .ok t at hread
    unfold Instant.read at hread
    split at hread
    · split at hread
      · next t' ht =>
        obtain rfl := Except.ok.inj hread
        exact proper_of_ofText? ht
      · cases hread
    · cases hread
  depth _ := Nat.zero_le _

end Instant
end HubConsole.Time
