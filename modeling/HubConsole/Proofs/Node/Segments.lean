import HubConsole.Proofs.Node.Orders
import HubConsole.Proofs.Order.Ties
import HubConsole.Proofs.Text.Digits
import HubConsole.Proofs.Text.Split
import Mathlib.Data.List.DropRight
import Mathlib.Data.List.Forall2

namespace HubConsole.Node

open HubConsole.Order HubConsole.Text

theorem withoutEndZeros_append_zero (xs : List Nat) :
    withoutEndZeros (xs ++ [0]) = withoutEndZeros xs := by
  induction xs with
  | nil => rfl
  | cons x xs ih => rw [List.cons_append, withoutEndZeros, ih, withoutEndZeros]

theorem withoutEndZeros_append_of_ne {x : Nat} (hx : x ≠ 0) (xs : List Nat) :
    withoutEndZeros (xs ++ [x]) = xs ++ [x] := by
  induction xs with
  | nil => simp [withoutEndZeros, hx]
  | cons y xs ih =>
    have hne : xs ++ [x] ≠ [] := List.append_ne_nil_of_right_ne_nil xs (List.cons_ne_nil x [])
    rw [List.cons_append, withoutEndZeros, ih, if_neg fun h => hne h.2]

theorem withoutEndZeros_eq_rdropWhile (xs : List Nat) :
    withoutEndZeros xs = xs.rdropWhile (· = 0) := by
  induction xs using List.reverseRecOn with
  | nil => rfl
  | append_singleton xs x ih =>
    by_cases hx : x = 0
    · subst hx
      rw [withoutEndZeros_append_zero, ih, List.rdropWhile_concat_pos]
      simp
    · rw [withoutEndZeros_append_of_ne hx, List.rdropWhile_concat_neg]
      simpa using hx

theorem withoutEndZeros_replicate (width : Nat) : withoutEndZeros (List.replicate width 0) = [] := by
  rw [withoutEndZeros_eq_rdropWhile, List.rdropWhile_eq_nil_iff]
  simp

/-- The numbers in the segments of a node's address; some zeros if it has none. -/
def addressSegments (width : Nat) (n : Summary) : List Nat :=
  (n.address.map addressNumbers).getD (List.replicate width 0)

/-- The numbers in the segments of a node's version; some zeros if it has none. -/
def versionSegments (width : Nat) (n : Summary) : List Nat :=
  (n.version.map (versionNumbers ·.version)).getD (List.replicate width 0)

theorem addressKey_eq (width : Nat) (n : Summary) :
    addressKey n = (addressSegments width n).rdropWhile (· = 0) := by
  rw [← withoutEndZeros_eq_rdropWhile, addressKey, addressSegments]
  cases n.address with
  | none => exact (withoutEndZeros_replicate width).symm
  | some address => rfl

theorem versionKey_eq (width : Nat) (n : Summary) :
    versionKey n = (versionSegments width n).rdropWhile (· = 0) := by
  rw [← withoutEndZeros_eq_rdropWhile, versionKey, versionSegments]
  cases n.version with
  | none => exact (withoutEndZeros_replicate width).symm
  | some version => rfl

/-- Each order of the node table is a total preorder on all nodes, whatever their texts: the other way round it is
reversed, a node is equal to itself, and not to be greater is transitive. By address and by version nodes are
equal just when their numbers are the same without the zeros at the end, where an absent text is all zeros. -/
theorem comparison_total_preorder :
    (∀ (key : SortKey) a b, key.comparison b a = (key.comparison a b).swap) ∧
    (∀ (key : SortKey) a, key.comparison a a = .eq) ∧
    (∀ (key : SortKey) a b c, key.comparison a b ≠ .gt → key.comparison b c ≠ .gt →
      key.comparison a c ≠ .gt) ∧
    (∀ width a b, byAddress a b = .eq ↔
      (addressSegments width a).rdropWhile (· = 0) = (addressSegments width b).rdropWhile (· = 0)) ∧
    (∀ width a b, byVersion a b = .eq ↔
      (versionSegments width a).rdropWhile (· = 0) = (versionSegments width b).rdropWhile (· = 0)) := by
  refine ⟨?_, ?_, ?_, ?_, ?_⟩
  · intro key a b
    exact Std.OrientedCmp.eq_swap
  · intro key a
    exact Std.ReflCmp.compare_self
  · intro key a b c hab hbc
    exact not_gt_trans key.comparison a b c hab hbc
  · intro width a b
    rw [← addressKey_eq, ← addressKey_eq, byAddress_eq]
    exact Std.compare_eq_iff_eq
  · intro width a b
    rw [← versionKey_eq, ← versionKey_eq, byVersion_eq]
    exact Std.compare_eq_iff_eq

theorem rightpad_zero (xs : List Nat) : xs.rightpad 0 0 = xs := by simp [List.rightpad]

theorem rightpad_nil (n : Nat) : ([] : List Nat).rightpad (n + 1) 0 = 0 :: [].rightpad n 0 := by
  simp [List.rightpad, List.replicate_succ]

theorem rightpad_cons (n x : Nat) (xs : List Nat) :
    (x :: xs).rightpad (n + 1) 0 = x :: xs.rightpad n 0 := by simp [List.rightpad]

/-- Rows are compared like the rows of one length that zeros make of them. -/
theorem compareNumbers_eq_rightpad (xs ys : List Nat) :
    compareNumbers xs ys = compare (xs.rightpad ys.length 0) (ys.rightpad xs.length 0) := by
  induction xs, ys using compareNumbers.induct with
  | case1 => simp [compareNumbers, List.rightpad]
  | case2 x xs ih =>
    rw [compareNumbers, ih, List.length_nil, List.length_cons, rightpad_zero, rightpad_zero, rightpad_nil,
      List.compare_cons_cons]
  | case3 y ys ih =>
    rw [compareNumbers, ih, List.length_nil, List.length_cons, rightpad_zero, rightpad_zero, rightpad_nil,
      List.compare_cons_cons]
  | case4 x xs y ys ih =>
    rw [compareNumbers, ih, List.length_cons, List.length_cons, rightpad_cons, rightpad_cons,
      List.compare_cons_cons]

/-- A segment that spells a number: the number in decimal after any blanks, maybe with zeros in front of it. What
comes after its digits is free, blanks among it, as long as it starts with no digit and has no separator. -/
inductive Spells (separator : Char → Bool) (n : Nat) (segment : List Char) : Prop
  | intro (blanks : List Char) (zeros : Nat) (rest : List Char)
      (hsegment : segment = blanks ++ (List.replicate zeros '0' ++ digits n ++ rest))
      (hblanks : ∀ c ∈ blanks, isBlank c) (hstop : ∀ c ∈ rest.head?, c.isDigit = false)
      (hrest : ∀ c ∈ rest, separator c = false)

/-- Segments with separators between them, one or more, and maybe more of them at both ends. -/
inductive Strewn (separator : Char → Bool) : List (List Char) → List Char → Prop
  | nil : Strewn separator [] []
  | last (segment : List Char) : Strewn separator [segment] segment
  | cons (segment : List Char) {c : Char} {segments : List (List Char)} {text : List Char}
      (hc : separator c) (h : Strewn separator segments text) :
      Strewn separator (segment :: segments) (segment ++ c :: text)
  | skip {c : Char} {segments : List (List Char)} {text : List Char} (hc : separator c)
      (h : Strewn separator segments text) : Strewn separator segments (c :: text)

/-- A version that spells numbers, with a point between two of them. -/
def VersionSpells (version : String) (xs : List Nat) : Prop :=
  ∃ segments, version.toList = ['.'].intercalate segments ∧ List.Forall₂ (Spells (· = '.')) xs segments

/-- An address that spells numbers, with points and colons between them. -/
def AddressSpells (address : String) (xs : List Nat) : Prop :=
  ∃ segments, Strewn (fun c => c = '.' || c = ':') segments address.toList ∧
    List.Forall₂ (Spells fun c => c = '.' || c = ':') xs segments

section

variable {separator : Char → Bool} {n : Nat} {segment : List Char}

theorem spelt_digits (zeros n : Nat) (c : Char) (h : c ∈ List.replicate zeros '0' ++ digits n) :
    c.isDigit := by
  rcases List.mem_append.mp h with h | h
  · rw [List.eq_of_mem_replicate h]
    decide
  · exact List.all_eq_true.mp (all_isDigit_digits n) c h

theorem Spells.leadingNumber_eq (h : Spells separator n segment) (hn : n < twoTo 63) :
    leadingNumber segment = n := by
  obtain ⟨blanks, zeros, rest, rfl, hblanks, hstop, -⟩ := h
  have hspelt := spelt_digits zeros n
  have hvalue : valueOf (List.replicate zeros '0' ++ digits n) = n := by
    rw [valueOf_zeros, valueOf_digits]
  have hne : List.replicate zeros '0' ++ digits n ≠ [] :=
    List.append_ne_nil_of_right_ne_nil _ (digits_ne_nil n)
  generalize List.replicate zeros '0' ++ digits n = ds at hspelt hvalue hne
  obtain ⟨c, cs, rfl⟩ := List.exists_cons_of_ne_nil hne
  have hfirst : isBlank c = false := isBlank_of_isDigit c (hspelt c List.mem_cons_self)
  have hstart : (blanks ++ (c :: cs ++ rest)).dropWhile isBlank = c :: cs ++ rest := by
    rw [List.dropWhile_append_of_pos hblanks]
    simp [hfirst]
  have hdigits : ((blanks ++ (c :: cs ++ rest)).dropWhile isBlank).takeWhile Char.isDigit = c :: cs := by
    rw [hstart]
    exact takeWhile_isDigit_append _ _ hspelt hstop
  simp only [leadingNumber, hdigits, hvalue, hn, if_true]

theorem Spells.ne_nil (h : Spells separator n segment) : segment ≠ [] := by
  obtain ⟨blanks, zeros, rest, rfl, -⟩ := h
  simp [digits_ne_nil]

/-- A separator is neither a blank nor a digit, so it stands in no segment. -/
theorem Spells.separator_eq_false (hseparator : ∀ c, separator c → isBlank c = false ∧ c.isDigit = false)
    (h : Spells separator n segment) : ∀ c ∈ segment, separator c = false := by
  obtain ⟨blanks, zeros, rest, rfl, hblanks, -, hrest⟩ := h
  intro c hc
  rw [List.mem_append, List.mem_append] at hc
  by_contra hsep
  obtain ⟨hblank, hdigit⟩ := hseparator c (Bool.not_eq_false _ ▸ hsep)
  rcases hc with hc | hc | hc
  · simp [hblanks c hc] at hblank
  · simp [spelt_digits zeros n c hc] at hdigit
  · exact hsep (hrest c hc)

/-- The parts of a text between separators, without those that are empty. -/
def pieces (separator : Char → Bool) (text : List Char) : List (List Char) :=
  (splitAt separator text).filter fun s => !s.isEmpty

theorem pieces_append_cons {c : Char} (hc : separator c) (before after : List Char) :
    pieces separator (before ++ c :: after) = pieces separator before ++ pieces separator after := by
  simp only [pieces, splitAt_eq_splitOnP]
  rw [List.splitOnP_append_cons before after hc, List.filter_append]

theorem pieces_nil : pieces separator [] = [] := rfl

theorem pieces_of_free (hne : segment ≠ []) (hfree : ∀ c ∈ segment, separator c = false) :
    pieces separator segment = [segment] := by
  rw [pieces, splitAt_eq_splitOnP, List.splitOnP_eq_singleton hfree]
  simp [hne]

theorem Strewn.pieces_eq {segments : List (List Char)} {text : List Char}
    (h : Strewn separator segments text) (hne : ∀ s ∈ segments, s ≠ [])
    (hfree : ∀ s ∈ segments, ∀ c ∈ s, separator c = false) : pieces separator text = segments := by
  induction h with
  | nil => exact pieces_nil
  | last segment =>
    exact pieces_of_free (hne segment List.mem_cons_self) (hfree segment List.mem_cons_self)
  | cons segment hc _ ih =>
    obtain ⟨hfirst, hothers⟩ := List.forall_mem_cons.mp hne
    obtain ⟨hfreefirst, hfreeothers⟩ := List.forall_mem_cons.mp hfree
    rw [pieces_append_cons hc, pieces_of_free hfirst hfreefirst, ih hothers hfreeothers]
    rfl
  | @skip c segments text hc _ ih =>
    have hskip := pieces_append_cons hc [] text
    rw [List.nil_append, pieces_nil, List.nil_append] at hskip
    rw [hskip]
    exact ih hne hfree

variable {xs ys : List Nat} {segments : List (List Char)}

theorem map_leadingNumber (h : List.Forall₂ (Spells separator) xs segments)
    (hxs : ∀ x ∈ xs, x < twoTo 63) : segments.map leadingNumber = xs := by
  induction h with
  | nil => rfl
  | cons hhead _ ih =>
    obtain ⟨hx, hothers⟩ := List.forall_mem_cons.mp hxs
    rw [List.map_cons, hhead.leadingNumber_eq hx, ih hothers]

theorem forall_mem_of_spells {P : List Char → Prop} (h : List.Forall₂ (Spells separator) xs segments)
    (hP : ∀ n s, Spells separator n s → P s) : ∀ s ∈ segments, P s := by
  induction h with
  | nil => exact List.forall_mem_nil _
  | cons hhead _ ih => exact List.forall_mem_cons.mpr ⟨hP _ _ hhead, ih⟩

end

theorem isAddressSeparator (c : Char) (h : (c = '.' || c = ':') = true) :
    isBlank c = false ∧ c.isDigit = false := by
  rw [Bool.or_eq_true, decide_eq_true_eq, decide_eq_true_eq] at h
  rcases h with rfl | rfl <;> decide

theorem addressNumbers_of_spells {address : String} {xs : List Nat} (h : AddressSpells address xs)
    (hxs : ∀ x ∈ xs, x < twoTo 63) : addressNumbers address = xs := by
  obtain ⟨segments, htext, hspells⟩ := h
  have hpieces : pieces (fun c => c = '.' || c = ':') address.toList = segments :=
    htext.pieces_eq (forall_mem_of_spells hspells fun n s hs => hs.ne_nil)
      (forall_mem_of_spells hspells fun n s hs => hs.separator_eq_false isAddressSeparator)
  have hnumbers := map_leadingNumber hspells hxs
  rw [← hpieces] at hnumbers
  exact hnumbers

/-- A version is never without a segment, so the empty one stands for a zero. -/
theorem versionNumbers_of_spells {version : String} {xs : List Nat} (h : VersionSpells version xs)
    (hxs : ∀ x ∈ xs, x < twoTo 63) : withoutEndZeros (versionNumbers version) = withoutEndZeros xs := by
  obtain ⟨segments, htext, hspells⟩ := h
  by_cases hne : segments = []
  · subst hne
    obtain rfl := List.forall₂_nil_right_iff.mp hspells
    rw [versionNumbers, htext]
    rfl
  · have hfree : ∀ s ∈ segments, ∀ c ∈ s, decide (c = '.') = false :=
      forall_mem_of_spells hspells fun n s hs => hs.separator_eq_false (by simp; decide)
    have hsplit : splitAt (· = '.') (['.'].intercalate segments) = segments :=
      splitAt_intercalate (by decide) segments hne hfree
    rw [versionNumbers, htext, hsplit, map_leadingNumber hspells hxs]

/-- Numbers of 63 bits that are written in decimal, with a point between two of them, are what versions are compared
by, and so it is for addresses, where any points and colons may stand between them and around them: the order of the
rows is the lexicographic one, with zeros for the numbers that the shorter row lacks. -/
theorem compare_spelt_numbers (xs ys : List Nat) (hxs : ∀ x ∈ xs, x < twoTo 63)
    (hys : ∀ y ∈ ys, y < twoTo 63) :
    (∀ a b v w, a.version = some v → b.version = some w → VersionSpells v.version xs →
      VersionSpells w.version ys →
        byVersion a b = compare (xs.rightpad ys.length 0) (ys.rightpad xs.length 0)) ∧
    (∀ a b s t, a.address = some s → b.address = some t → AddressSpells s xs → AddressSpells t ys →
      byAddress a b = compare (xs.rightpad ys.length 0) (ys.rightpad xs.length 0)) := by
  constructor
  · intro a b v w ha hb hv hw
    rw [← compareNumbers_eq_rightpad, byVersion, ha, hb]
    simp only [Option.map_some, Option.getD_some]
    rw [compareNumbers_eq, versionNumbers_of_spells hv hxs, versionNumbers_of_spells hw hys,
      ← compareNumbers_eq]
  · intro a b s t ha hb hs ht
    rw [← compareNumbers_eq_rightpad, byAddress, ha, hb]
    simp only [Option.map_some, Option.getD_some]
    rw [addressNumbers_of_spells hs hxs, addressNumbers_of_spells ht hys]

/-- The greatest number of 63 bits, with blanks and zeros in front, suffixes, and separators at the ends; the
shorter row goes on with a zero. -/
theorem compare_spelt_numbers_up_to_zeros :
    let a : Summary := ⟨"a", some ":9223372036854775807/x..:00", .run,
      some ⟨"09223372036854775807-rc:1. 0", ""⟩, none⟩
    let b : Summary := ⟨"b", some "009223372036854775807 :", .stop,
      some ⟨" 9223372036854775807\t8", ""⟩, none⟩
    byVersion a b = .eq ∧ byAddress a b = .eq := by
  intro a b
  have hnumbers := compare_spelt_numbers [9223372036854775807, 0] [9223372036854775807] (by decide)
    (by decide)
  have hversion : VersionSpells "09223372036854775807-rc:1. 0" [9223372036854775807, 0] :=
    ⟨["09223372036854775807-rc:1".toList, " 0".toList], by decide +kernel,
      .cons (.intro [] 1 ['-', 'r', 'c', ':', '1'] (by decide +kernel) (by simp) (by simp) (by simp))
        (.cons (.intro [' '] 0 [] (by decide +kernel) (by simp; decide) (by simp) (by simp)) .nil)⟩
  have hversion' : VersionSpells " 9223372036854775807\t8" [9223372036854775807] :=
    ⟨[" 9223372036854775807\t8".toList], by decide +kernel,
      .cons (.intro [' '] 0 ['\t', '8'] (by decide +kernel) (by simp; decide) (by simp) (by simp)) .nil⟩
  have haddress : AddressSpells ":9223372036854775807/x..:00" [9223372036854775807, 0] :=
    ⟨["9223372036854775807/x".toList, "00".toList],
      .skip rfl (.cons "9223372036854775807/x".toList rfl (.skip rfl (.skip rfl (.last "00".toList)))),
      .cons (.intro [] 0 ['/', 'x'] (by decide +kernel) (by simp) (by simp) (by simp))
        (.cons (.intro [] 1 [] (by decide +kernel) (by simp) (by simp) (by simp)) .nil)⟩
  have haddress' : AddressSpells "009223372036854775807 :" [9223372036854775807] :=
    ⟨["009223372036854775807 ".toList], .cons "009223372036854775807 ".toList rfl .nil,
      .cons (.intro [] 2 [' '] (by decide +kernel) (by simp) (by simp) (by simp)) .nil⟩
  exact ⟨hnumbers.1 a b _ _ rfl rfl hversion hversion', hnumbers.2 a b _ _ rfl rfl haddress haddress'⟩

end HubConsole.Node
