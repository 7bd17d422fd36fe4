import HubConsole.Proofs.Text.Split
import HubConsole.Proofs.Url.Escapes
import HubConsole.Url.Path
import Mathlib.Data.Bool.AllAny

namespace HubConsole.Url

open HubConsole.Text

/-- One dot, which stays, or two, which go up. -/
def IsDots (s : Segment) : Prop := dotsOnly? s = some 1 ∨ dotsOnly? s = some 2

/-- One dot or two, which never become a segment. -/
def LoneDots (word : List Char) : Prop := word = ['.'] ∨ word = ['.', '.']

instance (word : List Char) : Decidable (LoneDots word) :=
  inferInstanceAs (Decidable (word = ['.'] ∨ word = ['.', '.']))

/-- A segment with nothing that a path escapes, or that ends a segment. -/
def Clean (s : Segment) : Prop := ∀ c ∈ s, Reserved.path.Keeps c ∧ c ≠ '/' ∧ c ≠ '\\'

/-- A segment that is read as it is written. -/
def Lasting (s : Segment) : Prop := Clean s ∧ ¬IsDots s

/-- A path that is read as it is written. -/
structure Path.Settled (p : Path) : Prop where
  ne_nil : p.segments ≠ []
  lasting : ∀ s ∈ p.segments, Lasting s

theorem lasting_nil : Lasting [] := ⟨List.forall_mem_nil _, by simp [IsDots, dotsOnly?]⟩

theorem follow_singleton_of_not_dots {s : Segment} (h : ¬IsDots s) (closed : List Segment) :
    follow closed [s] = closed.reverse ++ [s] := by
  rw [follow]
  split
  · next hone => cases h (.inl hone)
  · next htwo => cases h (.inr htwo)
  · exact List.reverse_cons

theorem follow_cons_cons_of_not_dots {s : Segment} (h : ¬IsDots s) (closed : List Segment) (next : Segment)
    (rest : List Segment) : follow closed (s :: next :: rest) = follow (s :: closed) (next :: rest) := by
  rw [follow]
  · split
    · next hone => cases h (.inl hone)
    · next htwo => cases h (.inr htwo)
    · rfl
  · simp

/-- Segments without dots are gone through one by one. -/
theorem follow_of_not_dots (closed segments : List Segment) (hne : segments ≠ [])
    (h : ∀ s ∈ segments, ¬IsDots s) : follow closed segments = closed.reverse ++ segments := by
  induction segments generalizing closed with
  | nil => cases hne rfl
  | cons s segments ih =>
    obtain ⟨hs, hsegments⟩ := List.forall_mem_cons.mp h
    cases segments with
    | nil => exact follow_singleton_of_not_dots hs closed
    | cons next rest =>
      rw [follow_cons_cons_of_not_dots hs, ih _ (List.cons_ne_nil next rest) hsegments, List.reverse_cons,
        List.append_assoc, List.singleton_append]

theorem parent_subset (closed : List Segment) : parent closed ⊆ closed := by
  cases closed with
  | nil => exact List.Subset.refl _
  | cons s closed =>
    rw [parent]
    split
    · exact List.Subset.refl _
    · exact List.subset_cons_self s closed

theorem forall_mem_reverse_cons {s : Segment} {closed : List Segment} (hs : Lasting s)
    (hclosed : ∀ t ∈ closed, Lasting t) : ∀ t ∈ (s :: closed).reverse, Lasting t := by
  intro t ht
  exact List.forall_mem_cons.mpr ⟨hs, hclosed⟩ t (List.mem_reverse.mp ht)

/-- What segments lead to is made of them, of what was entered before and of empty ones, without the dots. -/
theorem lasting_of_mem_follow (closed segments : List Segment) (hclosed : ∀ s ∈ closed, Lasting s)
    (h : ∀ s ∈ segments, Clean s) : ∀ s ∈ follow closed segments, Lasting s := by
  have hparent (closed : List Segment) (h : ∀ s ∈ closed, Lasting s) : ∀ s ∈ parent closed, Lasting s :=
    fun s hs => h s (parent_subset closed hs)
  fun_induction follow closed segments with
  | case1 closed => exact forall_mem_reverse_cons lasting_nil hclosed
  | case2 closed s hone => exact forall_mem_reverse_cons lasting_nil hclosed
  | case3 closed s htwo => exact forall_mem_reverse_cons lasting_nil (hparent closed hclosed)
  | case4 closed s hone htwo =>
    refine forall_mem_reverse_cons ⟨h s List.mem_cons_self, ?_⟩ hclosed
    exact fun hdots => hdots.elim hone htwo
  | case5 closed s rest hne hone ih => exact ih hclosed (List.forall_mem_cons.mp h).2
  | case6 closed s rest hne htwo ih => exact ih (hparent closed hclosed) (List.forall_mem_cons.mp h).2
  | case7 closed s rest hne hone htwo ih =>
    obtain ⟨hs, hrest⟩ := List.forall_mem_cons.mp h
    have hlasting : Lasting s := ⟨hs, fun hdots => hdots.elim hone htwo⟩
    exact ih (List.forall_mem_cons.mpr ⟨hlasting, hclosed⟩) hrest

theorem follow_ne_nil (closed segments : List Segment) : follow closed segments ≠ [] := by
  fun_induction follow closed segments <;> simp_all

theorem keeps_escapeMarks : ∀ c ∈ escapeMarks, Reserved.path.Keeps c ∧ c ≠ '/' ∧ c ≠ '\\' :=
  List.all_iff_forall_prop.mp (by decide)

theorem clean_escape_path (s : Segment) (h : ∀ c ∈ s, c ≠ '/' ∧ c ≠ '\\') : Clean (escape .path s) := by
  intro c hc
  rcases mem_escape _ s c hc with hmark | ⟨hmem, hkept⟩
  · exact keeps_escapeMarks c hmark
  · exact ⟨hkept, h c hmem⟩

theorem clean_escape_segment (s : Segment) : Clean (escape .segment s) := by
  intro c hc
  rcases mem_escape _ s c hc with hmark | ⟨-, hkept⟩
  · exact keeps_escapeMarks c hmark
  · have hreserved : ∀ d ∈ '/' :: '\\' :: Reserved.path.chars, d ∈ Reserved.segment.chars :=
      List.all_iff_forall_prop.mp (by decide)
    have hfree : c ∉ '/' :: '\\' :: Reserved.path.chars := fun hd => hkept (.inr (.inr (hreserved c hd)))
    simp only [List.mem_cons, not_or] at hfree
    exact ⟨fun h => hkept (h.imp_right (Or.imp_right fun hd => absurd hd hfree.2.2)), hfree.1, hfree.2.1⟩

theorem isSeparator_eq_false {c : Char} : (c = '/' || c = '\\') = false ↔ c ≠ '/' ∧ c ≠ '\\' := by simp

namespace Path

theorem settled_ofText (cs : List Char) : (ofText cs).Settled where
  ne_nil := follow_ne_nil _ _
  lasting := by
    refine lasting_of_mem_follow _ _ (List.forall_mem_nil _) (List.forall_mem_map.mpr fun part hpart => ?_)
    refine clean_escape_path part fun c hc => ?_
    exact isSeparator_eq_false.mp (separator_eq_false_of_mem_splitAt cs part hpart c hc)

/-- A settled path is read from its text. -/
theorem ofText_text {p : Path} (h : p.Settled) : ofText (p.text.drop 1) = p := by
  have hfree : ∀ s ∈ p.segments, ∀ c ∈ s, (c = '/' || c = '\\') = false :=
    fun s hs c hc => isSeparator_eq_false.mpr ((h.lasting s hs).1 c hc).2
  have hkept : ∀ s ∈ p.segments, escape .path s = s :=
    fun s hs => escape_of_keeps _ s fun c hc => ((h.lasting s hs).1 c hc).1
  have hsplit : splitAt (fun c => c = '/' || c = '\\') (p.text.drop 1) = p.segments :=
    splitAt_intercalate (by decide) p.segments h.ne_nil hfree
  have hmap : p.segments.map (escape .path) = p.segments :=
    (List.map_congr_left hkept).trans (List.map_id _)
  rw [ofText, hsplit, hmap, follow_of_not_dots [] _ h.ne_nil fun s hs => (h.lasting s hs).2]
  rfl

end Path

theorem dotsOnly?_escapeByte (b : UInt8) (h : b ≠ 0x2E) (rest : List Char) :
    dotsOnly? (escapeByte b ++ rest) = none := by
  have hhigh : ∀ {d : Nat}, d < 16 → capitalHexDigit d = '2' → d = 2 := by decide
  have hlow : ∀ {d : Nat}, d < 16 → capitalHexDigit d = 'e' ∨ capitalHexDigit d = 'E' → d = 14 := by decide
  have hb := b.toNat_lt
  by_cases htwo : capitalHexDigit (b.toNat / 16) = '2'
  · have hnot : ¬(capitalHexDigit (b.toNat % 16) = 'e' ∨ capitalHexDigit (b.toNat % 16) = 'E') := by
      intro he
      have hquotient := hhigh (by omega) htwo
      have hrest := hlow (Nat.mod_lt _ (by decide)) he
      refine h (UInt8.toNat_inj.mp ?_)
      show b.toNat = 46
      omega
    simp only [escapeByte, htwo, List.cons_append, List.nil_append, dotsOnly?, if_neg hnot]
  · simp [escapeByte, dotsOnly?, htwo]

/-- Only a dot is written with the byte of a dot in front. -/
theorem exists_utf8EncodeChar_eq_cons (c : Char) (h : c ≠ '.') :
    ∃ b bs, String.utf8EncodeChar c = b :: bs ∧ b ≠ 0x2E := by
  have hval : c.val.toNat ≠ 46 := fun hv => h (Char.ext (UInt32.toNat_inj.mp hv))
  simp only [String.utf8EncodeChar]
  split_ifs <;> refine ⟨_, _, rfl, fun hb => ?_⟩ <;>
    simp only [← UInt8.toNat_inj, UInt8.toNat_ofNat', UInt8.reduceToNat] at hb <;> omega

theorem dotsOnly?_escapeChar (c : Char) (h : c ≠ '.') (rest : List Char) :
    dotsOnly? (escapeChar .segment c ++ rest) = none := by
  by_cases hkept : Reserved.segment.Keeps c
  · have hpercent : c ≠ '%' := by
      rintro rfl
      exact hkept (.inr (.inr (by decide)))
    rw [escapeChar_of_keeps hkept, List.singleton_append, dotsOnly?.eq_def]
    split <;> simp_all
  · obtain ⟨b, bs, hbytes, hb⟩ := exists_utf8EncodeChar_eq_cons c h
    rw [escapeChar_of_not_keeps hkept, hbytes, List.flatMap_cons, List.append_assoc]
    exact dotsOnly?_escapeByte b hb _

theorem dotsOnly?_escape_segment (w : Segment) (n : Nat) :
    dotsOnly? (escape .segment w) = some n ↔ w = List.replicate n '.' := by
  induction w generalizing n with
  | nil =>
    rw [escape, List.flatMap_nil, dotsOnly?, Option.some_inj]
    cases n <;> simp [List.replicate_succ]
  | cons c w ih =>
    rw [escape] at ih
    rw [escape, List.flatMap_cons]
    by_cases hdot : c = '.'
    · subst hdot
      have hkept : escapeChar .segment '.' = ['.'] := by decide
      rw [hkept, List.singleton_append, dotsOnly?]
      cases n with
      | zero => simp
      | succ n => simp [ih, List.replicate_succ]
    · rw [dotsOnly?_escapeChar c hdot]
      refine iff_of_false (Option.some_ne_none n).symm fun hdots => hdot ?_
      exact List.eq_of_mem_replicate (hdots ▸ List.mem_cons_self)

theorem isDots_escape_segment (w : Segment) : IsDots (escape .segment w) ↔ LoneDots w := by
  rw [IsDots, dotsOnly?_escape_segment, dotsOnly?_escape_segment]
  rfl

/-- What is left of a text in an address: tabs and line ends do not count. -/
def withoutMarks (word : List Char) : List Char := word.filter fun c => c ≠ '\t' ∧ c ≠ '\n' ∧ c ≠ '\r'

namespace Path

/-- The path has the given segments and one more, which stands for a text. -/
def Extends (q : Path) (segments : List Segment) (word : List Char) : Prop :=
  ∃ segment, q.segments = segments ++ [segment] ∧ textOf? (unescape segment) = some word

/-- The segments that a pushed one comes after: those of `//` count as none. -/
def front (p : Path) : List Segment := if p.dropEmptyEnd = [[]] then [] else p.dropEmptyEnd

theorem textOf?_unescape_escape (word : List Char) :
    textOf? (unescape (escape .segment word)) = some word := by
  rw [unescape_escape _ (by decide), textOf?_utf8]

theorem push_of_dots (p : Path) {word : List Char} (h : LoneDots word) :
    (p.push word).segments = if p.dropEmptyEnd = [] then [[]] else p.dropEmptyEnd := by
  unfold LoneDots at h
  simp [push, h]

theorem push_of_not_dots (p : Path) {word : List Char} (h : ¬LoneDots word) :
    (p.push word).segments = follow p.front.reverse [escape .segment (withoutMarks word)] := by
  unfold LoneDots at h
  rw [push, if_neg h]
  rfl

theorem push_of_withoutMarks_not_dots (p : Path) {word : List Char} (h : ¬LoneDots word)
    (hcounted : ¬LoneDots (withoutMarks word)) :
    (p.push word).segments = p.front ++ [escape .segment (withoutMarks word)] := by
  rw [← isDots_escape_segment] at hcounted
  rw [push_of_not_dots p h, follow_singleton_of_not_dots hcounted, List.reverse_reverse]

/-- The segment that is pushed stands for what is left of the text. -/
theorem extends_push (p : Path) {word : List Char} (h : ¬LoneDots word)
    (hcounted : ¬LoneDots (withoutMarks word)) :
    (p.push word).Extends p.front (withoutMarks word) :=
  ⟨_, push_of_withoutMarks_not_dots p h hcounted, textOf?_unescape_escape _⟩

/-- Dots that come together only without the marks between them are followed. -/
theorem push_of_withoutMarks_dot (p : Path) {word : List Char} (h : ¬LoneDots word)
    (hcounted : withoutMarks word = ['.']) : (p.push word).segments = p.front ++ [[]] := by
  have hstays : follow p.front.reverse [escape .segment ['.']] = ([] :: p.front.reverse).reverse := rfl
  rw [push_of_not_dots p h, hcounted, hstays, List.reverse_cons, List.reverse_reverse]

theorem push_of_withoutMarks_two_dots (p : Path) {word : List Char} (h : ¬LoneDots word)
    (hcounted : withoutMarks word = ['.', '.']) :
    (p.push word).segments = (parent p.front.reverse).reverse ++ [[]] := by
  have hgoesUp : follow p.front.reverse [escape .segment ['.', '.']] =
      ([] :: parent p.front.reverse).reverse := rfl
  rw [push_of_not_dots p h, hcounted, hgoesUp, List.reverse_cons]

/-- What pushing a text leads to, whatever the text is. -/
structure Pushed (p : Path) (word : List Char) (q : Path) : Prop where
  /-- Dots add nothing. -/
  dots : LoneDots word → q.segments = if p.dropEmptyEnd = [] then [[]] else p.dropEmptyEnd
  /-- Dots that come together only without the marks between them are followed. -/
  stays : ¬LoneDots word → withoutMarks word = ['.'] → q.segments = p.front ++ [[]]
  goesUp : ¬LoneDots word → withoutMarks word = ['.', '.'] →
    q.segments = (parent p.front.reverse).reverse ++ [[]]
  /-- All else becomes a segment without its marks. -/
  others : ¬LoneDots word → ¬LoneDots (withoutMarks word) → q.Extends p.front (withoutMarks word)

theorem pushed_push (p : Path) (word : List Char) : p.Pushed word (p.push word) where
  dots h := p.push_of_dots h
  stays h := p.push_of_withoutMarks_dot h
  goesUp h := p.push_of_withoutMarks_two_dots h
  others h := p.extends_push h

theorem dropEmptyEnd_subset (p : Path) : p.dropEmptyEnd ⊆ p.segments := by
  rw [dropEmptyEnd]
  split
  · exact List.dropLast_subset _
  · exact List.Subset.refl _

theorem settled_push {p : Path} (h : p.Settled) (word : List Char) : (p.push word).Settled := by
  have hlasting : ∀ s ∈ p.dropEmptyEnd, Lasting s := fun s hs => h.lasting s (p.dropEmptyEnd_subset hs)
  by_cases hdots : LoneDots word
  · have hsegments := push_of_dots p hdots
    split at hsegments
    · constructor <;> rw [hsegments]
      · exact List.cons_ne_nil [] []
      · exact List.forall_mem_singleton.mpr lasting_nil
    · next hne => constructor <;> rwa [hsegments]
  · have hfront : ∀ s ∈ p.front.reverse, Lasting s := by
      intro s hs
      rw [List.mem_reverse, front] at hs
      split at hs
      · cases hs
      · exact hlasting s hs
    have hclean := List.forall_mem_singleton.mpr (clean_escape_segment (withoutMarks word))
    constructor <;> rw [push_of_not_dots p hdots]
    · exact follow_ne_nil _ _
    · exact lasting_of_mem_follow _ _ hfront hclean

/-- Only the path `//` has nothing but an empty segment left without the one at its end. -/
theorem dropEmptyEnd_eq_iff (p : Path) : p.dropEmptyEnd = [[]] ↔ p.segments = [[], []] := by
  rw [dropEmptyEnd]
  split
  · next hlast =>
    obtain ⟨front, hfront⟩ := List.getLast?_eq_some_iff.mp hlast
    rw [hfront, List.dropLast_concat]
    constructor
    · intro h
      rw [h]
      rfl
    · intro h
      have hsame : front ++ [[]] = [[]] ++ [[]] := h
      exact List.append_cancel_right hsame
  · next hlast =>
    refine iff_of_false ?_ ?_
    · rintro h
      rw [h] at hlast
      exact hlast rfl
    · rintro h
      rw [h] at hlast
      exact hlast rfl

theorem getLast?_follow_singleton (closed : List Segment) (s : Segment) :
    (follow closed [s]).getLast? = some [] ∨ (follow closed [s]).getLast? = some s := by
  rw [follow]
  split <;> simp

/-- A text becomes one segment more, and all segments before it stay, just when it is not taken for dots, has no
marks in it, and the path is not `//`. -/
theorem extends_push_iff (p : Path) {word : List Char} (hne : word ≠ []) :
    (p.push word).Extends p.dropEmptyEnd word ↔
      ¬LoneDots word ∧ withoutMarks word = word ∧ p.segments ≠ [[], []] := by
  constructor
  · rintro ⟨segment, hsegments, hword⟩
    have hsegment : segment ≠ [] := by
      rintro rfl
      exact hne (Option.some.inj ((textOf?_utf8 []).symm.trans hword)).symm
    have hdots : ¬LoneDots word := by
      intro hdots
      rw [push_of_dots p hdots] at hsegments
      split at hsegments
      · next hnone =>
        rw [hnone] at hsegments
        exact hsegment (List.singleton_inj.mp hsegments).symm
      · simpa using congrArg List.length hsegments
    -- The segment is not empty, so it is the one that was pushed, and stands for the text without its marks.
    have hlast := getLast?_follow_singleton p.front.reverse (escape .segment (withoutMarks word))
    rw [← push_of_not_dots p hdots, hsegments, List.getLast?_concat] at hlast
    have hwritten : segment = escape .segment (withoutMarks word) :=
      Option.some.inj (hlast.resolve_left fun h => hsegment (Option.some.inj h))
    have hmarks : withoutMarks word = word := by
      rw [hwritten, textOf?_unescape_escape] at hword
      exact Option.some.inj hword
    rw [push_of_withoutMarks_not_dots p hdots (hmarks.symm ▸ hdots)] at hsegments
    have hfront : p.front = p.dropEmptyEnd := (List.append_inj' hsegments rfl).1
    refine ⟨hdots, hmarks, fun hroot => ?_⟩
    rw [front, (dropEmptyEnd_eq_iff p).mpr hroot] at hfront
    cases hfront
  · rintro ⟨hdots, hmarks, hroot⟩
    have hfront : p.front = p.dropEmptyEnd := if_neg fun h => hroot ((dropEmptyEnd_eq_iff p).mp h)
    have hextends := p.extends_push hdots (hmarks.symm ▸ hdots)
    rwa [hmarks, hfront] at hextends

end Path

end HubConsole.Url
