import HubConsole.Text.Blank
import Mathlib.Data.List.DropRight

namespace HubConsole.Text

/-- The lines of a text. -/
def linesOf (s : String) : List (List Char) := s.toList.splitOn '\n'

section DropEnd

variable {α : Type} {p : α → Bool}

theorem dropEnd_eq_nil_iff {l : List α} : dropEnd p l = [] ↔ l.all p := by
  rw [dropEnd, List.reverse_eq_nil_iff, List.dropWhile_eq_nil_iff, List.all_eq_true]
  simp only [List.mem_reverse]

theorem dropEnd_concat_of_neg (l : List α) (a : α) (h : p a = false) : dropEnd p (l ++ [a]) = l ++ [a] := by
  have hkept : ¬p a = true := by simp [h]
  exact List.rdropWhile_concat_neg p l a hkept

/-- What comes before a member that is kept is kept. -/
theorem dropEnd_append_of_exists (l r : List α) (h : ∃ a ∈ r, p a = false) :
    dropEnd p (l ++ r) = l ++ dropEnd p r := by
  induction r using List.reverseRecOn with
  | nil => simp at h
  | append_singleton r b ih =>
    rw [← List.append_assoc]
    cases hb : p b with
    | false =>
      rw [dropEnd_concat_of_neg _ b hb, dropEnd_concat_of_neg _ b hb, List.append_assoc]
    | true =>
      have hcut : [b].all p = true := by simp [hb]
      rw [dropEnd_append_of_all hcut, dropEnd_append_of_all hcut]
      obtain ⟨a, hmem, ha⟩ := h
      rcases List.mem_append.mp hmem with hmem | hmem
      · exact ih ⟨a, hmem, ha⟩
      · obtain rfl := List.mem_singleton.mp hmem
        simp [hb] at ha

theorem dropEnd_of_getLast? (l : List α) (a : α) (hlast : l.getLast? = some a) (h : p a = false) :
    dropEnd p l = l := by
  obtain ⟨front, rfl⟩ := List.getLast?_eq_some_iff.mp hlast
  exact dropEnd_concat_of_neg front a h

theorem getLast?_dropEnd (l : List α) : ∀ a ∈ (dropEnd p l).getLast?, p a = false := by
  intro a ha
  obtain ⟨hne, rfl⟩ := List.mem_getLast?_eq_getLast ha
  exact Bool.eq_false_iff.mpr (List.rdropWhile_last_not p l hne)

theorem dropEnd_dropEnd (l : List α) : dropEnd p (dropEnd p l) = dropEnd p l :=
  List.rdropWhile_idempotent p l

/-- All that is kept of a list by the opposite test is kept. -/
theorem filter_dropEnd (l : List α) : (dropEnd p l).filter (fun a => !p a) = l.filter fun a => !p a := by
  have hsplit : dropEnd p l ++ l.rtakeWhile p = l := List.rdropWhile_append_rtakeWhile
  have hcut : (l.rtakeWhile p).filter (fun a => !p a) = [] := by
    refine List.filter_eq_nil_iff.mpr fun a ha => ?_
    simp [List.mem_rtakeWhile_imp ha]
  conv_rhs => rw [← hsplit, List.filter_append, hcut, List.append_nil]

theorem mem_dropEnd_of_neg (l : List α) (a : α) (hmem : a ∈ l) (h : p a = false) : a ∈ dropEnd p l := by
  have hkept : a ∈ l.filter fun a => !p a := List.mem_filter.mpr ⟨hmem, by simp [h]⟩
  rw [← filter_dropEnd] at hkept
  exact (List.mem_filter.mp hkept).1

theorem mem_of_mem_dropEnd (l : List α) (a : α) (h : a ∈ dropEnd p l) : a ∈ l :=
  (List.rdropWhile_prefix p l).subset h

end DropEnd

theorem mem_of_mem_intercalate (sep : List Char) (pieces : List (List Char)) (c : Char)
    (h : c ∈ sep.intercalate pieces) : c ∈ sep ∨ ∃ piece ∈ pieces, c ∈ piece := by
  induction pieces with
  | nil => simp at h
  | cons piece pieces ih =>
    cases pieces with
    | nil =>
      rw [List.intercalate_singleton] at h
      exact .inr ⟨piece, List.mem_cons_self, h⟩
    | cons next pieces =>
      rw [List.intercalate_cons_cons, List.append_assoc, List.mem_append, List.mem_append] at h
      rcases h with hpiece | hsep | hrest
      · exact .inr ⟨piece, List.mem_cons_self, hpiece⟩
      · exact .inl hsep
      · rcases ih hrest with hsep | ⟨other, hmem, hc⟩
        · exact .inl hsep
        · exact .inr ⟨other, List.mem_cons_of_mem _ hmem, hc⟩

/-- The last of some joined pieces stands at the end, whatever it is. -/
theorem exists_intercalate_concat (sep : List Char) (front : List (List Char)) :
    ∃ before, ∀ last, sep.intercalate (front ++ [last]) = before ++ last := by
  induction front with
  | nil => exact ⟨[], fun last => List.intercalate_singleton⟩
  | cons line front ih =>
    obtain ⟨before, hbefore⟩ := ih
    refine ⟨line ++ sep ++ before, fun last => ?_⟩
    have hcons : sep.intercalate (line :: (front ++ [last])) =
        line ++ sep ++ sep.intercalate (front ++ [last]) := by
      cases front with
      | nil => exact List.intercalate_cons_cons
      | cons next front => exact List.intercalate_cons_cons
    rw [List.cons_append, hcons, hbefore]
    simp only [List.append_assoc]

/-- The lines of a text that is joined from lines and trimmed. -/
theorem linesOf_trimEnd_intercalate (front : List String) (last : String)
    (hfront : ∀ line ∈ front, '\n' ∉ line.toList) (hlast : '\n' ∉ last.toList)
    (hkept : ∃ c ∈ last.toList, isBlank c = false) :
    linesOf (trimEnd (String.intercalate "\n" (front ++ [last]))) =
      front.map String.toList ++ [dropEnd isBlank last.toList] := by
  obtain ⟨before, hbefore⟩ := exists_intercalate_concat ['\n'] (front.map String.toList)
  have htext : (String.intercalate "\n" (front ++ [last])).toList = before ++ last.toList := by
    rw [String.toList_intercalate, List.map_append]
    exact hbefore last.toList
  unfold linesOf trimEnd
  rw [String.toList_ofList, htext, dropEnd_append_of_exists _ _ hkept, ← hbefore]
  refine List.splitOn_intercalate '\n' ?_ (by simp)
  intro line hline
  rcases List.mem_append.mp hline with hmem | hmem
  · obtain ⟨s, hs, rfl⟩ := List.mem_map.mp hmem
    exact hfront s hs
  · obtain rfl := List.mem_singleton.mp hmem
    exact fun h => hlast (mem_of_mem_dropEnd _ _ h)

/-- The same below a heading, which may have lines of its own. -/
theorem linesOf_trimEnd_intercalate_cons (heading : String) (front : List String) (last : String)
    (hfront : ∀ line ∈ front, '\n' ∉ line.toList) (hlast : '\n' ∉ last.toList)
    (hkept : ∃ c ∈ last.toList, isBlank c = false) :
    linesOf (trimEnd (String.intercalate "\n" (heading :: (front ++ [last])))) =
      linesOf heading ++ (front.map String.toList ++ [dropEnd isBlank last.toList]) := by
  have hbelow := linesOf_trimEnd_intercalate front last hfront hlast hkept
  obtain ⟨before, hbefore⟩ := exists_intercalate_concat ['\n'] (front.map String.toList)
  have htext : (String.intercalate "\n" (front ++ [last])).toList = before ++ last.toList := by
    rw [String.toList_intercalate, List.map_append]
    exact hbefore last.toList
  have hcons : (String.intercalate "\n" (heading :: (front ++ [last]))).toList =
      heading.toList ++ ['\n'] ++ (before ++ last.toList) := by
    rw [← htext, String.toList_intercalate, String.toList_intercalate]
    cases front <;> exact List.intercalate_cons_cons
  unfold linesOf trimEnd at hbelow ⊢
  rw [String.toList_ofList, htext, dropEnd_append_of_exists _ _ hkept] at hbelow
  rw [← hbelow, String.toList_ofList, hcons, ← List.append_assoc, dropEnd_append_of_exists _ _ hkept,
    List.append_assoc, List.append_assoc]
  exact List.splitOnP_append_cons _ _ (beq_self_eq_true _)

end HubConsole.Text
