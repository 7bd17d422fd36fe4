import HubConsole.Text.Split

namespace HubConsole.Text

variable {separator : Char → Bool}

theorem splitAt_eq_splitOnP (cs : List Char) : splitAt separator cs = cs.splitOnP separator := by
  induction cs with
  | nil => rw [splitAt, List.splitOnP_nil]
  | cons c cs ih =>
    rw [splitAt, ih, List.splitOnP_cons_eq_if_modifyHead]
    obtain ⟨part, parts, hparts⟩ := List.exists_cons_of_ne_nil (List.splitOnP_ne_nil separator cs)
    rw [hparts, List.modifyHead_cons]

theorem splitAt_intercalate {c : Char} (hc : separator c) (parts : List (List Char)) (hne : parts ≠ [])
    (hfree : ∀ part ∈ parts, ∀ d ∈ part, separator d = false) :
    splitAt separator ([c].intercalate parts) = parts := by
  induction parts with
  | nil => cases hne rfl
  | cons part parts ih =>
    obtain ⟨hpart, hparts⟩ := List.forall_mem_cons.mp hfree
    cases parts with
    | nil => rw [List.intercalate_singleton, splitAt_eq_splitOnP, List.splitOnP_eq_singleton hpart]
    | cons next parts =>
      have hrest := ih (List.cons_ne_nil next parts) hparts
      rw [splitAt_eq_splitOnP] at hrest ⊢
      rw [List.intercalate_cons_cons, List.append_assoc, List.singleton_append,
        List.splitOnP_append_cons _ _ hc, List.splitOnP_eq_singleton hpart, hrest, List.singleton_append]

/-- No part holds a separator. -/
theorem separator_eq_false_of_mem_splitAt (cs : List Char) :
    ∀ part ∈ splitAt separator cs, ∀ c ∈ part, separator c = false := by
  induction cs with
  | nil => simp [splitAt]
  | cons c cs ih =>
    rw [splitAt]
    split
    · exact List.forall_mem_cons.mpr ⟨List.forall_mem_nil _, ih⟩
    · next hc =>
      split
      · next part parts hparts =>
        rw [hparts] at ih
        obtain ⟨hpart, hrest⟩ := List.forall_mem_cons.mp ih
        have hc' : separator c = false := Bool.eq_false_iff.mpr hc
        exact List.forall_mem_cons.mpr ⟨List.forall_mem_cons.mpr ⟨hc', hpart⟩, hrest⟩
      · next hnone => cases splitAt_ne_nil separator cs hnone

end HubConsole.Text
