import HubConsole.Json.Record
import HubConsole.Proofs.Json.Sorted
import Mathlib.Data.List.Forall2

namespace HubConsole.Json.Value

mutual

/-- No object in the value has two members with one key. -/
def Distinct : Value → Prop
  | .array items => DistinctItems items
  | .object members => (keys members).Nodup ∧ DistinctMembers members
  | .null | .bool _ | .number _ | .string _ => True

def DistinctItems : List Value → Prop
  | [] => True
  | v :: vs => Distinct v ∧ DistinctItems vs

def DistinctMembers : List (String × Value) → Prop
  | [] => True
  | (_, v) :: ms => Distinct v ∧ DistinctMembers ms

end

theorem distinct_array_iff (vs : List Value) : (array vs).Distinct ↔ ∀ v ∈ vs, v.Distinct := by
  rw [Distinct]
  induction vs with
  | nil => simp [DistinctItems]
  | cons v vs ih => rw [DistinctItems, ih, List.forall_mem_cons]

theorem distinct_object_iff (ms : List (String × Value)) :
    (object ms).Distinct ↔ (keys ms).Nodup ∧ ∀ m ∈ ms, m.2.Distinct := by
  have hmembers : DistinctMembers ms ↔ ∀ m ∈ ms, m.2.Distinct := by
    induction ms with
    | nil => simp [DistinctMembers]
    | cons m ms ih => rw [DistinctMembers, ih, List.forall_mem_cons]
  rw [Distinct, hmembers]

/-- What holds no object has no two members with one key. -/
theorem distinct_of_depth_eq_zero (v : Value) (h : v.depth = 0) : v.Distinct := by
  cases v with
  | null | bool _ | number _ | string _ => exact True.intro
  | array _ | object _ => cases h

attribute [irreducible] Distinct

theorem distinct_sorted (v : Value) : v.sorted.Distinct := by
  induction v using Value.induction with
  | null | bool _ | number _ | string _ => exact distinct_of_depth_eq_zero _ rfl
  | array items ih =>
    rw [sorted_array, distinct_array_iff, List.forall_mem_map]
    exact ih
  | object members ih =>
    rw [sorted_object, distinct_object_iff]
    refine ⟨(pairwise_keys_arrange _).imp ne_of_lt, fun m hm => ?_⟩
    obtain ⟨m', hm', rfl⟩ := List.mem_map.mp (mem_of_mem_arrange _ m hm)
    exact ih m' hm'

theorem toSource_ne_null {v : Value} (h : v ≠ .null) : v.toSource ≠ .null := by
  cases v with
  | null => exact absurd rfl h
  | bool _ | number _ | string _ | array _ | object _ => simp [toSource]

/-- A value is another one with its members in some order, and there is room for it. -/
structure Renders (w v : Value) (room : Nat) : Prop where
  same : w.sorted = v.sorted
  distinct : w.Distinct
  deep : w.depth ≤ room

namespace Renders

theorem self {v : Value} {room : Nat} (hdistinct : v.Distinct) (hdeep : v.depth ≤ room) :
    v.Renders v room := ⟨rfl, hdistinct, hdeep⟩

theorem sorted {v : Value} {room : Nat} (hdeep : v.depth ≤ room) : v.sorted.Renders v room :=
  ⟨sorted_sorted v, distinct_sorted v, depth_sorted_le v room hdeep⟩

variable {w : Value} {room : Nat}

theorem free {v : Value} (h : w.Renders v room) : w.toSource.free? room = some v.sorted := by
  rw [free?_toSource w room h.deep, h.same]

theorem bool {b : Bool} (h : w.Renders (.bool b) room) : w = .bool b := by
  have hsame := h.same
  cases w <;> simp_all [Value.sorted, ofMembers]

theorem number {n : Number} (h : w.Renders (.number n) room) : w = .number n := by
  have hsame := h.same
  cases w <;> simp_all [Value.sorted, ofMembers]

theorem string {s : String} (h : w.Renders (.string s) room) : w = .string s := by
  have hsame := h.same
  cases w <;> simp_all [Value.sorted, ofMembers]

theorem ne_null {v : Value} (h : w.Renders v room) (hv : v ≠ .null) : w ≠ .null := by
  have hsame := h.same
  rintro rfl
  cases v <;> simp_all [Value.sorted, ofMembers]

theorem array {vs : List Value} (h : w.Renders (.array vs) room) :
    ∃ ws, w = .array ws ∧ room ≠ 0 ∧ List.Forall₂ (fun w v => w.Renders v (room - 1)) ws vs := by
  obtain ⟨hsame, hdistinct, hdeep⟩ := h
  cases w with
  | array ws =>
    rw [sorted_array, sorted_array, Value.array.injEq, ← List.forall₂_eq_eq_eq,
      List.forall₂_map_left_iff, List.forall₂_map_right_iff] at hsame
    rw [distinct_array_iff] at hdistinct
    rw [depth_array_le_iff] at hdeep
    refine ⟨ws, rfl, hdeep.1, ?_⟩
    have hlength := hsame.length_eq
    rw [List.forall₂_iff_get] at hsame ⊢
    refine ⟨hlength, fun i hw hv => ⟨hsame.2 i hw hv, ?_, ?_⟩⟩
    · exact hdistinct _ (List.get_mem ..)
    · exact hdeep.2 _ (List.get_mem ..)
  | _ => simp_all [Value.sorted, ofMembers]

/-- A rendering of an object has a rendering of each member, and no others. -/
theorem object {own : List (String × Value)} (h : w.Renders (.object own) room)
    (hown : (keys own).Nodup) :
    ∃ ms, w = .object ms ∧ room ≠ 0 ∧ (keys ms).Nodup ∧
      (∀ m ∈ own, ∃ w, (m.1, w) ∈ ms ∧ w.Renders m.2 (room - 1)) ∧ (∀ k ∈ keys ms, k ∈ keys own) := by
  obtain ⟨hsame, hdistinct, hdeep⟩ := h
  cases w with
  | object ms =>
    rw [distinct_object_iff] at hdistinct
    rw [depth_object_le_iff] at hdeep
    have hkeys (ms : List (String × Value)) : keys (ms.map fun m => (m.1, m.2.sorted)) = keys ms := by
      simp [keys, Function.comp_def]
    have hmem (m : String × Value) :
        m ∈ ms.map (fun m => (m.1, m.2.sorted)) ↔ m ∈ own.map (fun m => (m.1, m.2.sorted)) := by
      rw [sorted_object, sorted_object, Value.object.injEq] at hsame
      rw [← mem_arrange _ m (by rw [hkeys]; exact hdistinct.1), hsame,
        mem_arrange _ m (by rw [hkeys]; exact hown)]
    refine ⟨ms, rfl, hdeep.1, hdistinct.1, fun m hm => ?_, fun k hk => ?_⟩
    · obtain ⟨m', hm', heq⟩ := List.mem_map.mp ((hmem (m.1, m.2.sorted)).mpr
        (List.mem_map_of_mem (f := fun m => (m.1, m.2.sorted)) hm))
      obtain ⟨hkey, hvalue⟩ := Prod.mk.inj heq
      exact ⟨m'.2, hkey ▸ hm', hvalue, hdistinct.2 m' hm', hdeep.2 m' hm'⟩
    · obtain ⟨m, hm, rfl⟩ := List.mem_map.mp hk
      obtain ⟨m', hm', heq⟩ := List.mem_map.mp ((hmem (m.1, m.2.sorted)).mp
        (List.mem_map_of_mem (f := fun m => (m.1, m.2.sorted)) hm))
      have hkey : m'.1 = m.1 := (Prod.mk.inj heq).1
      exact hkey ▸ List.mem_map_of_mem hm'
  | _ => simp_all [Value.sorted, ofMembers]

end Renders

theorem find?_toMembers_of_mem (key : String) (v : Value) (ms : List (String × Value))
    (hkeys : (keys ms).Nodup) (h : (key, v) ∈ ms) :
    ∃ i, Members.find? key (toMembers ms) = some (i, v.toSource) := by
  induction ms with
  | nil => cases h
  | cons m ms ih =>
    obtain ⟨hfresh, hkeys⟩ := List.nodup_cons.mp hkeys
    rcases List.mem_cons.mp h with rfl | h
    · exact ⟨0, by rw [toMembers, Members.find?, if_pos rfl]⟩
    · have hne : m.1 ≠ key := fun heq => hfresh (heq ▸ List.mem_map_of_mem h)
      obtain ⟨i, hi⟩ := ih hkeys h
      refine ⟨i + 1, ?_⟩
      rw [toMembers, Members.find?, if_neg fun heq => hne (Option.some.inj heq), hi]
      rfl

theorem find?_toMembers_of_not_mem (key : String) (ms : List (String × Value)) (h : key ∉ keys ms) :
    Members.find? key (toMembers ms) = none := by
  induction ms with
  | nil => rfl
  | cons m ms ih =>
    rw [keys, List.map_cons, List.mem_cons, not_or] at h
    rw [toMembers, Members.find?, if_neg fun heq => h.1 (Option.some.inj heq).symm, ih h.2]
    rfl

theorem misplaced?_go_toMembers (known seen : List String) (ms : List (String × Value))
    (hkeys : (keys ms).Nodup) (hseen : ∀ k ∈ keys ms, k ∉ seen) :
    Members.misplaced?.go known seen (toMembers ms) = none := by
  induction ms generalizing seen with
  | nil => rfl
  | cons m ms ih =>
    obtain ⟨hfresh, hkeys⟩ := List.nodup_cons.mp hkeys
    obtain ⟨hfirst, hrest⟩ := List.forall_mem_cons.mp hseen
    have hnext : ∀ k ∈ keys ms, k ∉ if m.1 ∈ known then m.1 :: seen else seen := by
      intro k hk
      split
      · rw [List.mem_cons, not_or]
        exact ⟨fun heq => hfresh (heq ▸ hk), hrest k hk⟩
      · exact hrest k hk
    rw [toMembers, Members.misplaced?.go, if_neg hfirst, ih _ hkeys hnext]
    rfl

/-- Members with different keys are all in their place. -/
theorem misplaced?_toMembers (known : List String) (ms : List (String × Value))
    (h : (keys ms).Nodup) : Members.misplaced? known (toMembers ms) = none :=
  misplaced?_go_toMembers known [] ms h fun _ _ => List.not_mem_nil

end HubConsole.Json.Value
