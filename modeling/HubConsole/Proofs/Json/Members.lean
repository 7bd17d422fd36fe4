import HubConsole.Json.Record
import HubConsole.Proofs.Json.Sorted
import Mathlib.Data.List.Count

namespace HubConsole.Json

section

variable {κ β : Type} [BEq κ] [LawfulBEq κ]

theorem count_cons_le_one_iff (key k : κ) (ks : List κ) :
    (k :: ks).count key ≤ 1 ↔ ks.count key ≤ 1 ∧ (k = key → key ∉ ks) := by
  rw [List.count_cons, ← List.count_eq_zero]
  by_cases hk : k = key
  · rw [if_pos (beq_iff_eq.mpr hk), imp_iff_right hk]
    omega
  · rw [if_neg fun h => hk (beq_iff_eq.mp h)]
    exact ⟨fun h => ⟨h, fun heq => absurd heq hk⟩, And.left⟩

/-- A key that stands once has one value. -/
theorem eq_of_mem_of_count_le_one {key : κ} {l : List (κ × β)} (honce : (l.map Prod.fst).count key ≤ 1)
    {a b : β} (ha : (key, a) ∈ l) (hb : (key, b) ∈ l) : a = b := by
  induction l with
  | nil => cases ha
  | cons m l ih =>
    obtain ⟨hrest, hfirst⟩ := (count_cons_le_one_iff key m.1 (l.map Prod.fst)).mp honce
    have hother {c : β} (hhead : (key, c) = m) {d : β} : (key, d) ∉ l := fun hd =>
      hfirst (congrArg Prod.fst hhead).symm (List.mem_map_of_mem (f := Prod.fst) hd)
    rcases List.mem_cons.mp ha with hhead | ha'
    · exact congrArg Prod.snd (hhead.trans ((List.mem_cons.mp hb).resolve_right (hother hhead)).symm)
    · rcases List.mem_cons.mp hb with hhead | hb'
      · exact absurd ha' (hother hhead)
      · exact ih hrest ha' hb'

end

namespace Members

/-- The keys of a document, with those that are no text. -/
def keys (ms : Members) : List (Option String) := ms.map (·.1)

theorem keys_cons (m : Option String × Source) (ms : Members) : keys (m :: ms) = m.1 :: keys ms := rfl

theorem find?_eq_none_iff (key : String) (ms : Members) :
    find? key ms = none ↔ ∀ s, (some key, s) ∉ ms := by
  induction ms with
  | nil => exact iff_of_true rfl fun _ => List.not_mem_nil
  | cons m ms ih =>
    rw [find?]
    by_cases hkey : m.1 = some key
    · rw [if_pos hkey]
      exact iff_of_false (Option.some_ne_none _) fun h => h m.2 (hkey ▸ List.mem_cons_self)
    · rw [if_neg hkey, Option.map_eq_none_iff, ih]
      refine forall_congr' fun s => not_congr ?_
      have hhead : (some key, s) ≠ m := fun heq => hkey (congrArg Prod.fst heq).symm
      rw [List.mem_cons, or_iff_right hhead]

theorem mem_of_find? {key : String} {ms : Members} {i : Nat} {s : Source}
    (h : find? key ms = some (i, s)) : (some key, s) ∈ ms := by
  induction ms generalizing i with
  | nil => cases h
  | cons m ms ih =>
    obtain ⟨k, t⟩ := m
    rw [find?] at h
    split at h
    · next hkey =>
      obtain ⟨-, rfl⟩ := Prod.mk.inj (Option.some.inj h)
      exact hkey ▸ List.mem_cons_self
    · obtain ⟨⟨j, t'⟩, hfind, heq⟩ := Option.map_eq_some_iff.mp h
      obtain ⟨-, rfl⟩ := Prod.mk.inj heq
      exact List.mem_cons_of_mem _ (ih hfind)

theorem find?_of_mem {key : String} {ms : Members} (honce : (keys ms).count (some key) ≤ 1) {s : Source}
    (h : (some key, s) ∈ ms) : ∃ i, find? key ms = some (i, s) := by
  cases hfind : find? key ms with
  | none => exact absurd h ((find?_eq_none_iff key ms).mp hfind s)
  | some r =>
    obtain ⟨i, t⟩ := r
    exact ⟨i, by rw [eq_of_mem_of_count_le_one honce h (mem_of_find? hfind)]⟩

theorem misplaced?_go_eq_none_iff (known seen : List String) (ms : Members) :
    misplaced?.go known seen ms = none ↔
      none ∉ keys ms ∧ (∀ k ∈ seen, some k ∉ keys ms) ∧ ∀ k ∈ known, (keys ms).count (some k) ≤ 1 := by
  induction ms generalizing seen with
  | nil => simp [misplaced?.go, keys]
  | cons m ms ih =>
    obtain ⟨key, s⟩ := m
    cases key with
    | none => simp [misplaced?.go, keys_cons]
    | some key =>
      rw [misplaced?.go, keys_cons]
      by_cases hseen : key ∈ seen
      · rw [if_pos hseen]
        exact iff_of_false (Option.some_ne_none _) fun h => h.2.1 key hseen List.mem_cons_self
      · rw [if_neg hseen, Option.map_eq_none_iff, ih]
        simp only [count_cons_le_one_iff]
        grind

/-- All members are in their place if each key is a text and each known one stands at most once. -/
theorem misplaced?_eq_none_iff (known : List String) (ms : Members) :
    misplaced? known ms = none ↔
      none ∉ keys ms ∧ ∀ k ∈ known, (keys ms).count (some k) ≤ 1 := by
  rw [misplaced?, misplaced?_go_eq_none_iff]
  exact and_congr_right fun _ => and_iff_right fun k hk => absurd hk List.not_mem_nil

end Members

namespace Value

theorem find?_cons (key : String) (m : String × Value) (ms : List (String × Value)) :
    (m :: ms).find? (·.1 == key) = if m.1 = key then some m else ms.find? (·.1 == key) := by
  rw [List.find?_cons]
  split <;> simp_all

theorem find?_insertMember (key k : String) (v : Value) (ms : List (String × Value)) :
    (insertMember k v ms).find? (·.1 == key) =
      if k = key then some (k, v) else ms.find? (·.1 == key) := by
  induction ms with
  | nil => exact find?_cons key (k, v) []
  | cons m ms ih =>
    unfold insertMember
    split
    · exact find?_cons key (k, v) (m :: ms)
    · split
      · next hsame =>
        rw [find?_cons, find?_cons, ← hsame]
        split <;> rfl
      · next hother =>
        rw [find?_cons, find?_cons, ih]
        by_cases hm : m.1 = key
        · rw [if_pos hm, if_pos hm, if_neg fun hk => hother (hk.trans hm.symm)]
        · rw [if_neg hm, if_neg hm]

/-- Of the members with a key the last one counts. -/
theorem get?_ofMembers (key : String) (ms : List (String × Value)) :
    (ofMembers ms).get? key = (ms.reverse.find? (·.1 == key)).map (·.2) := by
  have hfind : (arrange ms).find? (·.1 == key) = ms.reverse.find? (·.1 == key) := by
    induction ms using List.reverseRecOn with
    | nil => rfl
    | append_singleton ms m ih =>
      rw [arrange_snoc, find?_insertMember, ih, List.reverse_concat, find?_cons]
  rw [← hfind]
  rfl

/-- The value of a member whose key stands once. -/
theorem get?_ofMembers_of_mem {key : String} {ms : List (String × Value)}
    (honce : (keys ms).count key ≤ 1) {v : Value} (h : (key, v) ∈ ms) :
    (ofMembers ms).get? key = some v := by
  rw [get?_ofMembers]
  cases hfind : ms.reverse.find? (·.1 == key) with
  | none => exact absurd (List.find?_eq_none.mp hfind (key, v) (List.mem_reverse.mpr h)) (by simp)
  | some m =>
    have hkey : m.1 = key := by simpa using List.find?_some hfind
    have hmem : (key, m.2) ∈ ms := hkey ▸ List.mem_reverse.mp (List.mem_of_find?_eq_some hfind)
    rw [eq_of_mem_of_count_le_one honce h hmem]
    rfl

end Value

namespace Source

theorem of_freeMembers?_cons {room : Nat} {k : Option String} {s : Source} {ms : Members}
    {vs : List (String × Value)} (h : freeMembers? room ((k, s) :: ms) = some vs) :
    ∃ key v rest, k = some key ∧ s.free? room = some v ∧ freeMembers? room ms = some rest ∧
      vs = (key, v) :: rest := by
  unfold freeMembers? at h
  split at h
  · next key v rest hv hrest => exact ⟨key, v, rest, rfl, hv, hrest, (Option.some.inj h).symm⟩
  · cases h

/-- The members of a free value stand in the order of the document. -/
theorem keys_of_freeMembers? {room : Nat} {ms : Members} {vs : List (String × Value)}
    (h : freeMembers? room ms = some vs) : Members.keys ms = (Value.keys vs).map some := by
  induction ms generalizing vs with
  | nil =>
    obtain rfl := Option.some.inj h
    rfl
  | cons m ms ih =>
    obtain ⟨key, v, rest, hkey, -, hrest, rfl⟩ := of_freeMembers?_cons h
    rw [Members.keys_cons, ih hrest, hkey]
    rfl

theorem mem_of_freeMembers? {room : Nat} {ms : Members} {vs : List (String × Value)}
    (h : freeMembers? room ms = some vs) {key : String} {s : Source} (hmem : (some key, s) ∈ ms) :
    ∃ v, s.free? room = some v ∧ (key, v) ∈ vs := by
  induction ms generalizing vs with
  | nil => cases hmem
  | cons m ms ih =>
    obtain ⟨k, v, rest, hkey, hv, hrest, rfl⟩ := of_freeMembers?_cons h
    rcases List.mem_cons.mp hmem with hhead | hmem
    · subst hhead
      obtain rfl := Option.some.inj hkey
      exact ⟨v, hv, List.mem_cons_self⟩
    · obtain ⟨w, hw, hmem⟩ := ih hrest hmem
      exact ⟨w, hw, List.mem_cons_of_mem _ hmem⟩

/-- The free value of an object has under a key that stands once what the object has there. -/
theorem get?_of_free? {room : Nat} {ms : Members} {closed : Bool} {v : Value}
    (hfree : (Source.object ms closed).free? room = some v) {key : String}
    (honce : (Members.keys ms).count (some key) ≤ 1) {s : Source} (hmem : (some key, s) ∈ ms) :
    ∃ w, s.free? (room - 1) = some w ∧ v.get? key = some w := by
  rw [free?] at hfree
  split at hfree
  · cases hfree
  · obtain ⟨vs, hvs, rfl⟩ := Option.map_eq_some_iff.mp hfree
    obtain ⟨w, hw, hin⟩ := mem_of_freeMembers? hvs hmem
    rw [keys_of_freeMembers? hvs, List.count_map_of_injective _ _ (fun _ _ => Option.some.inj)] at honce
    exact ⟨w, hw, Value.get?_ofMembers_of_mem honce hin⟩

end Source
end HubConsole.Json
