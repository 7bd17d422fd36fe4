import HubConsole.Json.Source
import Mathlib.Data.List.Induction
import Mathlib.Data.String.Basic

namespace HubConsole.Json.Value

/-- What holds of the parts of a value holds of the value: the parts of an array are its items, the parts of
an object the values of its members. -/
theorem induction {motive : Value → Prop} (null : motive .null) (bool : ∀ b, motive (.bool b))
    (number : ∀ n, motive (.number n)) (string : ∀ s, motive (.string s))
    (array : ∀ items, (∀ v ∈ items, motive v) → motive (.array items))
    (object : ∀ members, (∀ m ∈ members, motive m.2) → motive (.object members)) (v : Value) :
    motive v := by
  refine Value.rec (motive_1 := motive) (motive_2 := fun items => ∀ v ∈ items, motive v)
    (motive_3 := fun members => ∀ m ∈ members, motive m.2) (motive_4 := fun m => motive m.2)
    null bool number string array object ?_ ?_ ?_ ?_ ?_ v
  · exact List.forall_mem_nil _
  · exact fun _ _ hv hvs => List.forall_mem_cons.mpr ⟨hv, hvs⟩
  · exact List.forall_mem_nil _
  · exact fun _ _ hm hms => List.forall_mem_cons.mpr ⟨hm, hms⟩
  · exact fun _ _ hv => hv

theorem toSources_eq_map (vs : List Value) : toSources vs = vs.map toSource := by
  induction vs with
  | nil => rfl
  | cons v vs ih => rw [toSources, ih, List.map_cons]

theorem sortedItems_eq_map (vs : List Value) : sortedItems vs = vs.map sorted := by
  induction vs with
  | nil => rfl
  | cons v vs ih => rw [sortedItems, ih, List.map_cons]

theorem sortedMembers_eq_map (ms : List (String × Value)) :
    sortedMembers ms = ms.map fun m => (m.1, m.2.sorted) := by
  induction ms with
  | nil => rfl
  | cons m ms ih => rw [sortedMembers, ih, List.map_cons]

/-- The keys of members, in the order in which they stand. -/
def keys (ms : List (String × Value)) : List String := ms.map Prod.fst

/-- The members that an object has in the end. -/
def arrange (ms : List (String × Value)) : List (String × Value) :=
  ms.foldl (fun ms m => insertMember m.1 m.2 ms) []

theorem arrange_snoc (ms : List (String × Value)) (m : String × Value) :
    arrange (ms ++ [m]) = insertMember m.1 m.2 (arrange ms) := by
  rw [arrange, List.foldl_append]
  rfl

theorem keys_insertMember (key : String) (v : Value) (ms : List (String × Value)) (k : String)
    (h : k ∈ keys (insertMember key v ms)) : k = key ∨ k ∈ keys ms := by
  induction ms with
  | nil => exact .inl (List.mem_singleton.mp h)
  | cons m ms ih =>
    unfold insertMember at h
    split_ifs at h with hless hsame
    · exact List.mem_cons.mp h
    · rcases List.mem_cons.mp h with h | h
      · exact .inl h
      · exact .inr (List.mem_cons_of_mem _ h)
    · rcases List.mem_cons.mp h with h | h
      · exact .inr (h ▸ List.mem_cons_self)
      · exact (ih h).imp_right (List.mem_cons_of_mem _)

theorem pairwise_keys_insertMember (key : String) (v : Value) (ms : List (String × Value))
    (h : (keys ms).Pairwise (· < ·)) : (keys (insertMember key v ms)).Pairwise (· < ·) := by
  induction ms with
  | nil => exact List.pairwise_singleton _ _
  | cons m ms ih =>
    obtain ⟨hfirst, hrest⟩ := List.pairwise_cons.mp h
    unfold insertMember
    split_ifs with hless hsame
    · refine List.pairwise_cons.mpr ⟨fun k hk => ?_, h⟩
      rcases List.mem_cons.mp hk with rfl | hk
      · exact hless
      · exact lt_trans hless (hfirst k hk)
    · exact List.pairwise_cons.mpr ⟨hsame ▸ hfirst, hrest⟩
    · refine List.pairwise_cons.mpr ⟨fun k hk => ?_, ih hrest⟩
      rcases keys_insertMember key v ms k hk with rfl | hk
      · exact lt_of_le_of_ne (not_lt.mp hless) (Ne.symm hsame)
      · exact hfirst k hk

theorem pairwise_keys_arrange (ms : List (String × Value)) :
    (keys (arrange ms)).Pairwise (· < ·) := by
  induction ms using List.reverseRecOn with
  | nil => exact List.Pairwise.nil
  | append_singleton ms m ih =>
    rw [arrange_snoc]
    exact pairwise_keys_insertMember m.1 m.2 _ ih

/-- Among members in order, one that is put in takes the place of the one with its key. -/
theorem mem_insertMember (key : String) (v : Value) (ms : List (String × Value))
    (m : String × Value) (h : (keys ms).Pairwise (· < ·)) :
    m ∈ insertMember key v ms ↔ m = (key, v) ∨ (m ∈ ms ∧ m.1 ≠ key) := by
  induction ms with
  | nil => simp [insertMember]
  | cons m' ms ih =>
    obtain ⟨hfirst, hrest⟩ := List.pairwise_cons.mp h
    have hlater : m ∈ ms → m'.1 < m.1 := fun hm => hfirst m.1 (List.mem_map_of_mem hm)
    unfold insertMember
    split_ifs with hless hsame
    · rw [List.mem_cons]
      refine or_congr_right (iff_self_and.mpr fun hm => ?_)
      rcases List.mem_cons.mp hm with rfl | hm
      · exact hless.ne'
      · exact (lt_trans hless (hlater hm)).ne'
    · rw [List.mem_cons, List.mem_cons]
      refine or_congr_right ⟨fun hm => ⟨.inr hm, hsame ▸ (hlater hm).ne'⟩, ?_⟩
      rintro ⟨rfl | hm, hne⟩
      · exact absurd hsame.symm hne
      · exact hm
    · rw [List.mem_cons, ih hrest, List.mem_cons]
      constructor
      · rintro (rfl | rfl | ⟨hm, hne⟩)
        · exact .inr ⟨.inl rfl, fun heq => hsame heq.symm⟩
        · exact .inl rfl
        · exact .inr ⟨.inr hm, hne⟩
      · rintro (rfl | ⟨rfl | hm, hne⟩)
        · exact .inr (.inl rfl)
        · exact .inl rfl
        · exact .inr (.inr ⟨hm, hne⟩)

theorem mem_of_mem_arrange (ms : List (String × Value)) (m : String × Value) (h : m ∈ arrange ms) :
    m ∈ ms := by
  induction ms using List.reverseRecOn with
  | nil => exact h
  | append_singleton ms last ih =>
    rw [arrange_snoc, mem_insertMember _ _ _ _ (pairwise_keys_arrange ms)] at h
    rcases h with rfl | ⟨h, -⟩
    · simp
    · exact List.mem_append_left _ (ih h)

/-- Members with different keys all stay. -/
theorem mem_arrange (ms : List (String × Value)) (m : String × Value) (h : (keys ms).Nodup) :
    m ∈ arrange ms ↔ m ∈ ms := by
  induction ms using List.reverseRecOn with
  | nil => exact Iff.rfl
  | append_singleton ms last ih =>
    rw [keys, List.map_append, List.nodup_append] at h
    obtain ⟨hnodup, -, hnew⟩ := h
    rw [arrange_snoc, mem_insertMember _ _ _ _ (pairwise_keys_arrange ms), ih hnodup,
      List.mem_append, List.mem_singleton, or_comm]
    refine or_congr_left (and_iff_left_of_imp fun hm => ?_)
    exact hnew m.1 (List.mem_map_of_mem hm) last.1 (List.mem_singleton_self _)

theorem insertMember_last (key : String) (v : Value) (ms : List (String × Value))
    (h : ∀ k ∈ keys ms, k < key) : insertMember key v ms = ms ++ [(key, v)] := by
  induction ms with
  | nil => rfl
  | cons m ms ih =>
    obtain ⟨hfirst, hrest⟩ := List.forall_mem_cons.mp h
    rw [insertMember, if_neg (not_lt.mpr hfirst.le), if_neg hfirst.ne', ih hrest, List.cons_append]

theorem arrange_of_pairwise (ms : List (String × Value)) (h : (keys ms).Pairwise (· < ·)) :
    arrange ms = ms := by
  induction ms using List.reverseRecOn with
  | nil => rfl
  | append_singleton ms last ih =>
    rw [keys, List.map_append, List.pairwise_append] at h
    obtain ⟨hsorted, -, hlast⟩ := h
    rw [arrange_snoc, ih hsorted]
    exact insertMember_last _ _ _ fun k hk => hlast k hk last.1 (List.mem_singleton_self _)

theorem sorted_array (vs : List Value) : (array vs).sorted = .array (vs.map sorted) := by
  rw [sorted, sortedItems_eq_map]

theorem sorted_object (ms : List (String × Value)) :
    (object ms).sorted = .object (arrange (ms.map fun m => (m.1, m.2.sorted))) := by
  rw [sorted, sortedMembers_eq_map]
  rfl

/-- Members that are in order, and their values as well, make an object in order. -/
theorem sorted_object_of_pairwise (ms : List (String × Value)) (hkeys : (keys ms).Pairwise (· < ·))
    (hvalues : ∀ m ∈ ms, m.2.sorted = m.2) : (object ms).sorted = .object ms := by
  have hmap : (ms.map fun m => (m.1, m.2.sorted)) = ms := by
    conv_rhs => rw [← List.map_id ms]
    exact List.map_congr_left fun m hm => Prod.ext rfl (hvalues m hm)
  rw [sorted_object, hmap, arrange_of_pairwise ms hkeys]

/-- An object made of values in order is in order. -/
theorem sorted_ofMembers (ms : List (String × Value)) (h : ∀ m ∈ ms, m.2.sorted = m.2) :
    (ofMembers ms).sorted = ofMembers ms :=
  sorted_object_of_pairwise (arrange ms) (pairwise_keys_arrange ms)
    fun m hm => h m (mem_of_mem_arrange ms m hm)

theorem sorted_array_of_forall (vs : List Value) (h : ∀ v ∈ vs, v.sorted = v) :
    (array vs).sorted = .array vs := by
  rw [sorted_array, List.map_congr_left h, List.map_id']

theorem sorted_ofNat (n : Nat) : (ofNat n).sorted = .ofNat n := by
  unfold ofNat ofInt
  split <;> rfl

theorem sorted_texts (texts : List String) :
    (array (texts.map .string)).sorted = .array (texts.map .string) :=
  sorted_array_of_forall _ (List.forall_mem_map.mpr fun _ _ => rfl)

theorem sorted_sorted (v : Value) : v.sorted.sorted = v.sorted := by
  induction v using Value.induction with
  | null | bool _ | number _ | string _ => rfl
  | array items ih =>
    rw [sorted_array]
    exact sorted_array_of_forall _ (List.forall_mem_map.mpr ih)
  | object members ih =>
    rw [sorted_object]
    exact sorted_ofMembers _ (List.forall_mem_map.mpr ih)

mutual

/-- How many brackets stand around the innermost part. -/
def depth : Value → Nat
  | .array items => itemDepth items + 1
  | .object members => memberDepth members + 1
  | .null | .bool _ | .number _ | .string _ => 0

def itemDepth : List Value → Nat
  | [] => 0
  | v :: vs => max (depth v) (itemDepth vs)

def memberDepth : List (String × Value) → Nat
  | [] => 0
  | (_, v) :: ms => max (depth v) (memberDepth ms)

end

theorem itemDepth_le_iff (vs : List Value) (n : Nat) : itemDepth vs ≤ n ↔ ∀ v ∈ vs, v.depth ≤ n := by
  induction vs with
  | nil => simp [itemDepth]
  | cons v vs ih => rw [itemDepth, Nat.max_le, ih, List.forall_mem_cons]

theorem memberDepth_le_iff (ms : List (String × Value)) (n : Nat) :
    memberDepth ms ≤ n ↔ ∀ m ∈ ms, m.2.depth ≤ n := by
  induction ms with
  | nil => simp [memberDepth]
  | cons m ms ih => rw [memberDepth, Nat.max_le, ih, List.forall_mem_cons]

theorem depth_array_le_iff (vs : List Value) (n : Nat) :
    (array vs).depth ≤ n ↔ n ≠ 0 ∧ ∀ v ∈ vs, v.depth ≤ n - 1 := by
  rw [← itemDepth_le_iff, depth]
  omega

theorem depth_object_le_iff (ms : List (String × Value)) (n : Nat) :
    (object ms).depth ≤ n ↔ n ≠ 0 ∧ ∀ m ∈ ms, m.2.depth ≤ n - 1 := by
  rw [← memberDepth_le_iff, depth]
  omega

theorem depth_sorted_le (v : Value) (n : Nat) (h : v.depth ≤ n) : v.sorted.depth ≤ n := by
  induction v using Value.induction generalizing n with
  | null | bool _ | number _ | string _ => exact h
  | array items ih =>
    rw [depth_array_le_iff] at h
    rw [sorted_array, depth_array_le_iff, List.forall_mem_map]
    exact ⟨h.1, fun v hv => ih v hv _ (h.2 v hv)⟩
  | object members ih =>
    rw [depth_object_le_iff] at h
    rw [sorted_object, depth_object_le_iff]
    refine ⟨h.1, fun m hm => ?_⟩
    obtain ⟨m', hm', rfl⟩ := List.mem_map.mp (mem_of_mem_arrange _ m hm)
    exact ih m' hm' _ (h.2 m' hm')

theorem freeItems?_toSources (room : Nat) (vs : List Value)
    (h : ∀ v ∈ vs, v.toSource.free? room = some v.sorted) :
    Source.freeItems? room (toSources vs) = some (vs.map sorted) := by
  induction vs with
  | nil => rfl
  | cons v vs ih =>
    obtain ⟨hfirst, hrest⟩ := List.forall_mem_cons.mp h
    simp only [toSources, Source.freeItems?, hfirst, ih hrest, List.map_cons]

theorem freeMembers?_toMembers (room : Nat) (ms : List (String × Value))
    (h : ∀ m ∈ ms, m.2.toSource.free? room = some m.2.sorted) :
    Source.freeMembers? room (toMembers ms) = some (ms.map fun m => (m.1, m.2.sorted)) := by
  induction ms with
  | nil => rfl
  | cons m ms ih =>
    obtain ⟨hfirst, hrest⟩ := List.forall_mem_cons.mp h
    simp only [toMembers, Source.freeMembers?, hfirst, ih hrest, List.map_cons]

/-- The document of a value is read as this value, in order. -/
theorem free?_toSource (v : Value) (room : Nat) (h : v.depth ≤ room) :
    v.toSource.free? room = some v.sorted := by
  induction v using Value.induction generalizing room with
  | null | bool _ | number _ | string _ => rfl
  | array items ih =>
    obtain ⟨hroom, hitems⟩ := (depth_array_le_iff items room).mp h
    have hfree := freeItems?_toSources (room - 1) items fun v hv => ih v hv _ (hitems v hv)
    rw [toSource, Source.free?, if_neg (by simp [hroom]), hfree, sorted_array]
    rfl
  | object members ih =>
    obtain ⟨hroom, hmembers⟩ := (depth_object_le_iff members room).mp h
    have hfree := freeMembers?_toMembers (room - 1) members fun m hm => ih m hm _ (hmembers m hm)
    rw [toSource, Source.free?, if_neg (by simp [hroom]), hfree, sorted_object]
    rfl

end HubConsole.Json.Value

namespace HubConsole.Json.Source

mutual

/-- What is read as a free value is in order and has room. -/
theorem sorted_of_free? (s : Source) (room : Nat) (v : Value) (h : s.free? room = some v) :
    v.sorted = v ∧ v.depth ≤ room := by
  match s with
  | .null =>
    obtain rfl := Option.some.inj h
    exact ⟨rfl, Nat.zero_le room⟩
  | .bool b =>
    obtain rfl := Option.some.inj h
    exact ⟨rfl, Nat.zero_le room⟩
  | .number n =>
    obtain ⟨n, -, rfl⟩ := Option.map_eq_some_iff.mp h
    exact ⟨rfl, Nat.zero_le room⟩
  | .string s =>
    obtain ⟨s, -, rfl⟩ := Option.map_eq_some_iff.mp h
    exact ⟨rfl, Nat.zero_le room⟩
  | .array items closed =>
    rw [free?] at h
    split_ifs at h with hopen
    obtain ⟨vs, hvs, rfl⟩ := Option.map_eq_some_iff.mp h
    have hall := sorted_of_freeItems? items (room - 1) vs hvs
    refine ⟨Value.sorted_array_of_forall vs fun v hv => (hall v hv).1, ?_⟩
    exact (Value.depth_array_le_iff vs room).mpr
      ⟨fun hroom => hopen (.inl hroom), fun v hv => (hall v hv).2⟩
  | .object members closed =>
    rw [free?] at h
    split_ifs at h with hopen
    obtain ⟨ms, hms, rfl⟩ := Option.map_eq_some_iff.mp h
    have hall := sorted_of_freeMembers? members (room - 1) ms hms
    refine ⟨Value.sorted_ofMembers ms fun m hm => (hall m hm).1, ?_⟩
    refine (Value.depth_object_le_iff (Value.arrange ms) room).mpr
      ⟨fun hroom => hopen (.inl hroom), fun m hm => ?_⟩
    exact (hall m (Value.mem_of_mem_arrange ms m hm)).2
  | .broken => cases h

theorem sorted_of_freeItems? (ss : List Source) (room : Nat) (vs : List Value)
    (h : freeItems? room ss = some vs) : ∀ v ∈ vs, v.sorted = v ∧ v.depth ≤ room := by
  match ss with
  | [] =>
    obtain rfl := Option.some.inj h
    exact List.forall_mem_nil _
  | s :: ss =>
    rw [freeItems?] at h
    split at h
    · next v vs hv hvs =>
      obtain rfl := Option.some.inj h
      exact List.forall_mem_cons.mpr ⟨sorted_of_free? s room v hv, sorted_of_freeItems? ss room vs hvs⟩
    · cases h

theorem sorted_of_freeMembers? (ms : List (Option String × Source)) (room : Nat)
    (vs : List (String × Value)) (h : freeMembers? room ms = some vs) :
    ∀ m ∈ vs, m.2.sorted = m.2 ∧ m.2.depth ≤ room := by
  match ms with
  | [] =>
    obtain rfl := Option.some.inj h
    exact List.forall_mem_nil _
  | (k, s) :: ms =>
    unfold freeMembers? at h
    split at h
    · next k v vs hv hvs =>
      obtain rfl := Option.some.inj h
      exact List.forall_mem_cons.mpr ⟨sorted_of_free? s room v hv, sorted_of_freeMembers? ms room vs hvs⟩
    · cases h

end

end HubConsole.Json.Source
