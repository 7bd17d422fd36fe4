import HubConsole.Proofs.Json.Renderings

namespace HubConsole.Json

/-- A reader and a writer that belong together. `Proper` says what the reader gives; `base` bounds the depth
of what is written for members that were absent. -/
structure Reader.Lawful {α : Type} (read : Reader α) (write : α → Value) (Proper : α → Prop)
    (base : Nat) : Prop where
  read_rendering : ∀ {a w room}, Proper a → Value.Renders w (write a) room →
    read room w.toSource = .ok a
  distinct : ∀ {a}, Proper a → (write a).Distinct
  proper : ∀ {room s a}, read room s = .ok a → Proper a
  depth : ∀ {room s a}, read room s = .ok a → (write a).depth ≤ max room base

namespace Reader

variable {α : Type} {read : Reader α} {write : α → Value} {Proper : α → Prop} {base : Nat}

theorem Lawful.congr (h : Lawful read write Proper base) (Proper' : α → Prop)
    (hiff : ∀ a, Proper a ↔ Proper' a) : Lawful read write Proper' base where
  read_rendering ha := h.read_rendering ((hiff _).mpr ha)
  distinct ha := h.distinct ((hiff _).mpr ha)
  proper hread := (hiff _).mp (h.proper hread)
  depth := h.depth

/-- What was read from a document is read again from what is written for it. -/
theorem Lawful.reread (h : Lawful read write Proper base) (hbase : base ≤ depthLimit) {s : Source} {a : α}
    (hread : read depthLimit s = .ok a) : read depthLimit (write a).toSource = .ok a := by
  have hproper := h.proper hread
  have hdepth := h.depth hread
  rw [max_eq_left hbase] at hdepth
  exact h.read_rendering hproper (Value.Renders.self (h.distinct hproper) hdepth)

theorem text_lawful : Lawful text .string (fun _ => True) 0 where
  read_rendering _ h := by
    rw [h.string]
    rfl
  distinct _ := Value.distinct_of_depth_eq_zero _ rfl
  proper _ := trivial
  depth _ := Nat.zero_le _

theorem bool_lawful : Lawful bool .bool (fun _ => True) 0 where
  read_rendering _ h := by
    rw [h.bool]
    rfl
  distinct _ := Value.distinct_of_depth_eq_zero _ rfl
  proper _ := trivial
  depth _ := Nat.zero_le _

theorem double_lawful : Lawful double writeDouble (fun _ => True) 0 where
  read_rendering _ h := by
    rw [h.number]
    rfl
  distinct _ := Value.distinct_of_depth_eq_zero _ rfl
  proper _ := trivial
  depth _ := Nat.zero_le _

theorem ofInt_eq_number (n : Int) (h : Fits n) : Value.ofInt n = .number (.int n h) := by
  rw [Value.ofInt, dif_pos h]

theorem depth_ofInt (n : Int) : (Value.ofInt n).depth = 0 := by
  unfold Value.ofInt
  split <;> rfl

theorem int_eq_ok (low high : Int) (room : Nat) (s : Source) (n : Int)
    (h : int low high room s = .ok n) : low ≤ n ∧ n < high := by
  unfold int at h
  split at h
  · split_ifs at h with hrange
    obtain rfl := Except.ok.inj h
    exact hrange
  · cases h

theorem int_rendering {low high n : Int} {w : Value} {room : Nat} (hfits : Fits n)
    (hrange : low ≤ n ∧ n < high) (h : w.Renders (.ofInt n) room) :
    int low high room w.toSource = .ok n := by
  rw [ofInt_eq_number n hfits] at h
  rw [h.number]
  exact if_pos hrange

/-- The integers of 64 bits with a sign. -/
def Int64 (n : Int) : Prop := -twoTo 63 ≤ n ∧ n < twoTo 63

theorem Int64.fits {n : Int} (h : Int64 n) : Fits n := by
  refine ⟨h.1, lt_trans h.2 ?_⟩
  decide

theorem int64_lawful : Lawful int64 Value.ofInt Int64 0 where
  read_rendering hn h := int_rendering hn.fits hn h
  distinct _ := Value.distinct_of_depth_eq_zero _ (depth_ofInt _)
  proper hread := int_eq_ok _ _ _ _ _ hread
  depth _ := (depth_ofInt _).trans_le (Nat.zero_le _)

theorem depth_ofNat (n : Nat) : (Value.ofNat n).depth = 0 := by
  unfold Value.ofNat
  -- At a natural number the test for 64 bits must not be evaluated.
  generalize (n : Int) = i
  exact depth_ofInt i

theorem fits_of_lt {n : Nat} (h : n < twoTo 64) : Fits (n : Int) := by
  have hpos := zero_lt_twoTo 63
  omega

/-- The natural numbers of 32 bits. -/
def Nat32 (n : Nat) : Prop := n < twoTo 32

theorem ofNat_eq_number (n : Nat) (h : n < twoTo 64) : Value.ofNat n = .number (.int n (fits_of_lt h)) :=
  ofInt_eq_number n (fits_of_lt h)

theorem nat32_lawful : Lawful nat32 Value.ofNat Nat32 0 where
  read_rendering {n w room} hn h := by
    have hle : twoTo 32 ≤ twoTo 64 := by decide
    have hrange : (0 : Int) ≤ n ∧ (n : Int) < twoTo 32 := ⟨Int.natCast_nonneg n, Int.ofNat_lt.mpr hn⟩
    have hread := int_rendering (fits_of_lt (lt_of_lt_of_le hn hle)) hrange h
    rw [nat32, hread]
    rfl
  distinct _ := Value.distinct_of_depth_eq_zero _ (depth_ofNat _)
  proper {room s n} hread := by
    rw [nat32] at hread
    cases hint : int 0 (twoTo 32) room s with
    | error e => rw [hint] at hread; cases hread
    | ok i =>
      rw [hint] at hread
      obtain rfl : i.toNat = n := Except.ok.inj hread
      have hrange := int_eq_ok _ _ _ _ _ hint
      exact (Int.toNat_lt hrange.1).mpr hrange.2
  depth _ := (depth_ofNat _).trans_le (Nat.zero_le _)

/-- A free value is read in the order of its keys. -/
theorem free_lawful : Lawful free id (fun v => v.sorted = v) 0 where
  read_rendering hv h := by
    rw [free, h.free, id, hv]
  distinct hv := hv ▸ Value.distinct_sorted _
  proper hread := by
    unfold free at hread
    split at hread
    · next v hfree =>
      obtain rfl := Except.ok.inj hread
      exact (Source.sorted_of_free? _ _ _ hfree).1
    · cases hread
  depth hread := by
    unfold free at hread
    split at hread
    · next v hfree =>
      obtain rfl := Except.ok.inj hread
      exact le_max_of_le_left (Source.sorted_of_free? _ _ _ hfree).2
    · cases hread

/-- Only null is read as the free value null. -/
theorem ne_null_of_free {room : Nat} {s : Source} {v : Value} (h : free room s = .ok v)
    (hs : s ≠ .null) : v ≠ .null := by
  unfold free at h
  split at h
  · next w hfree =>
    obtain rfl := Except.ok.inj h
    rintro rfl
    cases s <;> simp_all [Source.free?, Value.ofMembers]
  · cases h

theorem name_lawful (nameOf : α → String) (ofName? : String → Option α)
    (hname : ∀ a, ofName? (nameOf a) = some a) :
    Lawful (name ofName?) (fun a => .string (nameOf a)) (fun _ => True) 0 where
  read_rendering _ h := by
    rw [h.string]
    simp only [Value.toSource, name, hname, name.ofOption]
  distinct _ := Value.distinct_of_depth_eq_zero _ rfl
  proper _ := trivial
  depth _ := Nat.zero_le _

theorem nullable_of_ne_null {room : Nat} {s : Source} (h : s ≠ .null) :
    nullable read room s = (read room s).map some := by
  unfold nullable
  split
  · exact absurd rfl h
  · rfl

theorem of_nullable {room : Nat} {s : Source} {o : Option α} (h : nullable read room s = .ok o) :
    o = none ∨ ∃ a, o = some a ∧ s ≠ .null ∧ read room s = .ok a := by
  by_cases hs : s = .null
  · subst hs
    exact .inl (Except.ok.inj h).symm
  · rw [nullable_of_ne_null hs] at h
    cases hread : read room s with
    | error e => rw [hread] at h; cases h
    | ok a =>
      rw [hread] at h
      exact .inr ⟨a, (Except.ok.inj h).symm, hs, rfl⟩

/-- Reading the items of an array one by one. -/
theorem items_eq_ok_iff (room : Nat) (ss : List Source) (as : List α) :
    items read room ss = .ok as ↔ List.Forall₂ (fun s a => read room s = .ok a) ss as := by
  induction ss generalizing as with
  | nil =>
    rw [items, List.forall₂_nil_left_iff, Except.ok.injEq, eq_comm]
  | cons s ss ih =>
    rw [items]
    constructor
    · intro h
      split at h
      · cases h
      · next a ha =>
        split at h
        · cases h
        · next rest hrest =>
          obtain rfl := Except.ok.inj h
          exact .cons ha ((ih rest).mp hrest)
    · intro h
      obtain ⟨a, rest, ha, hrest, rfl⟩ := List.forall₂_cons_left_iff.mp h
      rw [ha, (ih rest).mpr hrest]

theorem list_eq_ok (room : Nat) (s : Source) (as : List α) (h : list read room s = .ok as) :
    room ≠ 0 ∧ ∃ ss closed, s = .array ss closed ∧
      List.Forall₂ (fun s a => read (room - 1) s = .ok a) ss as := by
  unfold list at h
  split at h
  · next ss closed =>
    by_cases hroom : room = 0
    · rw [if_pos hroom] at h
      cases h
    · rw [if_neg hroom] at h
      split at h
      · cases h
      · next as' has =>
        split at h
        · obtain rfl := Except.ok.inj h
          exact ⟨hroom, ss, closed, rfl, (items_eq_ok_iff _ _ _).mp has⟩
        · cases h
  · cases h

theorem forall_mem_of_forall₂ {β : Type} {R : β → α → Prop} {P : α → Prop} {bs : List β} {as : List α}
    (h : List.Forall₂ R bs as) (hall : ∀ b a, R b a → P a) : ∀ a ∈ as, P a := by
  induction h with
  | nil => exact List.forall_mem_nil _
  | cons hhead _ ih => exact List.forall_mem_cons.mpr ⟨hall _ _ hhead, ih⟩

theorem Lawful.list (h : Lawful read write Proper base) :
    Lawful (Reader.list read) (writeList write) (fun as => ∀ a ∈ as, Proper a) (base + 1) where
  read_rendering {as w room} has hw := by
    obtain ⟨ws, rfl, hroom, hws⟩ := hw.array
    have hitems : items read (room - 1) (Value.toSources ws) = .ok as := by
      rw [items_eq_ok_iff, Value.toSources_eq_map, List.forall₂_map_left_iff]
      rw [List.forall₂_map_right_iff] at hws
      clear hw hroom
      induction hws with
      | nil => exact .nil
      | cons hhead _ ih =>
        obtain ⟨hfirst, hrest⟩ := List.forall_mem_cons.mp has
        exact .cons (h.read_rendering hfirst hhead) (ih hrest)
    rw [Value.toSource, Reader.list, if_neg hroom, hitems]
    rfl
  distinct has := by
    rw [writeList, Value.distinct_array_iff, List.forall_mem_map]
    exact fun a ha => h.distinct (has a ha)
  proper hread := by
    obtain ⟨-, ss, closed, -, hss⟩ := list_eq_ok _ _ _ hread
    exact forall_mem_of_forall₂ hss fun s a => h.proper
  depth {room s as} hread := by
    obtain ⟨hroom, ss, closed, -, hss⟩ := list_eq_ok _ _ _ hread
    rw [writeList, Value.depth_array_le_iff, List.forall_mem_map]
    refine ⟨by omega, forall_mem_of_forall₂ hss fun s a ha => ?_⟩
    have hdepth := h.depth ha
    omega

theorem texts_lawful : Lawful texts writeTexts (fun _ => True) 1 :=
  text_lawful.list.congr _ fun _ => by simp

theorem doubles_lawful : Lawful (Reader.list double) (writeList writeDouble) (fun _ => True) 1 :=
  double_lawful.list.congr _ fun _ => by simp

theorem frees_lawful : Lawful (Reader.list free) .array (fun vs => ∀ v ∈ vs, v.sorted = v) 1 := by
  have hwrite : writeList id = Value.array := by
    funext vs
    rw [writeList, List.map_id]
  exact hwrite ▸ free_lawful.list

end Reader

end HubConsole.Json
