import HubConsole.Proofs.Json.Lawful

namespace HubConsole.Json.Form

/-- The members that stand under some keys are renderings of `own`, and there are no others under them. -/
structure Covers (room : Nat) (keys : List String) (own : List (String × Value)) (ms : Members) :
    Prop where
  present : ∀ m ∈ own, ∃ i w, ms.find? m.1 = some (i, Value.toSource w) ∧ w.Renders m.2 room
  absent : ∀ k ∈ keys, k ∉ Value.keys own → ms.find? k = none

/-- Some of the keys, with the members that stand under them. -/
theorem Covers.part {room : Nat} {keys part : List String} {own mine : List (String × Value)} {ms : Members}
    (h : Covers room keys own ms) (hkeys : part ⊆ keys) (hmine : mine ⊆ own)
    (hothers : ∀ k ∈ part, k ∈ Value.keys own → k ∈ Value.keys mine) : Covers room part mine ms where
  present m hm := h.present m (hmine hm)
  absent k hk hnot := h.absent k (hkeys hk) fun hmem => hnot (hothers k hk hmem)

/-- A form that makes its value of parts that can be written as `own` and read again. -/
structure Lawful {σ κ : Type} (form : Form κ) (value : σ → κ) (own : σ → List (String × Value))
    (Proper : σ → Prop) (base : Nat) : Prop where
  keys_own : ∀ a, (Value.keys (own a)).Sublist form.keys
  distinct : ∀ {a}, Proper a → ∀ m ∈ own a, m.2.Distinct
  ofMembers_own : ∀ {a room ms}, form.keys.Nodup → Proper a → Covers room form.keys (own a) ms →
    form.ofMembers room ms = .ok (value a)
  of_ofMembers : ∀ {room ms k}, form.ofMembers room ms = .ok k →
    ∃ a, value a = k ∧ Proper a ∧ ∀ m ∈ own a, m.2.depth ≤ max room base
  of_ofItems : ∀ {room items k rest}, form.ofItems room items = .ok (k, rest) →
    ∃ a, value a = k ∧ Proper a ∧ ∀ m ∈ own a, m.2.depth ≤ max room base

section

variable {α β : Type} {room : Nat} {ms : Members}

theorem map_ofMembers {x : Form α} {a : α} (g : α → β) (hx : x.ofMembers room ms = .ok a) :
    (g <$> x).ofMembers room ms = .ok (g a) := by
  change (Form.seq (Form.pure g) x).ofMembers room ms = _
  simp only [Form.seq, Form.pure, hx]

theorem seq_ofMembers {f : Form (α → β)} {x : Form α} {g : α → β} {a : α}
    (hf : f.ofMembers room ms = .ok g) (hx : x.ofMembers room ms = .ok a) :
    (f <*> x).ofMembers room ms = .ok (g a) := by
  change (Form.seq f x).ofMembers room ms = _
  simp only [Form.seq, hf, hx]

theorem withDefault_absent {key : String} {read : Reader α} {a : α} (h : ms.find? key = none) :
    (withDefault key read a).ofMembers room ms = .ok a := by
  simp only [withDefault, member, h]

theorem optional_present {key : String} {read : Reader α} {a : α} {i : Nat} {s : Source}
    (h : ms.find? key = some (i, s)) (hnull : s ≠ .null) (hread : read room s = .ok a) :
    (optional key read).ofMembers room ms = .ok (some a) := by
  simp only [optional, withDefault, member, h, Reader.nullable_of_ne_null hnull, hread, Except.map]

end

section member

variable {α : Type} {read : Reader α} {write : α → Value} {Proper : α → Prop} {base : Nat}

theorem of_member_ofMembers {key : String} {missing : Option α} {room : Nat} {ms : Members} {a : α}
    (h : (member key read missing).ofMembers room ms = .ok a) :
    (∃ s, read room s = .ok a) ∨ missing = some a := by
  simp only [member] at h
  split at h
  · next i s hfind =>
    split at h
    · next a' ha =>
      obtain rfl := Except.ok.inj h
      exact .inl ⟨s, ha⟩
    · cases h
  · obtain rfl := Except.ok.inj h
    exact .inr rfl
  · cases h

theorem of_member_ofItems {key : String} {missing : Option α} {room : Nat} {items : List Source}
    {a : α} {rest : List Source} (h : (member key read missing).ofItems room items = .ok (a, rest)) :
    (∃ s, read room s = .ok a) ∨ missing = some a := by
  simp only [member] at h
  split at h
  · next s rest' =>
    split at h
    · next a' ha =>
      obtain ⟨rfl, -⟩ := Prod.mk.inj (Except.ok.inj h)
      exact .inl ⟨s, ha⟩
    · cases h
  · obtain ⟨rfl, -⟩ := Prod.mk.inj (Except.ok.inj h)
    exact .inr rfl
  · cases h

theorem proper_member {key : String} {missing : Option α} {own : α → Option Value} {room : Nat} {a : α}
    (h : (∃ s, read room s = .ok a) ∨ missing = some a)
    (hread : ∀ s, read room s = .ok a → Proper a ∧ ∀ v ∈ own a, Value.depth v ≤ max room base)
    (hmissing : missing = some a → Proper a ∧ ∀ v ∈ own a, Value.depth v ≤ base) :
    Proper a ∧ ∀ m ∈ (own a).toList.map (fun v => (key, v)), m.2.depth ≤ max room base := by
  rw [List.forall_mem_map]
  rcases h with ⟨s, hs⟩ | hs
  · exact ⟨(hread s hs).1, fun v hv => (hread s hs).2 v (Option.mem_toList.mp hv)⟩
  · exact ⟨(hmissing hs).1, fun v hv =>
      le_max_of_le_right ((hmissing hs).2 v (Option.mem_toList.mp hv))⟩

/-- A member is lawful if what is written for it is read as it, or nothing is written and that stands for
it. -/
theorem member_lawful {key : String} {missing : Option α} (own : α → Option Value)
    (hown : ∀ {a v}, Proper a → own a = some v → v.Distinct ∧
      ∀ {w room}, Value.Renders w v room → read room w.toSource = .ok a)
    (hnone : ∀ {a}, own a = none → missing = some a)
    (hread : ∀ {room s a}, read room s = .ok a →
      Proper a ∧ ∀ v ∈ own a, Value.depth v ≤ max room base)
    (hmissing : ∀ {a}, missing = some a → Proper a ∧ ∀ v ∈ own a, Value.depth v ≤ base) :
    Lawful (member key read missing) id (fun a => (own a).toList.map fun v => (key, v)) Proper base where
  keys_own a := by
    cases own a with
    | none => exact List.nil_sublist _
    | some v => exact List.Sublist.refl _
  distinct {a} ha := by
    cases hv : own a with
    | none => exact List.forall_mem_nil _
    | some v => exact List.forall_mem_singleton.mpr (hown ha hv).1
  ofMembers_own {a room ms} _ ha hms := by
    cases hv : own a with
    | none =>
      have hfind := hms.absent key (List.mem_singleton_self key) (by simp [hv, Value.keys])
      simp only [member, hfind, hnone hv, id]
    | some v =>
      obtain ⟨i, w, hfind, hw⟩ := hms.present (key, v) (by simp [hv])
      simp only [member, hfind, (hown ha hv).2 hw, id]
  of_ofMembers h := ⟨_, rfl, proper_member (of_member_ofMembers h) (fun _ => hread) hmissing⟩
  of_ofItems h := ⟨_, rfl, proper_member (of_member_ofItems h) (fun _ => hread) hmissing⟩

theorem required_lawful (key : String) (h : Reader.Lawful read write Proper base) :
    Lawful (required key read) id (fun a => [(key, write a)]) Proper base := by
  refine member_lawful (fun a => some (write a)) ?_ ?_ ?_ ?_
  · intro a v ha hv
    obtain rfl := Option.some.inj hv
    exact ⟨h.distinct ha, h.read_rendering ha⟩
  · intro a hnone
    cases hnone
  · intro room s a hread
    refine ⟨h.proper hread, fun v hv => ?_⟩
    obtain rfl := Option.some.inj hv
    exact h.depth hread
  · intro a hmissing
    cases hmissing

theorem withDefault_lawful (key : String) (missing : α) (h : Reader.Lawful read write Proper base)
    (hproper : Proper missing) (hdepth : (write missing).depth ≤ base) :
    Lawful (withDefault key read missing) id (fun a => [(key, write a)]) Proper base := by
  refine member_lawful (fun a => some (write a)) ?_ ?_ ?_ ?_
  · intro a v ha hv
    obtain rfl := Option.some.inj hv
    exact ⟨h.distinct ha, h.read_rendering ha⟩
  · intro a hnone
    cases hnone
  · intro room s a hread
    refine ⟨h.proper hread, fun v hv => ?_⟩
    obtain rfl := Option.some.inj hv
    exact h.depth hread
  · intro a hmissing
    obtain rfl := Option.some.inj hmissing
    refine ⟨hproper, fun v hv => ?_⟩
    obtain rfl := Option.some.inj hv
    exact hdepth

/-- What is written for a value that was read must not be null, as null is read as nothing. -/
theorem optional_lawful_of_read (key : String) (h : Reader.Lawful read write Proper base)
    (hnull : ∀ {room s a}, read room s = .ok a → s ≠ .null → write a ≠ .null) :
    Lawful (optional key read) id (writeOptional key write)
      (fun o => ∀ a ∈ o, Proper a ∧ write a ≠ .null) base := by
  have hown : writeOptional key write =
      fun o : Option α => (o.map write).toList.map fun v => (key, v) := by
    funext o
    cases o <;> rfl
  rw [hown]
  refine member_lawful (fun o : Option α => o.map write) ?_ ?_ ?_ ?_
  · intro o v ho hv
    obtain ⟨a, rfl, rfl⟩ := Option.map_eq_some_iff.mp hv
    obtain ⟨ha, hwrite⟩ := ho a rfl
    refine ⟨h.distinct ha, fun {w room} hw => ?_⟩
    rw [Reader.nullable_of_ne_null (Value.toSource_ne_null (hw.ne_null hwrite)),
      h.read_rendering ha hw]
    rfl
  · intro o hnone
    rw [Option.map_eq_none_iff.mp hnone]
  · intro room s o hread
    rcases Reader.of_nullable hread with rfl | ⟨a, rfl, hs, ha⟩
    · exact ⟨by simp, by simp⟩
    · refine ⟨fun b hb => ?_, fun v hv => ?_⟩
      · obtain rfl := Option.some.inj hb
        exact ⟨h.proper ha, hnull ha hs⟩
      · obtain rfl := Option.some.inj hv
        exact h.depth ha
  · intro o hmissing
    obtain rfl := Option.some.inj hmissing
    exact ⟨by simp, by simp⟩

end member

section record

variable {σ τ κ α : Type}

theorem Lawful.congr {form : Form κ} {value : σ → κ} {own : σ → List (String × Value)}
    {Proper : σ → Prop} {base : Nat} (h : Lawful form value own Proper base) (Proper' : σ → Prop)
    (hiff : ∀ a, Proper a ↔ Proper' a) : Lawful form value own Proper' base where
  keys_own := h.keys_own
  distinct ha := h.distinct ((hiff _).mpr ha)
  ofMembers_own hkeys ha := h.ofMembers_own hkeys ((hiff _).mpr ha)
  of_ofMembers hread :=
    let ⟨a, hvalue, ha, hdepth⟩ := h.of_ofMembers hread
    ⟨a, hvalue, (hiff a).mp ha, hdepth⟩
  of_ofItems hread :=
    let ⟨a, hvalue, ha, hdepth⟩ := h.of_ofItems hread
    ⟨a, hvalue, (hiff a).mp ha, hdepth⟩

/-- A member that is optional, where what is written is never null. -/
theorem optional_lawful {read : Reader α} {write : α → Value} {Proper : α → Prop}
    {base : Nat} (key : String) (h : Reader.Lawful read write Proper base)
    (hnull : ∀ a, write a ≠ .null) :
    Lawful (optional key read) id (writeOptional key write) (fun o => ∀ a ∈ o, Proper a) base :=
  (optional_lawful_of_read key h fun _ _ => hnull _).congr _ fun _ =>
    forall₂_congr fun a _ => and_iff_left (hnull a)

theorem of_seq_ofMembers {f : Form (α → κ)} {x : Form α} {room : Nat} {ms : Members} {k : κ}
    (h : (Form.seq f x).ofMembers room ms = .ok k) :
    ∃ g a, f.ofMembers room ms = .ok g ∧ x.ofMembers room ms = .ok a ∧ g a = k := by
  simp only [Form.seq] at h
  split at h
  · next g a hg ha => exact ⟨g, a, hg, ha, Except.ok.inj h⟩
  all_goals cases h

theorem of_seq_ofItems {f : Form (α → κ)} {x : Form α} {room : Nat} {items : List Source} {k : κ}
    {rest : List Source} (h : (Form.seq f x).ofItems room items = .ok (k, rest)) :
    ∃ g a more, f.ofItems room items = .ok (g, more) ∧ x.ofItems room more = .ok (a, rest) ∧
      g a = k := by
  simp only [Form.seq] at h
  split at h
  · cases h
  · next g more hg =>
    split at h
    · cases h
    · next a rest' ha =>
      obtain ⟨hk, rfl⟩ := Prod.mk.inj (Except.ok.inj h)
      exact ⟨g, a, more, hg, ha, hk⟩

theorem keys_append (own more : List (String × Value)) :
    Value.keys (own ++ more) = Value.keys own ++ Value.keys more := List.map_append

theorem depth_append {own more : List (String × Value)} {room b c : Nat}
    (hown : ∀ m ∈ own, m.2.depth ≤ max room b) (hmore : ∀ m ∈ more, m.2.depth ≤ max room c) :
    ∀ m ∈ own ++ more, m.2.depth ≤ max room (max b c) :=
  List.forall_mem_append.mpr
    ⟨fun m hm => (hown m hm).trans (max_le_max_left _ (le_max_left _ _)),
      fun m hm => (hmore m hm).trans (max_le_max_left _ (le_max_right _ _))⟩

theorem Lawful.seq {f : Form (α → κ)} {x : Form α} {vf : σ → α → κ} {vx : τ → α}
    {of : σ → List (String × Value)} {ox : τ → List (String × Value)} {Pf : σ → Prop} {Px : τ → Prop}
    {bf bx : Nat} (hf : Lawful f vf of Pf bf) (hx : Lawful x vx ox Px bx) :
    Lawful (f <*> x) (fun p : σ × τ => vf p.1 (vx p.2)) (fun p => of p.1 ++ ox p.2)
      (fun p => Pf p.1 ∧ Px p.2) (max bf bx) where
  keys_own p := by
    rw [keys_append]
    exact (hf.keys_own p.1).append (hx.keys_own p.2)
  distinct hp := List.forall_mem_append.mpr ⟨hf.distinct hp.1, hx.distinct hp.2⟩
  ofMembers_own {p room ms} hkeys hp hms := by
    obtain ⟨hfkeys, hxkeys, hdisjoint⟩ := List.nodup_append.mp hkeys
    have hleft : Covers room f.keys (of p.1) ms := by
      refine hms.part (List.subset_append_left _ _) (List.subset_append_left _ _) fun k hk hmem => ?_
      rw [keys_append, List.mem_append] at hmem
      exact hmem.resolve_right fun hmem => hdisjoint k hk k ((hx.keys_own p.2).subset hmem) rfl
    have hright : Covers room x.keys (ox p.2) ms := by
      refine hms.part (List.subset_append_right _ _) (List.subset_append_right _ _) fun k hk hmem => ?_
      rw [keys_append, List.mem_append] at hmem
      exact hmem.resolve_left fun hmem => hdisjoint k ((hf.keys_own p.1).subset hmem) k hk rfl
    exact seq_ofMembers (hf.ofMembers_own hfkeys hp.1 hleft) (hx.ofMembers_own hxkeys hp.2 hright)
  of_ofMembers {room ms k} h := by
    obtain ⟨g, a, hg, ha, rfl⟩ := of_seq_ofMembers h
    obtain ⟨p, rfl, hp, hpdepth⟩ := hf.of_ofMembers hg
    obtain ⟨q, rfl, hq, hqdepth⟩ := hx.of_ofMembers ha
    exact ⟨(p, q), rfl, ⟨hp, hq⟩, depth_append hpdepth hqdepth⟩
  of_ofItems {room items k rest} h := by
    obtain ⟨g, a, more, hg, ha, rfl⟩ := of_seq_ofItems h
    obtain ⟨p, rfl, hp, hpdepth⟩ := hf.of_ofItems hg
    obtain ⟨q, rfl, hq, hqdepth⟩ := hx.of_ofItems ha
    exact ⟨(p, q), rfl, ⟨hp, hq⟩, depth_append hpdepth hqdepth⟩

theorem Lawful.map {x : Form α} {value : σ → α} {own : σ → List (String × Value)} {Proper : σ → Prop}
    {base : Nat} (g : α → κ) (h : Lawful x value own Proper base) :
    Lawful (g <$> x) (fun a => g (value a)) own Proper base where
  keys_own := h.keys_own
  distinct := h.distinct
  ofMembers_own hkeys ha hms := map_ofMembers g (h.ofMembers_own hkeys ha hms)
  of_ofMembers hread := by
    obtain ⟨g', a, hg, ha, rfl⟩ := of_seq_ofMembers hread
    obtain rfl : g = g' := Except.ok.inj hg
    obtain ⟨b, rfl, hb⟩ := h.of_ofMembers ha
    exact ⟨b, rfl, hb⟩
  of_ofItems hread := by
    obtain ⟨g', a, more, hg, ha, rfl⟩ := of_seq_ofItems hread
    obtain rfl : g = g' := (Prod.mk.inj (Except.ok.inj hg)).1
    obtain ⟨b, rfl, hb⟩ := h.of_ofItems ha
    exact ⟨b, rfl, hb⟩

theorem read_object {form : Form κ} {room : Nat} {ms : Members} {k : κ} (hroom : room ≠ 0)
    (hplaced : ms.misplaced? form.keys = none) (h : form.ofMembers (room - 1) ms = .ok k) :
    form.read room (.object ms true) = .ok k := by
  rw [Form.read, if_neg hroom, hplaced, h]
  rfl

theorem of_read {form : Form κ} {room : Nat} {s : Source} {k : κ} (h : form.read room s = .ok k) :
    (∃ ms, form.ofMembers (room - 1) ms = .ok k) ∨
      ∃ items rest, form.ofItems (room - 1) items = .ok (k, rest) := by
  unfold Form.read at h
  split at h
  · next ms closed =>
    by_cases hroom : room = 0
    · rw [if_pos hroom] at h
      cases h
    · rw [if_neg hroom] at h
      dsimp only at h
      split at h
      · next k' hk _ =>
        obtain rfl := Except.ok.inj h
        exact .inl ⟨ms, hk⟩
      all_goals cases h
  · next items closed =>
    by_cases hroom : room = 0
    · rw [if_pos hroom] at h
      cases h
    · rw [if_neg hroom] at h
      split at h
      · cases h
      · next k' rest hk =>
        split at h
        · obtain rfl := Except.ok.inj h
          exact .inr ⟨items, rest, hk⟩
        · cases h
  · cases h

variable {form : Form κ} {value : σ → κ} {own : σ → List (String × Value)} {Proper : σ → Prop}
  {base : Nat}

/-- A rendering of the members of a record is read as the record. -/
theorem Lawful.read_rendering (h : Lawful form value own Proper base) (hkeys : form.keys.Nodup) {a : σ}
    {w : Value} {room : Nat} (ha : Proper a) (hw : w.Renders (.object (own a)) room) :
    form.read room w.toSource = .ok (value a) := by
  have hnodup : (Value.keys (own a)).Nodup := (h.keys_own a).nodup hkeys
  obtain ⟨ms, rfl, hroom, hms, hpresent, hothers⟩ := hw.object hnodup
  refine read_object hroom (Value.misplaced?_toMembers form.keys ms hms) ?_
  refine h.ofMembers_own hkeys ha ⟨fun m hm => ?_, fun k _ hk => ?_⟩
  · obtain ⟨w, hmem, hw⟩ := hpresent m hm
    obtain ⟨i, hfind⟩ := Value.find?_toMembers_of_mem m.1 w ms hms hmem
    exact ⟨i, w, hfind, hw⟩
  · exact Value.find?_toMembers_of_not_mem k ms fun hmem => hk (hothers k hmem)

theorem Lawful.of_read (h : Lawful form value own Proper base) {room : Nat} {s : Source} {k : κ}
    (hread : form.read room s = .ok k) :
    ∃ a, value a = k ∧ Proper a ∧ (Value.object (own a)).depth ≤ max room (base + 1) := by
  have hparts : ∃ a, value a = k ∧ Proper a ∧ ∀ m ∈ own a, m.2.depth ≤ max (room - 1) base := by
    rcases Form.of_read hread with ⟨ms, hms⟩ | ⟨items, rest, hitems⟩
    · exact h.of_ofMembers hms
    · exact h.of_ofItems hitems
  obtain ⟨a, hvalue, ha, hdepth⟩ := hparts
  refine ⟨a, hvalue, ha, (Value.depth_object_le_iff _ _).mpr ⟨by omega, fun m hm => ?_⟩⟩
  have := hdepth m hm
  omega

/-- A record is lawful if it falls into the parts of a lawful form. -/
theorem Lawful.record (h : Lawful form value own Proper base) (write : κ → Value) (parts : κ → σ)
    (hvalue : ∀ k, value (parts k) = k) (hparts : ∀ a, parts (value a) = a)
    (hwrite : ∀ k, write k = .object (own (parts k))) (hkeys : form.keys.Nodup) :
    Reader.Lawful form.read write (fun k => Proper (parts k)) (base + 1) where
  read_rendering {k w room} hk hw := by
    rw [hwrite] at hw
    rw [h.read_rendering hkeys hk hw, hvalue]
  distinct {k} hk := by
    rw [hwrite, Value.distinct_object_iff]
    exact ⟨(h.keys_own _).nodup hkeys, h.distinct hk⟩
  proper hread := by
    obtain ⟨a, rfl, ha, -⟩ := h.of_read hread
    rw [hparts]
    exact ha
  depth hread := by
    obtain ⟨a, rfl, -, hdepth⟩ := h.of_read hread
    rw [hwrite, hparts]
    exact hdepth

end record

end HubConsole.Json.Form
