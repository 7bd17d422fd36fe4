import HubConsole.Proofs.Node.Overwrite

namespace HubConsole.Node

namespace Field

/-- The fields of a table that a merge overwrites, in order. -/
def overwritable (fields : List Field) : List Field :=
  fields.filter fun f => policyOf fields f.label = some .overwrite

theorem overwritable_ofSummary : overwritable ofSummary = [.address, .status, .version, .bestBlock] := by
  decide

theorem overwritable_ofDetail : overwritable ofDetail =
    [.startOption, .address, .agentVersion, .status, .version, .bestBlock, .pendingParcels, .peers,
      .whitelist, .blacklist, .hardware, .events] := by
  decide

theorem nodup_labels_ofDetail : (ofDetail.map label).Nodup := by decide

theorem nodup_labels_ofSummary : (ofSummary.map label).Nodup := by decide

/-- No name is reported twice if none stands twice in the table. -/
theorem nodup_labels_filter {fields : List Field} (h : (fields.map label).Nodup) (p : Field → Bool) :
    (((overwritable fields).filter p).map label).Nodup := by
  have hsub : ((overwritable fields).filter p).Sublist fields :=
    List.filter_sublist.trans List.filter_sublist
  exact h.sublist (hsub.map label)

end Field

/-- A report holds the changes of the list that are not changes to the same value. -/
theorem changedOf_eq_filter (changes : List (Field × Bool)) (same : Field → Bool)
    (h : ∀ c ∈ changes, c.2 = !same c.1) :
    changedOf changes = (changes.map Prod.fst).filter fun f => !same f := by
  unfold changedOf
  rw [List.filter_map]
  congr 1
  exact List.filter_congr h

theorem changedOf_filter (changes : List (Field × Bool)) (p : Field → Bool) :
    (changedOf changes).filter p = changedOf (changes.filter fun c => p c.1) := by
  unfold changedOf
  rw [List.filter_map, List.filter_filter, List.filter_filter]
  congr 1
  exact List.filter_congr fun c _ => Bool.and_comm _ _

section Reflexive

variable {α : Type} [BEq α] [ReflBEq α]

/-- A field is reported just when its old value does not equal the new one. -/
theorem revise_reported (old : α) (new : Option α) :
    (revise old new).2 = !(old == (revise old new).1) := by
  cases new with
  | none => simp [revise]
  | some new => by_cases hsame : old == new <;> simp [revise, hsame]

theorem reviseOptional_reported (old new : Option α) :
    (reviseOptional old new).2 = !(old == (reviseOptional old new).1) :=
  revise_reported old (new.map some)

/-- The second time a value has nothing to change. -/
theorem revise_revise (old : α) (new : Option α) :
    revise (revise old new).1 new = ((revise old new).1, false) := by
  cases new with
  | none => rfl
  | some new => by_cases hsame : old == new <;> simp [revise, hsame]

theorem reviseOptional_reviseOptional (old new : Option α) :
    reviseOptional (reviseOptional old new).1 new = ((reviseOptional old new).1, false) :=
  revise_revise old (new.map some)

end Reflexive

namespace Summary

/-- Whether two records have equal values in a field. In a field that short records lack they do not
differ. -/
def sameAt (n m : Summary) : Field → Bool
  | .name => n.name == m.name
  | .address => n.address == m.address
  | .status => n.status == m.status
  | .version => n.version == m.version
  | .bestBlock => n.bestBlock == m.bestBlock
  | _ => true

theorem sameAt_self (n : Summary) (f : Field) : n.sameAt n f = true := by
  cases f <;> simp [sameAt]

theorem merge_name (n : Summary) (p : Patch) : (n.merge p).1.name = n.name := rfl

theorem changed_merge (n : Summary) (p : Patch) :
    (n.merge p).2 =
      (Field.overwritable Field.ofSummary).filter fun f => !n.sameAt (n.merge p).1 f := by
  rw [Field.overwritable_ofSummary]
  refine changedOf_eq_filter _ (n.sameAt (n.merge p).1) ?_
  simp only [List.forall_mem_cons]
  exact ⟨reviseOptional_reported _ _, revise_reported _ _, reviseOptional_reported _ _,
    reviseOptional_reported _ _, fun _ h => nomatch h⟩

theorem nodup_changed_merge (n : Summary) (p : Patch) : ((n.merge p).2.map Field.label).Nodup := by
  rw [changed_merge]
  exact Field.nodup_labels_filter Field.nodup_labels_ofSummary _

theorem changed_eq_nil_iff (n : Summary) (p : Patch) : (n.merge p).2 = [] ↔ (n.merge p).1 = n := by
  constructor
  · exact merge_of_unchanged
  · intro hsame
    rw [changed_merge, hsame]
    simp [sameAt_self]

theorem merge_merge (n : Summary) (p : Patch) : (n.merge p).1.merge p = ((n.merge p).1, []) := by
  simp only [merge, reviseOptional_reviseOptional, revise_revise]
  rfl

end Summary

namespace Detail

/-- Whether two records have equal values in a field. -/
def sameAt (d e : Detail) : Field → Bool
  | .name => d.name == e.name
  | .startOption => d.startOption == e.startOption
  | .address => d.address == e.address
  | .agentVersion => d.agentVersion == e.agentVersion
  | .status => d.status == e.status
  | .version => d.version == e.version
  | .bestBlock => d.bestBlock == e.bestBlock
  | .pendingParcels => d.pendingParcels == e.pendingParcels
  | .peers => d.peers == e.peers
  | .whitelist => d.whitelist == e.whitelist
  | .blacklist => d.blacklist == e.blacklist
  | .hardware => d.hardware == e.hardware
  | .events => d.events == e.events

/-- Records are equal if they have equal values in every field. -/
theorem same_iff_sameAt (d e : Detail) : (d == e) = true ↔ ∀ f, d.sameAt e f = true := by
  change instBEqDetail.beq d e = true ↔ _
  cases d
  cases e
  simp only [instBEqDetail.beq, Bool.and_eq_true]
  constructor
  · intro hsame f
    obtain ⟨hname, hstart, haddress, hagent, hstatus, hversion, hblock, hparcels, hpeers, hwhite,
      hblack, hhardware, hevents⟩ := hsame
    cases f <;> assumption
  · intro hsame
    exact ⟨hsame .name, hsame .startOption, hsame .address, hsame .agentVersion, hsame .status,
      hsame .version, hsame .bestBlock, hsame .pendingParcels, hsame .peers, hsame .whitelist,
      hsame .blacklist, hsame .hardware, hsame .events⟩

theorem changed_merge (d : Detail) (u : Update) :
    (d.merge u).2 =
      (Field.overwritable Field.ofDetail).filter fun f => !d.sameAt (d.merge u).1 f := by
  rw [Field.overwritable_ofDetail]
  refine changedOf_eq_filter _ (d.sameAt (d.merge u).1) ?_
  simp only [List.forall_mem_cons]
  exact ⟨reviseOptional_reported _ _, reviseOptional_reported _ _, reviseOptional_reported _ _,
    revise_reported _ _, reviseOptional_reported _ _, reviseOptional_reported _ _,
    reviseOptional_reported _ _, reviseOptional_reported _ _, reviseOptional_reported _ _,
    reviseOptional_reported _ _, reviseOptional_reported _ _, reviseOptional_reported _ _,
    fun _ h => nomatch h⟩

theorem nodup_changed_merge (d : Detail) (u : Update) : ((d.merge u).2.map Field.label).Nodup := by
  rw [changed_merge]
  exact Field.nodup_labels_filter Field.nodup_labels_ofDetail _

theorem changed_eq_nil_of_same (d : Detail) (u : Update) (h : (d == (d.merge u).1) = true) :
    (d.merge u).2 = [] := by
  have hfields := (same_iff_sameAt d (d.merge u).1).mp h
  rw [changed_merge]
  simp [hfields]

theorem changed_eq_nil_iff (d : Detail) (u : Update) : (d.merge u).2 = [] ↔ (d.merge u).1 = d := by
  constructor
  · exact merge_of_unchanged
  · intro hsame
    apply changed_eq_nil_of_same
    rw [hsame]
    exact d.same_self

/-- An equal record is the same record: the old values stay where the new ones equal them. -/
theorem changed_eq_nil_iff_same (d : Detail) (u : Update) :
    (d.merge u).2 = [] ↔ (d == (d.merge u).1) = true := by
  constructor
  · intro hnone
    rw [merge_of_unchanged hnone]
    exact d.same_self
  · exact changed_eq_nil_of_same d u

theorem merge_merge (d : Detail) (u : Update) : (d.merge u).1.merge u = ((d.merge u).1, []) := by
  simp only [merge, reviseOptional_reviseOptional, revise_revise]
  rfl

/-- The short record of a merged record is merged from the short record. -/
theorem summary_merge (d : Detail) (u : Update) :
    (d.merge u).1.summary = (d.summary.merge u.patch).1 := rfl

theorem changed_summary_merge (d : Detail) (u : Update) :
    (d.summary.merge u.patch).2 = (d.merge u).2.filter (· ∈ Field.ofSummary) := by
  unfold merge
  dsimp only
  rw [changedOf_filter]
  rfl

end Detail

/-- A merge leaves the name, whatever name the partial record has, and brings every other field to the value
that is carried, or keeps it if none is. Its report lists the names of the fields whose values before and after
differ, in the order of the table and none twice. So the report is empty just when the record is unchanged, and
the same merge again changes and reports nothing. Values are compared by `==`; in short records that is
equality. -/
theorem merges_report_differences :
    (∀ (d : Detail) (u : Update),
      let after := (d.merge u).1
      let changed := (d.merge u).2
      after.name = d.name ∧ (after == d.overwrite u) = true ∧
      changed = (Field.overwritable Field.ofDetail).filter (fun f => !d.sameAt after f) ∧
      (changed.map Field.label).Nodup ∧
      (changed = [] ↔ after = d) ∧ (changed = [] ↔ (d == after) = true) ∧
      after.merge u = (after, [])) ∧
    ∀ (n : Summary) (p : Patch),
      let after := (n.merge p).1
      let changed := (n.merge p).2
      after.name = n.name ∧ after = n.overwrite p ∧
      changed = (Field.overwritable Field.ofSummary).filter (fun f => !n.sameAt after f) ∧
      (changed.map Field.label).Nodup ∧
      (changed = [] ↔ after = n) ∧
      after.merge p = (after, []) := by
  constructor
  · intro d u after changed
    have hvalues := Detail.merge_same_overwrite d.same_self u
    exact ⟨Detail.merge_name d u, hvalues, Detail.changed_merge d u, Detail.nodup_changed_merge d u,
      Detail.changed_eq_nil_iff d u, Detail.changed_eq_nil_iff_same d u, Detail.merge_merge d u⟩
  · intro n p after changed
    exact ⟨Summary.merge_name n p, Summary.merge_eq_overwrite n p, Summary.changed_merge n p,
      Summary.nodup_changed_merge n p, Summary.changed_eq_nil_iff n p, Summary.merge_merge n p⟩

/-- Full and short records are merged alike. What an update makes of a full record contains what its part for
the short record makes of that, and the fields reported there are the reported ones that a short record has,
in the same order. A record that comes up with a patch is a blank one with the patch merged into it. -/
theorem merges_agree_on_summary :
    (∀ (d : Detail) (u : Update),
      (d.merge u).1.summary = (d.summary.merge u.patch).1 ∧
      (d.summary.merge u.patch).2 = (d.merge u).2.filter (· ∈ Field.ofSummary)) ∧
    ∀ p : Patch, Summary.ofPatch p = ((Summary.blank p.name).merge p).1 := by
  constructor
  · intro d u
    exact ⟨Detail.summary_merge d u, Detail.changed_summary_merge d u⟩
  · intro p
    rw [Summary.merge_eq_overwrite, Summary.ofPatch_eq_overwrite]

end HubConsole.Node
