import HubConsole.Node.Merge

namespace HubConsole.Node

open HubConsole.Json

/-- The value that is carried last. -/
def lastCarried {α β : Type} (carried : β → Option α) (bs : List β) : Option α :=
  bs.reverse.findSome? carried

theorem lastCarried_snoc {α β : Type} (carried : β → Option α) (bs : List β) (b : β) :
    lastCarried carried (bs ++ [b]) = (carried b).or (lastCarried carried bs) := by
  simp only [lastCarried, List.reverse_append, List.findSome?_append, List.reverse_singleton,
    List.findSome?_singleton]

theorem lastCarried_append {α β : Type} (carried : β → Option α) (bs cs : List β) :
    lastCarried carried (bs ++ cs) = (lastCarried carried cs).or (lastCarried carried bs) := by
  simp only [lastCarried, List.reverse_append, List.findSome?_append]

section Lawful

variable {α : Type} [BEq α] [LawfulBEq α]

/-- Where equal values are the same value, the new one counts. -/
theorem revise_eq_getD (old : α) (new : Option α) : (revise old new).1 = new.getD old := by
  cases new with
  | none => rfl
  | some new =>
    unfold revise
    dsimp only
    split
    · next hsame => exact eq_of_beq hsame
    · rfl

theorem reviseOptional_eq_or (old new : Option α) : (reviseOptional old new).1 = new.or old := by
  unfold reviseOptional
  rw [revise_eq_getD]
  cases new <;> rfl

end Lawful

section Reflexive

variable {α : Type} [BEq α] [ReflBEq α]

/-- The old value may equal the new one and stay. -/
theorem revise_same {old expected : α} (h : old == expected) (new : Option α) :
    (revise old new).1 == new.getD expected := by
  cases new with
  | none => exact h
  | some new =>
    unfold revise
    dsimp only
    split
    · next hsame => exact hsame
    · exact BEq.rfl

theorem reviseOptional_same {old expected : Option α} (h : old == expected) (new : Option α) :
    (reviseOptional old new).1 == new.or expected := by
  cases new with
  | none => exact h
  | some new => exact revise_same h (some (some new))

end Reflexive

section Unchanged

variable {α : Type} [BEq α]

/-- What is not reported has not changed. -/
theorem revise_of_unchanged {old : α} {new : Option α} (h : (revise old new).2 = false) :
    (revise old new).1 = old := by
  cases new with
  | none => rfl
  | some new =>
    by_cases hsame : old == new
    · simp only [revise, hsame, if_true]
    · simp [revise, hsame] at h

theorem reviseOptional_of_unchanged {old new : Option α} (h : (reviseOptional old new).2 = false) :
    (reviseOptional old new).1 = old :=
  revise_of_unchanged h

theorem unchanged_of_changedOf_eq_nil {changes : List (Field × Bool)} (h : changedOf changes = []) :
    ∀ c ∈ changes, c.2 = false := by
  simpa [changedOf] using h

end Unchanged

namespace Summary

/-- The record with the values that the patch carries. -/
def overwrite (n : Summary) (p : Patch) : Summary where
  name := n.name
  address := p.address.or n.address
  status := p.status.getD n.status
  version := p.version.or n.version
  bestBlock := p.bestBlock.or n.bestBlock

/-- The record with the values that the patches carry last. -/
def overwritten (n : Summary) (ps : List Patch) : Summary where
  name := n.name
  address := (lastCarried Patch.address ps).or n.address
  status := (lastCarried Patch.status ps).getD n.status
  version := (lastCarried Patch.version ps).or n.version
  bestBlock := (lastCarried Patch.bestBlock ps).or n.bestBlock

theorem overwritten_nil (n : Summary) : n.overwritten [] = n := rfl

theorem overwritten_snoc (n : Summary) (ps : List Patch) (p : Patch) :
    n.overwritten (ps ++ [p]) = (n.overwritten ps).overwrite p := by
  simp only [overwritten, overwrite, lastCarried_snoc, Option.or_assoc, Option.getD_or]

/-- What is carried last stays so when all is carried a second time. -/
theorem overwritten_append_self (n : Summary) (ps : List Patch) :
    n.overwritten (ps ++ ps) = n.overwritten ps := by
  simp only [overwritten, lastCarried_append, Option.or_self]

theorem merge_eq_overwrite (n : Summary) (p : Patch) : (n.merge p).1 = n.overwrite p := by
  simp only [merge, overwrite, reviseOptional_eq_or, revise_eq_getD]

theorem merge_overwritten (n : Summary) (ps : List Patch) (p : Patch) :
    ((n.overwritten ps).merge p).1 = n.overwritten (ps ++ [p]) := by
  rw [merge_eq_overwrite, overwritten_snoc]

/-- A merge that reports no field leaves the record as it was. -/
theorem merge_of_unchanged {n : Summary} {p : Patch} (h : (n.merge p).2 = []) :
    (n.merge p).1 = n := by
  have hsame := unchanged_of_changedOf_eq_nil h
  simp only [List.forall_mem_cons] at hsame
  obtain ⟨haddress, hstatus, hversion, hblock, -⟩ := hsame
  simp only [merge, reviseOptional_of_unchanged haddress, revise_of_unchanged hstatus,
    reviseOptional_of_unchanged hversion, reviseOptional_of_unchanged hblock]

/-- A node that was not known is a blank one with the patch merged into it. -/
theorem ofPatch_eq_overwrite (p : Patch) : ofPatch p = (blank p.name).overwrite p := by
  simp only [ofPatch, blank, overwrite, Option.or_none]

end Summary

namespace Detail

/-- The record with the values that the update carries. -/
def overwrite (d : Detail) (u : Update) : Detail where
  name := d.name
  startOption := u.startOption.or d.startOption
  address := u.address.or d.address
  agentVersion := u.agentVersion.or d.agentVersion
  status := u.status.getD d.status
  version := u.version.or d.version
  bestBlock := u.bestBlock.or d.bestBlock
  pendingParcels := u.pendingParcels.or d.pendingParcels
  peers := u.peers.or d.peers
  whitelist := u.whitelist.or d.whitelist
  blacklist := u.blacklist.or d.blacklist
  hardware := u.hardware.or d.hardware
  events := u.events.or d.events

/-- The record with the values that the updates carry last. -/
def overwritten (d : Detail) (us : List Update) : Detail where
  name := d.name
  startOption := (lastCarried Update.startOption us).or d.startOption
  address := (lastCarried Update.address us).or d.address
  agentVersion := (lastCarried Update.agentVersion us).or d.agentVersion
  status := (lastCarried Update.status us).getD d.status
  version := (lastCarried Update.version us).or d.version
  bestBlock := (lastCarried Update.bestBlock us).or d.bestBlock
  pendingParcels := (lastCarried Update.pendingParcels us).or d.pendingParcels
  peers := (lastCarried Update.peers us).or d.peers
  whitelist := (lastCarried Update.whitelist us).or d.whitelist
  blacklist := (lastCarried Update.blacklist us).or d.blacklist
  hardware := (lastCarried Update.hardware us).or d.hardware
  events := (lastCarried Update.events us).or d.events

theorem overwritten_snoc (d : Detail) (us : List Update) (u : Update) :
    d.overwritten (us ++ [u]) = (d.overwritten us).overwrite u := by
  simp only [overwritten, overwrite, lastCarried_snoc, Option.or_assoc, Option.getD_or]

theorem merge_name (d : Detail) (u : Update) : (d.merge u).1.name = d.name := rfl

/-- Merging and overwriting agree up to equal values. -/
theorem merge_same_overwrite {d e : Detail} (h : d == e) (u : Update) :
    (d.merge u).1 == e.overwrite u := by
  change instBEqDetail.beq d e = true at h
  change instBEqDetail.beq (d.merge u).1 (e.overwrite u) = true
  cases d
  cases e
  simp only [instBEqDetail.beq, Bool.and_eq_true] at h
  obtain ⟨hname, hstart, haddress, hagent, hstatus, hversion, hblock, hparcels, hpeers, hwhite, hblack,
    hhardware, hevents⟩ := h
  simp only [instBEqDetail.beq, merge, overwrite, Bool.and_eq_true]
  exact ⟨hname, reviseOptional_same hstart _, reviseOptional_same haddress _,
    reviseOptional_same hagent _, revise_same hstatus _, reviseOptional_same hversion _,
    reviseOptional_same hblock _, reviseOptional_same hparcels _, reviseOptional_same hpeers _,
    reviseOptional_same hwhite _, reviseOptional_same hblack _, reviseOptional_same hhardware _,
    reviseOptional_same hevents _⟩

/-- A merge that reports no field leaves the record as it was. -/
theorem merge_of_unchanged {d : Detail} {u : Update} (h : (d.merge u).2 = []) :
    (d.merge u).1 = d := by
  have hsame := unchanged_of_changedOf_eq_nil h
  simp only [List.forall_mem_cons] at hsame
  obtain ⟨hstart, haddress, hagent, hstatus, hversion, hblock, hparcels, hpeers, hwhite, hblack,
    hhardware, hevents, -⟩ := hsame
  simp only [merge, reviseOptional_of_unchanged hstart, reviseOptional_of_unchanged haddress,
    reviseOptional_of_unchanged hagent, revise_of_unchanged hstatus,
    reviseOptional_of_unchanged hversion, reviseOptional_of_unchanged hblock,
    reviseOptional_of_unchanged hparcels, reviseOptional_of_unchanged hpeers,
    reviseOptional_of_unchanged hwhite, reviseOptional_of_unchanged hblack,
    reviseOptional_of_unchanged hhardware, reviseOptional_of_unchanged hevents]

end Detail
end HubConsole.Node
