import HubConsole.Session.Hub

namespace HubConsole.Session

open HubConsole.Json HubConsole.Rpc

variable {α : Type} [Wire α]

/-- The hub answers with a document that reads as this. -/
def Gives (reply : Reply) (a : α) : Prop :=
  ∃ v, reply = .ok (.ok v) ∧ (Wire.read : Reader α).ofValue v = .ok a

/-- The hub answers with an error that all calls have in common; the caller goes on without an answer. -/
def PassedOver (reply : Reply) : Prop :=
  ∃ e : ErrorObject, reply = .ok (.error e) ∧ e.code ∈ [0, -1, -32603]

/-- The reply is neither; the call fails. -/
def Fails (α : Type) [Wire α] (reply : Reply) : Prop := ¬PassedOver reply ∧ ∀ a : α, ¬Gives reply a

theorem passedOver_error_iff (e : ErrorObject) :
    PassedOver (.ok (.error e)) ↔ ∃ common, CommonError.ofCode? e.code = some common := by
  constructor
  · rintro ⟨e', he, hcode⟩
    obtain rfl := Except.error.inj (Except.ok.inj he)
    simp only [List.mem_cons, List.not_mem_nil, or_false] at hcode
    rcases hcode with hcode | hcode | hcode <;> exact ⟨_, by rw [hcode]; rfl⟩
  · rintro ⟨common, hcode⟩
    refine ⟨e, rfl, ?_⟩
    rw [(CommonError.ofCode?_eq_some_iff e.code common).mp hcode]
    cases common <;> decide

theorem gives_ok_iff (v : Value) (a : α) :
    Gives (.ok (.ok v)) a ↔ (Wire.read : Reader α).ofValue v = .ok a := by
  constructor
  · rintro ⟨v', hv, ha⟩
    obtain rfl := Except.ok.inj (Except.ok.inj hv)
    exact ha
  · exact fun ha => ⟨v, rfl, ha⟩

theorem not_gives_of_error (e : ErrorObject) (a : α) : ¬Gives (.ok (.error e)) a := by
  rintro ⟨v, hv, -⟩
  cases hv

variable (name : String) (params : List Value)

theorem settle_of_gives {reply : Reply} {a : α} (h : Gives reply a) :
    ((Hub.call name params).settle reply).1 = .ok (.value a) := by
  obtain ⟨v, rfl, hread⟩ := h
  have hcall : (Hub.call name params : Method α).read.ofValue v = .ok a := hread
  simp only [Method.settle, settle, hcall]

/-- A call has three endings. -/
theorem settle_cases (α : Type) [Wire α] (name : String) (params : List Value) (reply : Reply) :
    let ending := ((Hub.call name params : Method α).settle reply).1
    (∃ a, ending = .ok (.value a) ∧ Gives reply a) ∨
      (∃ common, ending = .ok (.suppressed common) ∧ PassedOver reply) ∨
      ∃ f, ending = .error f ∧ Fails α reply := by
  rcases reply with f | e | v
  · refine .inr (.inr ⟨f, rfl, ?_, ?_⟩)
    · rintro ⟨e, he, -⟩
      cases he
    · rintro a ⟨v, hv, -⟩
      cases hv
  · simp only [Method.settle, settle]
    cases hcode : CommonError.ofCode? e.code with
    | some common => exact .inr (.inl ⟨common, rfl, (passedOver_error_iff e).mpr ⟨common, hcode⟩⟩)
    | none =>
      refine .inr (.inr ⟨.rpc e, rfl, ?_, not_gives_of_error e⟩)
      rw [passedOver_error_iff, hcode]
      rintro ⟨common, hnone⟩
      cases hnone
  · simp only [Method.settle, settle]
    cases hread : (Hub.call name params : Method α).read.ofValue v with
    | ok a => exact .inl ⟨a, rfl, (gives_ok_iff v a).mpr hread⟩
    | error fault =>
      refine .inr (.inr ⟨.decode name "<json>", rfl, ?_, ?_⟩)
      · rintro ⟨e, he, -⟩
        cases he
      · intro a hgives
        cases hread.symm.trans ((gives_ok_iff v a).mp hgives)

end HubConsole.Session
