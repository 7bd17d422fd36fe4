import HubConsole.Proofs.Json.Documents
import HubConsole.Proofs.Json.Forms
import HubConsole.Proofs.Json.Members
import HubConsole.Rpc.Frame

namespace HubConsole.Json

/-- What is trimmed off the end of a frame. -/
def isLineEnd (c : Char) : Bool := c = '\r' || c = '\n'

namespace Mode

/-- Between two characters a word lacks some letters. -/
def Spelling : Mode → Prop
  | .word rest _ => rest ≠ [] ∧ rest.all Char.isLower
  | _ => True

theorem spelling_ite {p : Prop} [Decidable p] {a b : List Token × Mode} (ha : a.2.Spelling)
    (hb : b.2.Spelling) : (if p then a else b).2.Spelling := by
  split
  · exact ha
  · exact hb

theorem spelling_first (c : Char) : (first c).2.Spelling := by
  unfold first
  repeat' apply spelling_ite
  all_goals try trivial
  split <;> trivial

theorem spelling_step (mode : Mode) (h : mode.Spelling) (c : Char) : (mode.step c).2.Spelling := by
  cases mode with
  | between => exact spelling_first c
  | word rest token =>
    obtain ⟨hne, hlower⟩ := h
    cases rest with
    | nil => exact absurd rfl hne
    | cons w ws =>
      simp only [step]
      split
      · split
        · trivial
        · next hws =>
          rw [List.all_cons, Bool.and_eq_true] at hlower
          exact ⟨by simpa using hws, hlower.2⟩
      · trivial
  | numeral d =>
    simp only [step]
    split
    · trivial
    · split
      · exact spelling_first c
      · trivial
  | text before =>
    simp only [step]
    split_ifs <;> trivial
  | escape before =>
    simp only [step]
    split
    · trivial
    · split <;> trivial
  | unit before missing value =>
    simp only [step]
    split
    · split <;> trivial
    · trivial
  | stuck => trivial

theorem extend_lineEnd (d : Draft) (c : Char) (h : c = '\r' ∨ c = '\n') : d.extend c = none := by
  unfold Draft.extend Draft.leaveWhole
  rcases h with rfl | rfl <;> cases d.part <;> rfl

/-- A line end ends what the end of the text would end. -/
theorem step_lineEnd (mode : Mode) (h : mode.Spelling) (c : Char) (hc : isLineEnd c) :
    (mode.step c).1 ++ (mode.step c).2.finish = mode.finish := by
  have hends : c = '\r' ∨ c = '\n' := by simpa [isLineEnd] using hc
  cases mode with
  | word rest token =>
    obtain ⟨hne, hlower⟩ := h
    cases rest with
    | nil => exact absurd rfl hne
    | cons w ws =>
      -- The letters of words are small letters, so a line end cannot be the next of them.
      have hw : c ≠ w := by
        rintro rfl
        rw [List.all_cons, Bool.and_eq_true] at hlower
        rcases hends with rfl | rfl <;> exact absurd hlower.1 (by decide)
      simp only [step, if_neg hw]
      rfl
  | numeral d =>
    simp only [step, extend_lineEnd d c hends, finish, Draft.token]
    split <;> rcases hends with rfl | rfl <;> rfl
  | between => rcases hends with rfl | rfl <;> rfl
  | text before => rcases hends with rfl | rfl <;> rfl
  | escape before => rcases hends with rfl | rfl <;> rfl
  | unit before missing value => rcases hends with rfl | rfl <;> rfl
  | stuck => rfl

theorem tokens_lineEnds (mode : Mode) (h : mode.Spelling) (cs : List Char) (hcs : cs.all isLineEnd) :
    mode.tokens cs = mode.finish := by
  induction cs generalizing mode with
  | nil => rfl
  | cons c cs ih =>
    rw [List.all_cons, Bool.and_eq_true] at hcs
    rw [tokens, ih _ (spelling_step mode h c) hcs.2, step_lineEnd mode h c hcs.1]

theorem tokens_append_lineEnds (mode : Mode) (h : mode.Spelling) (cs ends : List Char)
    (hends : ends.all isLineEnd) : mode.tokens (cs ++ ends) = mode.tokens cs := by
  induction cs generalizing mode with
  | nil => exact tokens_lineEnds mode h ends hends
  | cons c cs ih => rw [List.cons_append, tokens, tokens, ih _ (spelling_step mode h c)]

end Mode

/-- Line ends after a document mean nothing. -/
theorem Source.ofText_append_lineEnds (cs ends : List Char) (hends : ends.all isLineEnd) :
    Source.ofText (String.ofList (cs ++ ends)) = Source.ofText (String.ofList cs) := by
  rw [ofText_ofList, ofText_ofList, Mode.tokens_append_lineEnds .between trivial cs ends hends]

namespace Form

variable {α : Type} {form : Form α} {room : Nat} {ms : Members} {closed : Bool} {a : α}

/-- An object is read as a record only if all its members are in their place. -/
theorem of_read_object (h : form.read room (.object ms closed) = .ok a) :
    Members.misplaced? form.keys ms = none ∧ form.ofMembers (room - 1) ms = .ok a := by
  rw [Form.read] at h
  by_cases hroom : room = 0
  · rw [if_pos hroom] at h
    cases h
  · rw [if_neg hroom] at h
    dsimp only at h
    split at h
    · next hmembers hstop =>
      obtain rfl := Except.ok.inj h
      cases hplaced : Members.misplaced? form.keys ms with
      | none => exact ⟨rfl, hmembers⟩
      | some i =>
        rw [hplaced] at hstop
        cases closed <;> cases hstop
    all_goals cases h

/-- A member that may be absent and is not null. -/
theorem of_optional_ofMembers {key : String} {read : Reader α}
    (h : (optional key read).ofMembers room ms = .ok (some a)) :
    ∃ s, (some key, s) ∈ ms ∧ read room s = .ok a := by
  simp only [optional, withDefault, member] at h
  split at h
  · next i s hfind =>
    split at h
    · next o ho =>
      obtain rfl := Except.ok.inj h
      rcases Reader.of_nullable ho with hnone | ⟨b, hb, -, hread⟩
      · cases hnone
      · obtain rfl := Option.some.inj hb
        exact ⟨s, Members.mem_of_find? hfind, hread⟩
    · cases h
  · next hmissing =>
    cases h
    cases hmissing
  · cases h

end Form

theorem Reader.free?_of_ofText {text : String} {v : Value} (h : Reader.free.ofText text = .ok v) :
    (Source.ofText text).1.free? depthLimit = some v := by
  rw [ofText] at h
  split at h
  · cases h
  · next w hw =>
    unfold free at hw
    split at hw
    · next hfree =>
      obtain rfl := Except.ok.inj hw
      split at h
      · rw [hfree, Except.ok.inj h]
      · cases h
    · cases hw

theorem Source.eq_object_of_free? {room : Nat} {s : Source} {members : List (String × Value)}
    (h : s.free? room = some (.object members)) : ∃ ms closed, s = .object ms closed := by
  cases s with
  | object ms closed => exact ⟨ms, closed, rfl⟩
  | array items closed =>
    rw [free?] at h
    split at h
    · cases h
    · obtain ⟨_, -, heq⟩ := Option.map_eq_some_iff.mp h
      cases heq
  | number n =>
    obtain ⟨_, -, heq⟩ := Option.map_eq_some_iff.mp h
    cases heq
  | string t =>
    obtain ⟨_, -, heq⟩ := Option.map_eq_some_iff.mp h
    cases heq
  | null => cases h
  | bool b => cases h
  | broken => cases h

end HubConsole.Json

namespace HubConsole.Rpc

open HubConsole.Json

theorem Frame.ofText_trimLineEnds (text : String) :
    Source.ofText (trimLineEnds text) = Source.ofText text := by
  let ends := (text.toList.reverse.takeWhile isLineEnd).reverse
  have hsplit : Text.dropEnd isLineEnd text.toList ++ ends = text.toList := by
    rw [Text.dropEnd, ← List.reverse_append, List.takeWhile_append_dropWhile, List.reverse_reverse]
  have hends : ends.all isLineEnd := by
    rw [List.all_reverse]
    exact List.all_takeWhile
  have htrim : trimLineEnds text = String.ofList (Text.dropEnd isLineEnd text.toList) := rfl
  rw [htrim, ← Source.ofText_append_lineEnds _ ends hends, hsplit, String.ofList_toList]

namespace Envelope

/-- What is said under `id`. -/
theorem of_read_id {ms : Members} {closed : Bool} {room : Nat} {e : Envelope} {id : Id}
    (hread : form.read room (.object ms closed) = .ok e) (hid : e.id = some id) :
    ∃ s, (some "id", s) ∈ ms ∧ (Members.keys ms).count (some "id") ≤ 1 ∧
      Id.read (room - 1) s = .ok id := by
  obtain ⟨hplaced, hmembers⟩ := Form.of_read_object hread
  obtain ⟨_, params, hnotification, -, rfl⟩ := Form.of_seq_ofMembers hmembers
  obtain ⟨_, notification, hmethod, -, rfl⟩ := Form.of_seq_ofMembers hnotification
  obtain ⟨_, method, herror, -, rfl⟩ := Form.of_seq_ofMembers hmethod
  obtain ⟨_, error, hresult, -, rfl⟩ := Form.of_seq_ofMembers herror
  obtain ⟨_, result, hfirst, -, rfl⟩ := Form.of_seq_ofMembers hresult
  obtain ⟨_, id', hmk, hid', rfl⟩ := Form.of_seq_ofMembers hfirst
  obtain rfl := Except.ok.inj hmk
  obtain rfl : id' = some id := hid
  obtain ⟨s, hmem, hs⟩ := Form.of_optional_ofMembers hid'
  exact ⟨s, hmem, ((Members.misplaced?_eq_none_iff _ _).mp hplaced).2 "id" (by decide), hs⟩

theorem id_of_classify {e : Envelope} {id : Id} {outcome : Outcome}
    (h : e.classify = .ok (.response id outcome)) : e.id = some id := by
  unfold classify at h
  split at h
  · next hid _ =>
    obtain ⟨rfl, -⟩ := Frame.response.inj (Except.ok.inj h)
    exact hid
  · next hid _ _ =>
    obtain ⟨rfl, -⟩ := Frame.response.inj (Except.ok.inj h)
    exact hid
  · split at h <;> cases h

end Envelope

/-- An id is read from a free value as from the document that the value stands for. -/
theorem Id.read_ofValue {room room' : Nat} {s : Source} {id : Id} {v : Value}
    (hread : Id.read room s = .ok id) (hfree : s.free? room' = some v) : Id.read.ofValue v = .ok id := by
  unfold Id.read at hread
  split at hread
  · obtain rfl := Option.some.inj hfree
    exact hread
  · obtain rfl := Option.some.inj hfree
    exact hread
  · cases hread

namespace Frame

/-- The text of a frame is the text of the envelope that it is read from. -/
theorem of_decode_response {text : String} {max : Nat} {id : Id} {outcome : Outcome}
    (h : decode text max = .ok (.response id outcome)) :
    ∃ e, Envelope.form.read depthLimit (Source.ofText text).1 = .ok e ∧ e.id = some id := by
  simp only [decode] at h
  split at h
  · split at h
    · cases h
    · next e hread =>
      refine ⟨e, ?_, Envelope.id_of_classify h⟩
      rw [Reader.ofText, ofText_trimLineEnds] at hread
      split at hread
      · cases hread
      · next e' he' =>
        split at hread
        · rw [he', Except.ok.inj hread]
        · cases hread
  · cases h

/-- If a text is one object, the id with which it is read as a response is the one that is found when the frame
is refused. -/
theorem recoverId?_of_response {text : String} {members : List (String × Value)} {max : Nat} {id : Id}
    {outcome : Outcome} (hfree : Reader.free.ofText text = .ok (.object members))
    (h : decode text max = .ok (.response id outcome)) : recoverId? text = some id := by
  obtain ⟨e, hread, hid⟩ := of_decode_response h
  have hvalue := Reader.free?_of_ofText hfree
  obtain ⟨ms, closed, hsource⟩ := Source.eq_object_of_free? hvalue
  rw [hsource] at hread hvalue
  obtain ⟨s, hmem, honce, hs⟩ := Envelope.of_read_id hread hid
  obtain ⟨w, hw, hget⟩ := Source.get?_of_free? hvalue honce hmem
  simp only [recoverId?, hfree, hget, Id.read_ofValue hs hw]
  rfl

end Frame

end HubConsole.Rpc
