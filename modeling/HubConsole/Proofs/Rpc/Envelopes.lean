import HubConsole.Proofs.Json.Forms
import HubConsole.Proofs.Json.Members
import HubConsole.Rpc.Frame

namespace HubConsole.Json

variable {α : Type} {read : Reader α} {room : Nat} {ms : Members} {key : String}

/-- What is said under a key, where null says nothing. -/
inductive Said (read : Reader α) (room : Nat) (ms : Members) (key : String) : Option α → Prop
  | absent (h : ∀ s, (some key, s) ∉ ms) : Said read room ms key none
  | null (h : (some key, .null) ∈ ms) : Said read room ms key none
  | value {s : Source} {a : α} (h : (some key, s) ∈ ms) (hnull : s ≠ .null)
      (hread : read room s = .ok a) : Said read room ms key (some a)

/-- What is said under a key, where null says as much as other values. -/
inductive Told (read : Reader α) (room : Nat) (ms : Members) (key : String) : Option α → Prop
  | absent (h : ∀ s, (some key, s) ∉ ms) : Told read room ms key none
  | value {s : Source} {a : α} (h : (some key, s) ∈ ms) (hread : read room s = .ok a) :
      Told read room ms key (some a)

theorem Said.congr {ns : Members} {o : Option α} (h : Said read room ms key o)
    (hsame : ∀ s, (some key, s) ∈ ms ↔ (some key, s) ∈ ns) : Said read room ns key o := by
  cases h with
  | absent h => exact .absent fun s => (hsame s).not.mp (h s)
  | null h => exact .null ((hsame _).mp h)
  | value h hnull hread => exact .value ((hsame _).mp h) hnull hread

theorem Told.congr {ns : Members} {o : Option α} (h : Told read room ms key o)
    (hsame : ∀ s, (some key, s) ∈ ms ↔ (some key, s) ∈ ns) : Told read room ns key o := by
  cases h with
  | absent h => exact .absent fun s => (hsame s).not.mp (h s)
  | value h hread => exact .value ((hsame _).mp h) hread

theorem Said.ofMembers {o : Option α} (h : Said read room ms key o)
    (honce : (Members.keys ms).count (some key) ≤ 1) :
    (Form.optional key read).ofMembers room ms = .ok o := by
  cases h with
  | absent h => exact Form.withDefault_absent ((Members.find?_eq_none_iff key ms).mpr h)
  | null h =>
    obtain ⟨i, hfind⟩ := Members.find?_of_mem honce h
    simp only [Form.optional, Form.withDefault, Form.member, hfind, Reader.nullable]
  | value h hnull hread =>
    obtain ⟨i, hfind⟩ := Members.find?_of_mem honce h
    exact Form.optional_present hfind hnull hread

theorem Told.ofMembers {o : Option α} (h : Told read room ms key o)
    (honce : (Members.keys ms).count (some key) ≤ 1) :
    (Form.present key read).ofMembers room ms = .ok o := by
  cases h with
  | absent h => exact Form.withDefault_absent ((Members.find?_eq_none_iff key ms).mpr h)
  | value h hread =>
    obtain ⟨i, hfind⟩ := Members.find?_of_mem honce h
    simp only [Form.present, Form.withDefault, Form.member, hfind, hread, Except.map]

end HubConsole.Json

namespace HubConsole.Rpc

open HubConsole.Json

namespace Envelope

/-- The members whose keys mean something in a frame. -/
def known (ms : Members) : Members := ms.filter fun m => m.1 ∈ form.keys.map some

/-- How many brackets may be opened inside a member of a frame. -/
abbrev memberRoom : Nat := depthLimit - 1

/-- The members of a frame: each key is a text, each known one stands at most once, and what stands under it is
of its type. Other members may be there, with anything inside. -/
structure Stands (e : Envelope) (ms : Members) : Prop where
  named : none ∉ Members.keys ms
  once : ∀ k ∈ form.keys, (Members.keys ms).count (some k) ≤ 1
  id : Said Wire.read memberRoom ms "id" e.id
  result : Told Reader.free memberRoom ms "result" e.result
  error : Said Wire.read memberRoom ms "error" e.error
  method : Said Reader.text memberRoom ms "method" e.method
  notification : Said Reader.text memberRoom ms "notification" e.notification
  params : Said Reader.free memberRoom ms "params" e.params

variable {e : Envelope} {ms : Members}

theorem Stands.ofMembers (h : e.Stands ms) : form.ofMembers memberRoom ms = .ok e := by
  have hid := h.id.ofMembers (h.once "id" (by decide))
  have hresult := h.result.ofMembers (h.once "result" (by decide))
  have herror := h.error.ofMembers (h.once "error" (by decide))
  have hmethod := h.method.ofMembers (h.once "method" (by decide))
  have hnotification := h.notification.ofMembers (h.once "notification" (by decide))
  have hparams := h.params.ofMembers (h.once "params" (by decide))
  exact Form.seq_ofMembers (Form.seq_ofMembers (Form.seq_ofMembers (Form.seq_ofMembers (Form.seq_ofMembers
    (Form.map_ofMembers Envelope.mk hid) hresult) herror) hmethod) hnotification) hparams

theorem Stands.read (h : e.Stands ms) : form.read depthLimit (.object ms true) = .ok e := by
  have hplaced : Members.misplaced? form.keys ms = none :=
    (Members.misplaced?_eq_none_iff form.keys ms).mpr ⟨h.named, h.once⟩
  exact Form.read_object (by decide) hplaced h.ofMembers

theorem mem_known_iff {k : String} (hk : k ∈ form.keys) (s : Source) :
    (some k, s) ∈ known ms ↔ (some k, s) ∈ ms := by
  rw [known, List.mem_filter, decide_eq_true_iff]
  exact and_iff_left (List.mem_map_of_mem hk)

theorem keys_known (ms : Members) :
    Members.keys (known ms) = (Members.keys ms).filter (· ∈ form.keys.map some) := by
  rw [known, Members.keys, Members.keys, List.filter_map]
  rfl

theorem count_keys_known (ms : Members) {k : String} (hk : k ∈ form.keys) :
    (Members.keys (known ms)).count (some k) = (Members.keys ms).count (some k) := by
  rw [keys_known, List.count_filter]
  exact decide_eq_true (List.mem_map_of_mem hk)

section

variable {ns : Members} (h : (known ms).Perm (known ns))

include h

theorem mem_iff_of_perm {k : String} (hk : k ∈ form.keys) (s : Source) :
    (some k, s) ∈ ms ↔ (some k, s) ∈ ns := by
  rw [← mem_known_iff hk, h.mem_iff, mem_known_iff hk]

theorem count_eq_of_perm {k : String} (hk : k ∈ form.keys) :
    (Members.keys ms).count (some k) = (Members.keys ns).count (some k) := by
  rw [← count_keys_known ms hk, ← count_keys_known ns hk]
  exact (h.map Prod.fst).count_eq _

/-- The order of the members and those under other keys make no difference. -/
theorem Stands.of_perm (he : e.Stands ms) (hnamed : none ∉ Members.keys ns) : e.Stands ns where
  named := hnamed
  once k hk := (count_eq_of_perm h hk).ge.trans (he.once k hk)
  id := he.id.congr (mem_iff_of_perm h (by decide))
  result := he.result.congr (mem_iff_of_perm h (by decide))
  error := he.error.congr (mem_iff_of_perm h (by decide))
  method := he.method.congr (mem_iff_of_perm h (by decide))
  notification := he.notification.congr (mem_iff_of_perm h (by decide))
  params := he.params.congr (mem_iff_of_perm h (by decide))

end

/-- What a frame is, by what its members say. -/
inductive Answer (e : Envelope) : Except FrameError Frame → Prop
  | failed {id : Id} {error : ErrorObject} (hid : e.id = some id) (herror : e.error = some error) :
      Answer e (.ok (.response id (.error error)))
  | returned {id : Id} {result : Value} (hid : e.id = some id) (herror : e.error = none)
      (hresult : e.result = some result) : Answer e (.ok (.response id (.ok result)))
  | notified {topic : String} (hother : e.id = none ∨ e.error = none ∧ e.result = none)
      (htopic : e.method = some topic ∨ e.method = none ∧ e.notification = some topic) :
      Answer e (.ok (.notification topic (e.params.getD .null)))
  | unrecognized (hother : e.id = none ∨ e.error = none ∧ e.result = none) (hmethod : e.method = none)
      (hnotification : e.notification = none) : Answer e (.error .unrecognized)

theorem classify_of_unanswered (h : e.id = none ∨ e.error = none ∧ e.result = none) :
    e.classify =
      match e.method, e.notification with
      | some topic, _ | none, some topic => .ok (.notification topic (e.params.getD .null))
      | none, none => .error .unrecognized := by
  obtain ⟨id, result, error, method, notification, params⟩ := e
  rcases h with hid | ⟨herror, hresult⟩
  · obtain rfl : id = none := hid
    rfl
  · obtain rfl : error = none := herror
    obtain rfl : result = none := hresult
    cases id <;> rfl

/-- Of the answers just one holds. -/
theorem Answer.eq_classify {r : Except FrameError Frame} (h : e.Answer r) : r = e.classify := by
  cases h with
  | failed hid herror => simp only [classify, hid, herror]
  | returned hid herror hresult => simp only [classify, hid, herror, hresult]
  | notified hother htopic =>
    rw [classify_of_unanswered hother]
    rcases htopic with hmethod | ⟨hmethod, hnotification⟩
    · simp only [hmethod]
    · simp only [hmethod, hnotification]
  | unrecognized hother hmethod hnotification =>
    rw [classify_of_unanswered hother]
    simp only [hmethod, hnotification]

theorem answer_classify (e : Envelope) : e.Answer e.classify := by
  unfold classify
  split
  · next hid herror => exact .failed hid herror
  · next hid herror hresult => exact .returned hid herror hresult
  · next hfailed hreturned =>
    have hother : e.id = none ∨ e.error = none ∧ e.result = none := by
      cases hid : e.id with
      | none => exact .inl rfl
      | some id =>
        refine .inr ⟨Option.eq_none_iff_forall_ne_some.mpr fun error herror => ?_,
          Option.eq_none_iff_forall_ne_some.mpr fun result hresult => ?_⟩
        · exact hfailed id error hid herror
        · cases herror : e.error with
          | none => exact hreturned id result hid herror hresult
          | some error => exact hfailed id error hid herror
    split
    · next hmethod => exact .notified hother (.inl hmethod)
    · next hmethod hnotification => exact .notified hother (.inr ⟨hmethod, hnotification⟩)
    · next hmethod hnotification => exact .unrecognized hother hmethod hnotification

end Envelope

namespace Frame

/-- A text that is one object, maybe with line ends after it, and its members as they are written. -/
def Spells (text : String) (ms : Members) : Prop :=
  Source.ofText (trimLineEnds text) = (.object ms true, true)

/-- How many bytes of a text count: all but those of the line ends after it. -/
def size (text : String) : Nat := (trimLineEnds text).utf8ByteSize

theorem decode_eq_classify {text : String} {ms : Members} {e : Envelope} {max : Nat} (htext : Spells text ms)
    (he : e.Stands ms) (hsize : size text ≤ max) : decode text max = e.classify := by
  have hread : Envelope.form.read.ofText (trimLineEnds text) = .ok e := by
    rw [Reader.ofText, htext]
    simp only [he.read, if_true]
  rw [size] at hsize
  simp only [decode, hsize, hread, if_true]

theorem decode_oversized {text : String} {max : Nat} (hsize : max < size text) :
    decode text max = .error (.oversized (size text) max) := by
  rw [size] at hsize
  simp only [decode, if_neg hsize.not_ge, size]

/-- What an object within the limit is read as. With an id, an error comes first and then a result, be it null;
without either of them the topic under `method` comes first and then the one under `notification`, with null for
parameters that are absent. The order of the members and those under other keys make no difference, nor does a
greater limit. A text over the limit is refused, whatever it is. -/
theorem decode_by_members (text : String) (ms : Members) (e : Envelope) (max : Nat)
    (htext : Spells text ms) (he : e.Stands ms) (hsize : size text ≤ max) :
    e.Answer (decode text max) ∧
      (∀ text' ms' max', Spells text' ms' → none ∉ Members.keys ms' →
        (Envelope.known ms).Perm (Envelope.known ms') → size text' ≤ max' →
          decode text' max' = decode text max) ∧
      (∀ max', max ≤ max' → decode text max' = decode text max) ∧
      ∀ text' max', max' < size text' → decode text' max' = .error (.oversized (size text') max') := by
  have hread := decode_eq_classify htext he hsize
  refine ⟨?_, ?_, ?_, fun text' max' => decode_oversized⟩
  · rw [hread]
    exact e.answer_classify
  · intro text' ms' max' htext' hnamed hknown hsize'
    rw [hread, decode_eq_classify htext' (he.of_perm hknown hnamed) hsize']
  · intro max' hmax
    rw [hread, decode_eq_classify htext he (hsize.trans hmax)]

/-- A null for a result is an answer. Half of a surrogate pair in a member that means nothing is not looked at,
and neither that member nor the order of the others makes a difference. -/
theorem decode_null_result :
    let text := "\x7b\"x\":[\"\\ud800\",[]],\"result\":null,\"id\":\"7\"\x7d\r\n"
    let other := "\x7b\"id\":\"7\",\"result\":null\x7d"
    decode text 64 = .ok (.response (.text "7") (.ok .null)) ∧ decode other 24 = decode text 64 ∧
      decode text 40 = .error (.oversized 42 40) := by
  intro text other
  let result : Option String × Source := (some "result", .null)
  let id : Option String × Source := (some "id", .string (some "7"))
  let unknown : Option String × Source := (some "x", .array [.string none, .array [] true] true)
  have htext : Spells text [unknown, result, id] := by
    unfold text
    rfl
  have hother : Spells other [id, result] := by
    unfold other
    rfl
  have he : (⟨some (.text "7"), some .null, none, none, none, none⟩ : Envelope).Stands
      [unknown, result, id] :=
    { named := by decide
      once := by decide
      id := .value (List.mem_cons_of_mem _ (List.mem_cons_of_mem _ List.mem_cons_self)) Source.noConfusion rfl
      result := .value (List.mem_cons_of_mem _ List.mem_cons_self) rfl
      error := .absent (by simp [unknown, result, id])
      method := .absent (by simp [unknown, result, id])
      notification := .absent (by simp [unknown, result, id])
      params := .absent (by simp [unknown, result, id]) }
  have hsize : size text = 42 := by decide +kernel
  have hshort : size other = 24 := by decide +kernel
  obtain ⟨hanswer, hsame, -, hlong⟩ := decode_by_members text _ _ 64 htext he (by omega)
  refine ⟨hanswer.eq_classify, ?_, ?_⟩
  · exact hsame other _ 24 hother (by decide) (List.Perm.swap _ _ _) hshort.le
  · rw [hlong text 40 (by omega), hsize]

end Frame
end HubConsole.Rpc
