import HubConsole.Proofs.Rpc.Documents
import HubConsole.Proofs.Rpc.Envelopes
import HubConsole.Proofs.Rpc.Pushes
import HubConsole.Proofs.Session.Effects

namespace HubConsole.Rpc

open HubConsole.Json

namespace Id

variable {n : Nat} (h : n < twoTo 64)

include h

theorem proper_number : (Id.number n).Proper := by
  rw [Id.Proper]
  exact h

theorem write_ne_null : Wire.write (Id.number n) ≠ .null := by
  rw [write_number, Reader.ofNat_eq_number n h]
  nofun

theorem doubles_write : (Wire.write (Id.number n)).doubles = [] := by
  rw [write_number, Reader.ofNat_eq_number n h, Value.doubles]

theorem read_write (room : Nat) : Wire.read room (Wire.write (Id.number n)).toSource = .ok (Id.number n) := by
  have hproper := proper_number h
  exact lawful.read_rendering hproper
    (Value.Renders.self (lawful.distinct hproper) ((depth_write _).trans_le (Nat.zero_le room)))

end Id

namespace Request

/-- The requests that are made on this side. The params of a call have their members in the order of the keys, each
double in them reads back as itself, and the request is no deeper than a document may be. -/
inductive Made : Request → Prop
  | call (id : Nat) (method : String) (params : Value) (hid : id < twoTo 64)
      (hsorted : params.sorted = params) (hdoubles : ∀ x ∈ params.doubles, ReadsBack x)
      (hdepth : (Wire.write (call id method params)).depth ≤ depthLimit) : Made (call id method params)
  | subscribe (id : Nat) (topics : List Topic) (hid : id < twoTo 64) : Made (subscribe id topics)

/-- The members of a call as it is written. -/
def members (number : Value) (method : String) (params : Value) : List (String × Value) :=
  [("jsonrpc", .string "2.0"), ("method", .string method), ("params", params), ("id", number)]

variable {id : Nat} {number : Value} {method : String} {params : Value}

theorem write_call :
    Wire.write (call id method params) = .object (members (Wire.write (Id.number id)) method params) := by
  have hwrite (r : Request) : Wire.write r = r.write := rfl
  rw [hwrite, write, call, members]

theorem doubles_members (hnumber : number.doubles = []) :
    (Value.object (members number method params)).doubles = params.doubles := by
  simp [members, Value.doubles, Value.memberDoubles, hnumber]

theorem depth_members_le {room : Nat} (hroom : room ≠ 0) (hnumber : number.depth = 0)
    (hparams : params.depth ≤ room - 1) : (Value.object (members number method params)).depth ≤ room := by
  rw [Value.depth_object_le_iff]
  refine ⟨hroom, ?_⟩
  simp [members, Value.depth, hnumber, hparams]

/-- The params of a subscription. -/
def topicNames (topics : List Topic) : List Value := topics.map fun t => .string t.name

theorem sorted_topicNames (topics : List Topic) :
    (Value.array (topicNames topics)).sorted = .array (topicNames topics) := by
  refine Value.sorted_array_of_forall _ fun v hv => ?_
  obtain ⟨t, -, rfl⟩ := List.mem_map.mp hv
  rw [Value.sorted]

theorem doubles_topicNames (topics : List Topic) : (Value.array (topicNames topics)).doubles = [] := by
  rw [Value.doubles]
  induction topics with
  | nil => rfl
  | cons t topics ih => simpa [topicNames, Value.itemDoubles, Value.doubles] using ih

theorem depth_topicNames_le (topics : List Topic) : (Value.array (topicNames topics)).depth ≤ 1 := by
  rw [Value.depth_array_le_iff]
  refine ⟨Nat.one_ne_zero, fun v hv => ?_⟩
  obtain ⟨t, -, rfl⟩ := List.mem_map.mp hv
  simp [Value.depth]

/-- A subscription is a call, and its params are as they should be. -/
theorem Made.exists_call {r : Request} (h : r.Made) :
    ∃ id method params, r = Request.call id method params ∧ id < twoTo 64 ∧ params.sorted = params ∧
      (∀ x ∈ params.doubles, ReadsBack x) ∧ (Wire.write r).depth ≤ depthLimit := by
  cases h with
  | call id method params hid hsorted hdoubles hdepth =>
    exact ⟨id, method, params, rfl, hid, hsorted, hdoubles, hdepth⟩
  | subscribe id topics hid =>
    have hdoubles : ∀ x ∈ (Value.array (topicNames topics)).doubles, ReadsBack x := by
      rw [doubles_topicNames]
      exact List.forall_mem_nil _
    have hdepth : (Wire.write (Request.call id "rpc.on" (.array (topicNames topics)))).depth ≤ depthLimit := by
      rw [write_call]
      have hone : 1 ≤ depthLimit - 1 := by decide
      exact depth_members_le (by decide) (Id.depth_write _) ((depth_topicNames_le topics).trans hone)
    exact ⟨id, "rpc.on", .array (topicNames topics), rfl, hid, sorted_topicNames topics, hdoubles, hdepth⟩

/-- What a call is written as is read as the call. -/
theorem ofText_toText_call (hid : id < twoTo 64) (hsorted : params.sorted = params)
    (hdoubles : ∀ x ∈ params.doubles, ReadsBack x)
    (hdepth : (Wire.write (call id method params)).depth ≤ depthLimit) :
    Wire.ofText (Wire.toText (call id method params)) = .ok (call id method params) := by
  have hproper : (call id method params).params.sorted = (call id method params).params ∧
      (call id method params).id.Proper := ⟨hsorted, Id.proper_number hid⟩
  rw [Wire.ofText_toText]
  · exact lawful.read_rendering hproper (Value.Renders.self (lawful.distinct hproper) hdepth)
  · rw [write_call, doubles_members (Id.doubles_write hid)]
    exact hdoubles

/-- Params that are null say as much as params that are absent. -/
theorem said_params (number : Value) (method : String) (hsorted : params.sorted = params)
    (hdepth : params.depth ≤ Envelope.memberRoom) :
    ∃ said, said.getD .null = params ∧
      Said Reader.free Envelope.memberRoom (Value.toMembers (members number method params)) "params" said := by
  have hmem : (some "params", params.toSource) ∈ Value.toMembers (members number method params) := by
    simp [members, Value.toMembers]
  by_cases hnull : params = .null
  · subst hnull
    exact ⟨none, rfl, .null hmem⟩
  · refine ⟨some params, rfl, .value hmem (Value.toSource_ne_null hnull) ?_⟩
    rw [Reader.free, Value.free?_toSource params _ hdepth, hsorted]

/-- The members of a call stand in an envelope that has an id, but neither a result nor an error. -/
theorem stands_members (method : String) (hnull : number ≠ .null)
    (hread : Wire.read Envelope.memberRoom number.toSource = .ok (Id.number id))
    (hsorted : params.sorted = params) (hdepth : params.depth ≤ Envelope.memberRoom) :
    ∃ said, said.getD .null = params ∧
      Envelope.Stands ⟨some (.number id), none, none, some method, none, said⟩
        (Value.toMembers (members number method params)) := by
  obtain ⟨said, hsaid, hparams⟩ := said_params number method hsorted hdepth
  have hkeys : Members.keys (Value.toMembers (members number method params)) =
      [some "jsonrpc", some "method", some "params", some "id"] := rfl
  have hmethod : (some "method", .string (some method)) ∈ Value.toMembers (members number method params) := by
    simp [members, Value.toMembers, Value.toSource]
  refine ⟨said, hsaid, ?_⟩
  exact {
    named := by rw [hkeys]; decide
    once := by rw [hkeys]; decide
    id := .value (by simp [members, Value.toMembers]) (Value.toSource_ne_null hnull) hread
    result := .absent (by simp [members, Value.toMembers])
    error := .absent (by simp [members, Value.toMembers])
    method := .value hmethod (by simp) rfl
    notification := .absent (by simp [members, Value.toMembers])
    params := hparams }

/-- A call that comes back is a notification. -/
theorem decode_toText_call (hid : id < twoTo 64) (hsorted : params.sorted = params)
    (hdoubles : ∀ x ∈ params.doubles, ReadsBack x)
    (hdepth : (Wire.write (call id method params)).depth ≤ depthLimit) {max : Nat}
    (hsize : (Wire.toText (call id method params)).utf8ByteSize ≤ max) :
    Frame.decode (Wire.toText (call id method params)) max = .ok (.notification method params) := by
  rw [write_call, Value.depth_object_le_iff] at hdepth
  have hparams : params.depth ≤ Envelope.memberRoom := hdepth.2 ("params", params) (by simp [members])
  obtain ⟨said, hsaid, hstands⟩ :=
    stands_members method (Id.write_ne_null hid) (Id.read_write hid _) hsorted hparams
  rw [Wire.toText, write_call] at hsize ⊢
  have htrim := Frame.trimLineEnds_object (members (Wire.write (Id.number id)) method params)
  have hspells : Frame.Spells (Value.object (members (Wire.write (Id.number id)) method params)).text
      (Value.toMembers (members (Wire.write (Id.number id)) method params)) := by
    rw [Frame.Spells, htrim, Source.ofText_text _ (by rwa [doubles_members (Id.doubles_write hid)]),
      Value.toSource]
  rw [Frame.decode_eq_classify hspells hstands (by rwa [Frame.size, htrim]), ← hsaid]
  rfl

section

variable (r : Request) (max : Nat)

theorem encode_of_le (h : (Wire.toText r).utf8ByteSize ≤ max) : r.encode max = .ok (Wire.toText r) := by
  simp only [encode, h, if_true]

theorem encode_oversized (h : max < (Wire.toText r).utf8ByteSize) :
    r.encode max = .error (.oversized (Wire.toText r).utf8ByteSize max) := by
  simp only [encode, if_neg h.not_ge]

theorem encode_eq_ok_iff :
    (∃ sent, r.encode max = .ok sent) ↔ (Wire.toText r).utf8ByteSize ≤ max := by
  constructor
  · intro h
    obtain ⟨sent, hsent⟩ := h
    by_contra hlarge
    rw [encode_oversized r max (Nat.lt_of_not_le hlarge)] at hsent
    cases hsent
  · intro h
    exact ⟨_, encode_of_le r max h⟩

end

end Request

end HubConsole.Rpc

namespace HubConsole.Session.Link

open HubConsole.Json HubConsole.Rpc

/-- A notification ends no request in flight. -/
theorem step_notification {config : Config} {text topic : String} {params : Value}
    (h : Frame.decode text config.maxFrameBytes = .ok (.notification topic params)) (l : Link) :
    (l.step config (.received text)).1 = l ∧ answered (l.step config (.received text)).2 = [] := by
  have hanswer : answer? config text = none := by rw [answer?, h]
  simp only [step]
  split
  · next pending hphase =>
    rw [receive_of_no_answer config l pending text hanswer, ← hphase]
    exact ⟨rfl, answered_pushes config l text⟩
  · exact ⟨rfl, answered_nil⟩

/-- Requests that are made here are sent as their compact text, if the limit allows for its bytes; else the error
tells how many they are. The text is read as the same request, and when the hub sends it back it is no response but
the notification of its method with its params, so that no call in flight is answered. -/
theorem echoes_answer_nothing (r : Request) (hr : r.Made) (max : Nat) :
    let text := Wire.toText r
    ((∃ sent, r.encode max = .ok sent) ↔ text.utf8ByteSize ≤ max) ∧
    (max < text.utf8ByteSize → r.encode max = .error (.oversized text.utf8ByteSize max)) ∧
    ∀ sent, r.encode max = .ok sent → sent = text ∧ Wire.ofText sent = .ok r ∧
      Frame.decode sent max = .ok (.notification r.method r.params) ∧
      ∀ (config : Config) (l : Link), config.maxFrameBytes = max →
        (l.step config (.received sent)).1 = l ∧ answered (l.step config (.received sent)).2 = [] := by
  intro text
  obtain ⟨id, method, params, rfl, hid, hsorted, hdoubles, hdepth⟩ := hr.exists_call
  refine ⟨Request.encode_eq_ok_iff _ max, Request.encode_oversized _ max, ?_⟩
  intro sent hsent
  have hsize : text.utf8ByteSize ≤ max := (Request.encode_eq_ok_iff _ max).mp ⟨sent, hsent⟩
  obtain rfl : text = sent := by
    rw [Request.encode_of_le _ max hsize] at hsent
    exact Except.ok.inj hsent
  have hdecode : Frame.decode text max = .ok (.notification method params) :=
    Request.decode_toText_call hid hsorted hdoubles hdepth hsize
  refine ⟨rfl, Request.ofText_toText_call hid hsorted hdoubles hdepth, hdecode, ?_⟩
  intro config l hmax
  exact step_notification (hmax ▸ hdecode) l

/-- A call with escapes, a character of four bytes and a double comes back while it is in flight. The limit is
just the size of its text. -/
theorem echo_at_limit :
    let half : Double := ⟨false, 1022 * twoTo 52, by decide⟩
    let params : Value := .object [("a", .array [.null, .number (.float half), .string "\n😀"]), ("b", .bool true)]
    let r := Request.call 7 "node_\"x\"" params
    let config : Config := { Config.new "" "" with maxFrameBytes := 90 }
    let l : Link := { start config with phase := .open [(7, .call 0)] }
    r.encode 90 = .ok (Wire.toText r) ∧ r.encode 89 = .error (.oversized 90 89) ∧
      Frame.decode (Wire.toText r) 90 = .ok (.notification "node_\"x\"" params) ∧
      (l.step config (.received (Wire.toText r))).1 = l := by
  intro half params r config l
  have hsize : (Wire.toText r).utf8ByteSize = 90 := by decide +kernel
  have hsorted : params.sorted = params := by
    refine Value.sorted_object_of_pairwise _ (by decide) ?_
    simp [Value.sorted, Value.sortedItems]
  have hmade : r.Made :=
    .call 7 "node_\"x\"" params (by decide) hsorted (by decide +kernel) (by decide +kernel)
  obtain ⟨hfits, -, hsent⟩ := echoes_answer_nothing r hmade 90
  obtain ⟨sent, hencode⟩ := hfits.mpr hsize.le
  obtain ⟨rfl, -, hdecode, hlink⟩ := hsent sent hencode
  have hlong := (echoes_answer_nothing r hmade 89).2.1 (by rw [hsize]; decide)
  rw [hsize] at hlong
  exact ⟨hencode, hlong, hdecode, (hlink config l rfl).1⟩

end HubConsole.Session.Link
