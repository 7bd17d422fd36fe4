import HubConsole.Proofs.Json.Documents
import HubConsole.Proofs.Network.Documents
import HubConsole.Rpc.Frame

namespace HubConsole.Json.Value

theorem writeMembers_eq_append (ms : List (String × Value)) : ∃ cs, writeMembers ms = cs ++ ['}'] := by
  induction ms with
  | nil => exact ⟨[], rfl⟩
  | cons m ms ih =>
    obtain ⟨cs, hcs⟩ := ih
    exact ⟨',' :: (writeString m.1 ++ ':' :: (m.2.write ++ cs)), by simp [writeMembers, hcs]⟩

theorem write_object_eq_append (ms : List (String × Value)) :
    ∃ cs, (Value.object ms).write = cs ++ ['}'] := by
  cases ms with
  | nil => exact ⟨['{'], rfl⟩
  | cons m ms =>
    obtain ⟨cs, hcs⟩ := writeMembers_eq_append ms
    exact ⟨'{' :: (writeString m.1 ++ ':' :: (m.2.write ++ cs)), by simp [write, hcs]⟩

end HubConsole.Json.Value

namespace HubConsole.Rpc

open HubConsole.Json

namespace Envelope

/-- An envelope with nothing but what a notification has. -/
theorem ofMembers_eq {room : Nat} {ms : Members} {method notification : Option String}
    {params : Option Value} (hid : ms.find? "id" = none) (hresult : ms.find? "result" = none)
    (herror : ms.find? "error" = none)
    (hmethod : (Form.optional "method" Reader.text).ofMembers room ms = .ok method)
    (hnotification : (Form.optional "notification" Reader.text).ofMembers room ms = .ok notification)
    (hparams : (Form.optional "params" Reader.free).ofMembers room ms = .ok params) :
    form.ofMembers room ms = .ok ⟨none, none, none, method, notification, params⟩ :=
  Form.seq_ofMembers (Form.seq_ofMembers (Form.seq_ofMembers (Form.seq_ofMembers (Form.seq_ofMembers
    (Form.map_ofMembers mk (Form.withDefault_absent hid)) (Form.withDefault_absent hresult))
    (Form.withDefault_absent herror)) hmethod) hnotification) hparams

end Envelope

/-- A written object ends in its bracket, and not in a line end. -/
theorem Frame.trimLineEnds_object (ms : List (String × Value)) :
    trimLineEnds (Value.object ms).text = (Value.object ms).text := by
  obtain ⟨cs, hcs⟩ := Value.write_object_eq_append ms
  rw [trimLineEnds, Value.text, String.toList_ofList, hcs, Text.dropEnd, List.reverse_append]
  simp

namespace Push

def Proper : Push → Prop
  | .network delta => delta.Proper
  | .node update => update.Proper

theorem record_eq_object (p : Push) : ∃ ms, p.record = .object ms := by
  cases p with
  | network delta => exact ⟨_, rfl⟩
  | node update => exact ⟨_, rfl⟩

/-- Members of a frame that sends a push. They may stand in any order, those of the record too, and the
record may stand in an array; other members have to mean nothing in a frame. -/
structure Framed (p : Push) (key : String) (params : Value) (ms : List (String × Value)) : Prop where
  named : key = "method" ∨ key = "notification"
  carried : params.sorted = p.record.sorted ∨ params.sorted = (Value.array [p.record]).sorted
  members : ∃ others, ms.Perm ((key, .string p.topic.name) :: ("params", params) :: others) ∧
    (Value.keys others).Nodup ∧ ∀ k ∈ Value.keys others, k ∉ Envelope.form.keys

/-- The four forms of the frame of a push. -/
theorem framed (p : Push) {key : String} {params : Value} (hkey : key = "method" ∨ key = "notification")
    (hparams : params = p.record ∨ params = .array [p.record]) :
    p.Framed key params
      [("jsonrpc", .string "2.0"), (key, .string p.topic.name), ("params", params)] where
  named := hkey
  carried := hparams.imp (congrArg Value.sorted) (congrArg Value.sorted)
  members := ⟨[("jsonrpc", .string "2.0")],
    (List.perm_append_singleton _ [(key, .string p.topic.name), ("params", params)]).symm,
    by decide, by decide⟩

namespace Framed

variable {p : Push} {key : String} {params : Value} {ms : List (String × Value)}

theorem key_mem (h : p.Framed key params ms) : key ∈ Envelope.form.keys := by
  rcases h.named with rfl | rfl <;> decide

theorem key_ne_params (h : p.Framed key params ms) : key ≠ "params" := by
  rcases h.named with rfl | rfl <;> decide

theorem keys_nodup (h : p.Framed key params ms) : (Value.keys ms).Nodup := by
  obtain ⟨others, hms, hothers, hforeign⟩ := h.members
  refine (hms.map Prod.fst).nodup_iff.mpr ?_
  have hkey : key ∉ Value.keys others := fun hmem => hforeign key hmem h.key_mem
  have hparams : "params" ∉ Value.keys others := fun hmem => hforeign _ hmem (by decide)
  exact List.nodup_cons.mpr ⟨List.not_mem_cons_of_ne_of_not_mem h.key_ne_params hkey,
    List.nodup_cons.mpr ⟨hparams, hothers⟩⟩

theorem topic_mem (h : p.Framed key params ms) : (key, .string p.topic.name) ∈ ms := by
  obtain ⟨others, hms, -⟩ := h.members
  exact hms.mem_iff.mpr List.mem_cons_self

theorem params_mem (h : p.Framed key params ms) : ("params", params) ∈ ms := by
  obtain ⟨others, hms, -⟩ := h.members
  exact hms.mem_iff.mpr (List.mem_cons_of_mem _ List.mem_cons_self)

/-- Of the members that mean something in a frame, only the topic and the parameters are there. -/
theorem find?_eq_none (h : p.Framed key params ms) {k : String} (hk : k ∈ Envelope.form.keys)
    (hkey : k ≠ key) (hparams : k ≠ "params") : Members.find? k (Value.toMembers ms) = none := by
  obtain ⟨others, hms, -, hforeign⟩ := h.members
  refine Value.find?_toMembers_of_not_mem k ms fun hmem => ?_
  rcases List.mem_cons.mp ((hms.map Prod.fst).mem_iff.mp hmem) with heq | hmem
  · exact hkey heq
  · rcases List.mem_cons.mp hmem with heq | hmem
    · exact hparams heq
    · exact hforeign k hmem hk

theorem sorted_ne_null (h : p.Framed key params ms) : params.sorted ≠ .null := by
  obtain ⟨own, hown⟩ := p.record_eq_object
  rcases h.carried with hparams | hparams
  · rw [hparams, hown, Value.sorted_object]
    nofun
  · rw [hparams, Value.sorted_array]
    nofun

theorem unwrap_sorted (h : p.Framed key params ms) : unwrap params.sorted = p.record.sorted := by
  obtain ⟨own, hown⟩ := p.record_eq_object
  rcases h.carried with hparams | hparams
  · rw [hparams, hown, Value.sorted_object]
    rfl
  · rw [hparams, Value.sorted_array]
    rfl

theorem depth_params (h : p.Framed key params ms) {room : Nat} (hdepth : (Value.object ms).depth ≤ room) :
    params.depth ≤ room - 1 :=
  ((Value.depth_object_le_iff ms room).mp hdepth).2 _ h.params_mem

/-- The record is there with its members sorted, so there is room for it. -/
theorem depth_record (h : p.Framed key params ms) {room : Nat} (hdepth : (Value.object ms).depth ≤ room) :
    p.record.sorted.depth ≤ room := by
  have hparams := Value.depth_sorted_le params _ (h.depth_params hdepth)
  rcases h.carried with hsame | hsame
  · rw [hsame] at hparams
    omega
  · rw [hsame, Value.sorted_array, Value.depth_array_le_iff] at hparams
    have := hparams.2 _ List.mem_cons_self
    omega

theorem read_params (h : p.Framed key params ms) {room : Nat} (hdepth : params.depth ≤ room) :
    (Form.optional "params" Reader.free).ofMembers room (Value.toMembers ms) = .ok (some params.sorted) := by
  obtain ⟨i, hfind⟩ := Value.find?_toMembers_of_mem _ _ ms h.keys_nodup h.params_mem
  refine Form.optional_present hfind (Value.toSource_ne_null fun heq => h.sorted_ne_null ?_) ?_
  · rw [heq, Value.sorted]
  · rw [Reader.free, Value.free?_toSource params room hdepth]

theorem read_topic (h : p.Framed key params ms) (room : Nat) :
    (Form.optional key Reader.text).ofMembers room (Value.toMembers ms) = .ok (some p.topic.name) := by
  obtain ⟨i, hfind⟩ := Value.find?_toMembers_of_mem _ _ ms h.keys_nodup h.topic_mem
  exact Form.optional_present hfind nofun rfl

/-- The frame is read as a notification, whichever key the topic stands under. -/
theorem read_envelope (h : p.Framed key params ms) {room : Nat} (hdepth : params.depth ≤ room) :
    ∃ e, Envelope.form.ofMembers room (Value.toMembers ms) = .ok e ∧
      e.classify = .ok (.notification p.topic.name params.sorted) := by
  have hid : Members.find? "id" (Value.toMembers ms) = none :=
    h.find?_eq_none (by decide) (by rcases h.named with rfl | rfl <;> decide) (by decide)
  have hresult : Members.find? "result" (Value.toMembers ms) = none :=
    h.find?_eq_none (by decide) (by rcases h.named with rfl | rfl <;> decide) (by decide)
  have herror : Members.find? "error" (Value.toMembers ms) = none :=
    h.find?_eq_none (by decide) (by rcases h.named with rfl | rfl <;> decide) (by decide)
  have htopic := h.read_topic room
  have hparams := h.read_params hdepth
  rcases h.named with rfl | rfl
  · have hother := h.find?_eq_none (k := "notification") (by decide) (by decide) (by decide)
    exact ⟨_, Envelope.ofMembers_eq hid hresult herror htopic (Form.withDefault_absent hother) hparams, rfl⟩
  · have hother := h.find?_eq_none (k := "method") (by decide) (by decide) (by decide)
    exact ⟨_, Envelope.ofMembers_eq hid hresult herror (Form.withDefault_absent hother) htopic hparams, rfl⟩

end Framed

theorem ofParams_of_unwrap (p : Push) (hp : p.Proper) {params v : Value} (hunwrap : unwrap params = v)
    (hv : v.Renders p.record depthLimit) : ofParams p.topic params = .ok p := by
  cases p with
  | network delta =>
    rw [topic, ofParams, hunwrap, Wire.ofValue, Reader.ofValue,
      Network.Delta.lawful.read_rendering hp hv]
    rfl
  | node update =>
    rw [topic, ofParams, hunwrap, Wire.ofValue, Reader.ofValue,
      Node.Update.lawful.read_rendering hp hv]
    rfl

theorem ofNotification_eq (p : Push) {params : Value} (h : ofParams p.topic params = .ok p) :
    ofNotification p.topic.name params = .ok (some p) := by
  rw [ofNotification, Topic.ofName?_name]
  simp only [h, Except.map]

/-- Whichever way a push is put into a frame, the frame is a notification of its topic, and the push comes
out of it as it was. -/
theorem decode_framed (p : Push) (hp : p.Proper) {key : String} {params : Value}
    {ms : List (String × Value)} (h : p.Framed key params ms) {max : Nat}
    (hdoubles : ∀ x ∈ (Value.object ms).doubles, ReadsBack x)
    (hdepth : (Value.object ms).depth ≤ depthLimit)
    (hsize : (Value.object ms).text.utf8ByteSize ≤ max) :
    Frame.decode (Value.object ms).text max = .ok (.notification p.topic.name params.sorted) ∧
      ofNotification p.topic.name params.sorted = .ok (some p) := by
  constructor
  · obtain ⟨e, hread, hclassify⟩ := h.read_envelope (h.depth_params hdepth)
    have hplaced := Value.misplaced?_toMembers Envelope.form.keys ms h.keys_nodup
    have henvelope : Envelope.form.read depthLimit (Value.object ms).toSource = .ok e :=
      Form.read_object (by decide) hplaced hread
    have htext : Envelope.form.read.ofText (Value.object ms).text = .ok e := by
      rw [Reader.ofText, Source.ofText_text _ hdoubles]
      simp only [henvelope, if_true]
    rw [Frame.decode, Frame.trimLineEnds_object]
    simp only [hsize, htext, hclassify, if_true]
  · have hrecord : p.record.sorted.Renders p.record depthLimit :=
      ⟨Value.sorted_sorted _, Value.distinct_sorted _, h.depth_record hdepth⟩
    exact p.ofNotification_eq (p.ofParams_of_unwrap hp h.unwrap_sorted hrecord)

/-- An update with a double, a free value and an access list with both kinds of entries, in an array and
under `notification`. -/
theorem decode_framed_update_in_array :
    let half : Double := ⟨false, 1022 * twoTo 52, by decide⟩
    let update : Node.Update := ⟨"a", none, some "x:1", none, some .run, none, some ⟨-7, ""⟩,
      some [.object [("k", .array [.null, .number (.float half)])]], some [],
      some ⟨[⟨"x", none⟩, ⟨"\"y\"", some "t"⟩], true⟩, none, some ⟨[half], .zero, ⟨2, 1, half⟩⟩, none⟩
    let params : Value := .array [Wire.write update]
    let frame : Value := .object
      [("jsonrpc", .string "2.0"), ("notification", .string "node_updated"), ("params", params)]
    Frame.decode frame.text 512 = .ok (.notification "node_updated" params.sorted) ∧
      ofNotification "node_updated" params.sorted = .ok (some (.node update)) := by
  intro half update params frame
  have hproper : (Push.node update).Proper := by
    refine ⟨fun b hb => ?_, fun vs hvs v hv => ?_, fun h hh => ?_⟩
    · obtain rfl := Option.some.inj hb
      unfold Node.Block.Proper Reader.Int64
      decide
    · obtain rfl := Option.some.inj hvs
      obtain rfl := List.mem_singleton.mp hv
      rfl
    · obtain rfl := Option.some.inj hh
      refine ⟨Node.Usage.zero_proper, ?_⟩
      unfold Node.Usage.Proper Reader.Int64
      decide
  exact decode_framed (.node update) hproper (framed _ (.inr rfl) (.inr rfl))
    (by decide +kernel) (by decide +kernel) (by decide +kernel)

end Push
end HubConsole.Rpc
