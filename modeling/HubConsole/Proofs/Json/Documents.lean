import HubConsole.Json.Record
import HubConsole.Proofs.Double.Numeral
import HubConsole.Proofs.Json.Strings

namespace HubConsole.Json

open HubConsole.Text

namespace Reading

/-- A document is judged by its tokens alone. -/
theorem finish_run (mode : Mode) (stage : Stage) (cs : List Char) :
    ((Reading.mk mode stage).run cs).finish = ((mode.tokens cs).foldl Stage.take stage).finish := by
  induction cs generalizing mode stage with
  | nil => rfl
  | cons c cs ih =>
    have hstep : (Reading.mk mode stage).run (c :: cs) =
        (Reading.mk (mode.step c).2 ((mode.step c).1.foldl Stage.take stage)).run cs := rfl
    rw [hstep, ih, Mode.tokens, List.foldl_append]

end Reading

theorem Source.ofText_ofList (cs : List Char) :
    Source.ofText (String.ofList cs) =
      ((Mode.between.tokens cs).foldl Stage.take (.value [])).finish := by
  rw [Source.ofText, String.toList_ofList]
  exact Reading.finish_run .between (.value []) cs

namespace Number

/-- The numeral that is written for a number. -/
def numeral : Number → Numeral
  | .int (.ofNat n) _ => ⟨false, digits n, [], none⟩
  | .int (.negSucc n) _ => ⟨true, digits (n + 1), [], none⟩
  | .float x => x.numeral

theorem write_eq_spell (n : Number) : n.write = n.numeral.spell := by
  match n with
  | .int (.ofNat n) _ => simp [write, numeral, Numeral.spell]
  | .int (.negSucc n) _ => simp [write, numeral, Numeral.spell]
  | .float x => exact x.text_eq_spell

theorem wellFormed_digits (negative : Bool) (n : Nat) :
    (Numeral.mk negative (digits n) [] none).WellFormed := by
  obtain ⟨c, cs, hds, hc, hcs, hzero⟩ := exists_digits_eq_cons n
  refine ⟨⟨c, cs, hds, hc, hcs, ?_⟩, rfl, fun small ds h => by cases h⟩
  intro h0
  rw [hzero h0, digits, if_pos (by decide)] at hds
  exact (List.cons.inj hds).2.symm

theorem numeral_wellFormed (n : Number) : n.numeral.WellFormed := by
  match n with
  | .int (.ofNat n) _ => exact wellFormed_digits false n
  | .int (.negSucc n) _ => exact wellFormed_digits true (n + 1)
  | .float x => exact x.numeral_wellFormed

theorem toNumber?_of_whole (n : Numeral) (i : Int) (fits : Fits i) (hwhole : n.isWhole)
    (hvalue : n.intValue = i) (hzero : ¬(n.negative ∧ i = 0)) : n.toNumber? = some (.int i fits) := by
  subst hvalue
  rw [Numeral.toNumber?, dif_pos ⟨hwhole, fits, hzero⟩]

theorem toNumber?_numeral_int (i : Int) (fits : Fits i) :
    (Number.int i fits).numeral.toNumber? = some (.int i fits) := by
  cases i with
  | ofNat n =>
    refine toNumber?_of_whole _ _ fits rfl ?_ (fun h => by cases h.1)
    simp [numeral, Numeral.intValue, valueOf_digits]
  | negSucc n =>
    refine toNumber?_of_whole _ _ fits rfl ?_ (fun h => by cases h.2)
    simp [numeral, Numeral.intValue, valueOf_digits]
    omega

end Number

/-- A double that is read from its own text. Reading may round twice, so it is not so of every double. -/
def ReadsBack (x : Double) : Prop := Reader.double.ofText (writeDouble x).text = .ok x

theorem tokens_number (n : Number) (rest : List Char) (hrest : Breaks rest) :
    Mode.between.tokens (n.write ++ rest) =
      .number n.numeral.toNumber? :: Mode.between.tokens rest := by
  rw [n.write_eq_spell]
  exact Mode.tokens_spell _ rest n.numeral_wellFormed hrest

theorem ofText_writeDouble (x : Double) :
    Source.ofText (writeDouble x).text = (.number (x.numeral.toDouble?.map .float), true) := by
  have htokens := tokens_number (.float x) [] trivial
  rw [List.append_nil] at htokens
  rw [Value.text, Source.ofText_ofList, writeDouble, Value.write, htokens, ← x.toNumber?_numeral]
  rfl

theorem readsBack_iff (x : Double) : ReadsBack x ↔ x.numeral.toDouble? = some x := by
  unfold ReadsBack Reader.ofText
  rw [ofText_writeDouble]
  cases x.numeral.toDouble? with
  | none => exact iff_of_false nofun nofun
  | some y =>
    change Except.ok y = Except.ok x ↔ some y = some x
    rw [Except.ok.injEq, Option.some.injEq]

instance : DecidableEq Double := fun x y =>
  decidable_of_iff (x.negative = y.negative ∧ x.rank = y.rank) (by cases x; cases y; simp)

instance (x : Double) : Decidable (ReadsBack x) := decidable_of_iff _ (readsBack_iff x).symm

theorem toNumber?_numeral_float (x : Double) (h : ReadsBack x) :
    (Number.float x).numeral.toNumber? = some (.float x) := by
  rw [Number.numeral, x.toNumber?_numeral, (readsBack_iff x).mp h]
  rfl

namespace Value

mutual

/-- The doubles that stand in a value. -/
def doubles : Value → List Double
  | .number (.float x) => [x]
  | .array items => itemDoubles items
  | .object members => memberDoubles members
  | .null | .bool _ | .number (.int _ _) | .string _ => []

def itemDoubles : List Value → List Double
  | [] => []
  | v :: vs => doubles v ++ itemDoubles vs

def memberDoubles : List (String × Value) → List Double
  | [] => []
  | (_, v) :: ms => doubles v ++ memberDoubles ms

end

theorem breaks_writeItems (vs : List Value) (rest : List Char) : Breaks (writeItems vs ++ rest) := by
  cases vs with
  | nil => exact .inr (.inl rfl)
  | cons v vs => exact .inl rfl

theorem breaks_writeMembers (ms : List (String × Value)) (rest : List Char) :
    Breaks (writeMembers ms ++ rest) := by
  cases ms with
  | nil => exact .inr (.inr (.inl rfl))
  | cons m ms => exact .inl rfl

end Value

namespace Stage

/-- A value may come next, and `frames` are open around it. -/
def Awaits (stage : Stage) (frames : List Frame) : Prop :=
  ∀ t, t ≠ .endArray → stage.take t = takeValue frames t

theorem awaits_value (frames : List Frame) : (Stage.value frames).Awaits frames := fun _ _ => rfl

theorem awaits_first_item (items : List Source) (frames : List Frame) :
    (Stage.start (.array items :: frames)).Awaits (.array items :: frames) := by
  intro t ht
  cases t <;> first | rfl | exact absurd rfl ht

/-- The stage after all tokens of a text that starts between two tokens. -/
def takeText (stage : Stage) (cs : List Char) : Stage := (Mode.between.tokens cs).foldl take stage

theorem takeText_token (stage : Stage) (cs rest : List Char) (t : Token)
    (h : Mode.between.tokens cs = t :: Mode.between.tokens rest) :
    stage.takeText cs = (stage.take t).takeText rest := by
  rw [takeText, h]
  rfl

/-- A key, its colon, and then the value. -/
theorem takeText_key (stage : Stage) (members : List (Option String × Source)) (frames : List Frame)
    (key : String) (rest : List Char)
    (h : stage.take (.string (some key)) = .colon (.member members (some key) :: frames)) :
    stage.takeText (writeString key ++ ':' :: rest) =
      (Stage.value (.member members (some key) :: frames)).takeText rest := by
  rw [takeText_token _ _ _ _ (Mode.tokens_writeString key (':' :: rest)), h]
  exact takeText_token _ (':' :: rest) rest .colon rfl

mutual

/-- A written value is taken for the document that spells it. -/
theorem takeText_write (v : Value) (hv : ∀ x ∈ v.doubles, ReadsBack x) (stage : Stage)
    (frames : List Frame) (rest : List Char) (hstage : stage.Awaits frames) (hrest : Breaks rest) :
    stage.takeText (v.write ++ rest) = (deliver v.toSource frames).takeText rest := by
  match v with
  | .null => rw [takeText_token _ _ rest .null rfl, hstage _ (by simp)]; rfl
  | .bool b =>
    have htoken : Mode.between.tokens (Value.write (.bool b) ++ rest) =
        .bool b :: Mode.between.tokens rest := by cases b <;> rfl
    rw [takeText_token _ _ rest _ htoken, hstage _ (by simp)]
    rfl
  | .number n =>
    have htoken : Mode.between.tokens (Value.write (.number n) ++ rest) =
        .number n.numeral.toNumber? :: Mode.between.tokens rest := tokens_number n rest hrest
    rw [takeText_token _ _ rest _ htoken, hstage _ (by simp)]
    have hnumber : n.numeral.toNumber? = some n := by
      cases n with
      | int i fits => exact Number.toNumber?_numeral_int i fits
      | float x => exact toNumber?_numeral_float x (hv x (List.mem_singleton_self x))
    rw [hnumber]
    rfl
  | .string s =>
    have htoken : Mode.between.tokens (Value.write (.string s) ++ rest) =
        .string (some s) :: Mode.between.tokens rest := Mode.tokens_writeString s rest
    rw [takeText_token _ _ rest _ htoken, hstage _ (by simp)]
    rfl
  | .array [] =>
    have hstart : stage.take .beginArray = .start (.array [] :: frames) := hstage _ (by simp)
    rw [takeText_token _ _ (']' :: rest) .beginArray rfl, hstart]
    exact takeText_token _ _ rest .endArray rfl
  | .array (w :: ws) =>
    rw [Value.doubles, Value.itemDoubles, List.forall_mem_append] at hv
    have hstart : stage.take .beginArray = .start (.array [] :: frames) := hstage _ (by simp)
    rw [takeText_token _ _ (w.write ++ Value.writeItems ws ++ rest) .beginArray rfl, hstart,
      List.append_assoc, takeText_write w hv.1 _ _ _ (awaits_first_item [] frames)
        (Value.breaks_writeItems ws rest)]
    exact takeText_writeItems ws hv.2 [w.toSource] frames rest
  | .object [] =>
    have hstart : stage.take .beginObject = .start (.object [] :: frames) := hstage _ (by simp)
    rw [takeText_token _ _ ('}' :: rest) .beginObject rfl, hstart]
    exact takeText_token _ _ rest .endObject rfl
  | .object ((k, w) :: ms) =>
    rw [Value.doubles, Value.memberDoubles, List.forall_mem_append] at hv
    have hstart : stage.take .beginObject = .start (.object [] :: frames) := hstage _ (by simp)
    rw [takeText_token _ _ (writeString k ++ ':' :: (w.write ++ Value.writeMembers ms) ++ rest)
      .beginObject rfl, hstart, List.append_assoc, List.cons_append,
      takeText_key _ [] frames k _ rfl, List.append_assoc,
      takeText_write w hv.1 _ _ _ (awaits_value _) (Value.breaks_writeMembers ms rest)]
    exact takeText_writeMembers ms hv.2 [(some k, w.toSource)] frames rest

theorem takeText_writeItems (vs : List Value) (hvs : ∀ x ∈ Value.itemDoubles vs, ReadsBack x)
    (items : List Source) (frames : List Frame) (rest : List Char) :
    (Stage.after (.array items :: frames)).takeText (Value.writeItems vs ++ rest) =
      (deliver (.array (items.reverse ++ Value.toSources vs) true) frames).takeText rest := by
  match vs with
  | [] =>
    rw [Value.toSources, List.append_nil]
    exact takeText_token _ _ rest .endArray rfl
  | w :: ws =>
    rw [Value.itemDoubles, List.forall_mem_append] at hvs
    rw [takeText_token _ _ (w.write ++ Value.writeItems ws ++ rest) .comma rfl, List.append_assoc]
    have hcomma : (Stage.after (.array items :: frames)).take .comma = .value (.array items :: frames) :=
      rfl
    rw [hcomma, takeText_write w hvs.1 _ _ _ (awaits_value _) (Value.breaks_writeItems ws rest)]
    have hmore := takeText_writeItems ws hvs.2 (w.toSource :: items) frames rest
    rw [List.reverse_cons, List.append_assoc, List.singleton_append] at hmore
    exact hmore

theorem takeText_writeMembers (ms : List (String × Value))
    (hms : ∀ x ∈ Value.memberDoubles ms, ReadsBack x) (members : List (Option String × Source))
    (frames : List Frame) (rest : List Char) :
    (Stage.after (.object members :: frames)).takeText (Value.writeMembers ms ++ rest) =
      (deliver (.object (members.reverse ++ Value.toMembers ms) true) frames).takeText rest := by
  match ms with
  | [] =>
    rw [Value.toMembers, List.append_nil]
    exact takeText_token _ _ rest .endObject rfl
  | (k, w) :: ms =>
    rw [Value.memberDoubles, List.forall_mem_append] at hms
    rw [takeText_token _ _ (writeString k ++ ':' :: (w.write ++ Value.writeMembers ms) ++ rest) .comma
      rfl, List.append_assoc, List.cons_append]
    have hcomma : (Stage.after (.object members :: frames)).take .comma = .key (.object members :: frames) :=
      rfl
    rw [hcomma, takeText_key _ members frames k _ rfl, List.append_assoc,
      takeText_write w hms.1 _ _ _ (awaits_value _) (Value.breaks_writeMembers ms rest)]
    have hmore := takeText_writeMembers ms hms.2 ((some k, w.toSource) :: members) frames rest
    rw [List.reverse_cons, List.append_assoc, List.singleton_append] at hmore
    exact hmore

end

end Stage

/-- A written value is read as the document that spells it. -/
theorem Source.ofText_text (v : Value) (h : ∀ x ∈ v.doubles, ReadsBack x) :
    Source.ofText v.text = (v.toSource, true) := by
  have htake := Stage.takeText_write v h (.value []) [] [] (Stage.awaits_value []) trivial
  rw [List.append_nil] at htake
  rw [Value.text, Source.ofText_ofList]
  exact congrArg Stage.finish htake

namespace Wire

variable {α : Type} [Wire α]

theorem read_of_ofText {text : String} {a : α} (h : Wire.ofText text = .ok a) :
    Wire.read depthLimit (Source.ofText text).1 = .ok a := by
  unfold Wire.ofText Reader.ofText at h
  dsimp only at h
  split at h
  · cases h
  · next b hb =>
    split at h
    · rw [← h]
      exact hb
    · cases h

/-- Reading a written text is reading the document that spells what was written. -/
theorem ofText_toText (a : α) (h : ∀ x ∈ (Wire.write a).doubles, ReadsBack x) :
    Wire.ofText (Wire.toText a) = Wire.read (α := α) depthLimit (Wire.write a).toSource := by
  unfold Wire.ofText Reader.ofText Wire.toText
  rw [Source.ofText_text _ h]
  dsimp only
  split
  · next e he => rw [he]
  · next b hb => rw [hb]; rfl

end Wire
end HubConsole.Json
