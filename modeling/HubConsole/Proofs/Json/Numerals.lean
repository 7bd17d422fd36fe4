import HubConsole.Json.Reader
import HubConsole.Json.Writer

namespace HubConsole.Json

open HubConsole.Text

/-- The tokens of a text that is read from a mode to the end of the document. -/
def Mode.tokens (mode : Mode) : List Char → List Token
  | [] => mode.finish
  | c :: cs => (mode.step c).1 ++ tokens (mode.step c).2 cs

/-- What may follow a value in a text: the end, a line end, or what ends or separates values. -/
def Breaks : List Char → Prop
  | [] => True
  | c :: _ => c = ',' ∨ c = ']' ∨ c = '}' ∨ c = '\n'

namespace Draft

/-- The numeral with more characters, if they belong to it. -/
def run? (d : Draft) (cs : List Char) : Option Draft := cs.foldlM extend d

theorem run?_append (d : Draft) (cs ds : List Char) :
    d.run? (cs ++ ds) = (d.run? cs).bind fun d => d.run? ds :=
  List.foldlM_append

theorem run?_cons (d : Draft) (c : Char) (cs : List Char) :
    d.run? (c :: cs) = (d.extend c).bind fun d => d.run? cs := rfl

theorem extend_of_break (d : Draft) (c : Char) (h : c = ',' ∨ c = ']' ∨ c = '}' ∨ c = '\n') :
    d.extend c = none := by
  unfold extend leaveWhole
  rcases h with rfl | rfl | rfl | rfl <;> cases d.part <;> rfl

/-- Digits go on with the part of the numeral that they stand in; `put` gives the draft for the digits of
that part. -/
theorem run?_digits (put : List Char → Draft)
    (hput : ∀ cs c, c.isDigit → (put cs).extend c = some (put (c :: cs))) (cs ds : List Char)
    (hdigits : ds.all Char.isDigit) : (put cs).run? ds = some (put (ds.reverse ++ cs)) := by
  induction ds generalizing cs with
  | nil => rfl
  | cons c ds ih =>
    rw [List.all_cons, Bool.and_eq_true] at hdigits
    rw [run?_cons, hput cs c hdigits.1, Option.bind_some, ih (c :: cs) hdigits.2, List.reverse_cons,
      List.append_assoc, List.singleton_append]

/-- A numeral up to its point: no zero stands in front unless it stands alone. -/
theorem run?_start (negative : Bool) (c : Char) (cs : List Char) (hc : c.isDigit)
    (hdigits : cs.all Char.isDigit) (hzero : c = '0' → cs = []) :
    (start negative).run? (c :: cs) =
      some ⟨if c = '0' then .zero else .whole, negative, cs.reverse ++ [c], [], false, []⟩ := by
  rw [run?_cons]
  by_cases h : c = '0'
  · obtain rfl := hzero h
    subst h
    rfl
  · let put (whole : List Char) : Draft := ⟨.whole, negative, whole, [], false, []⟩
    have hput : ∀ cs c, c.isDigit → (put cs).extend c = some (put (c :: cs)) := by
      intro cs c hc
      simp [put, extend, hc]
    have hnext : (start negative).extend c = some (put [c]) := by simp [put, extend, start, h, hc]
    rw [hnext, Option.bind_some, run?_digits put hput [c] cs hdigits, if_neg h]

end Draft

namespace Numeral

/-- The numeral as it is written, an exponent always with its sign. -/
def spell (n : Numeral) : List Char :=
  (if n.negative then ['-'] else []) ++ n.whole ++
    (if n.fraction = [] then [] else '.' :: n.fraction) ++
    match n.exponent with
    | none => []
    | some (small, ds) => 'e' :: (if small then '-' else '+') :: ds

/-- The numerals that documents may hold. -/
structure WellFormed (n : Numeral) : Prop where
  whole : ∃ c cs, n.whole = c :: cs ∧ c.isDigit ∧ cs.all Char.isDigit ∧ (c = '0' → cs = [])
  fraction : n.fraction.all Char.isDigit
  exponent : ∀ small ds, n.exponent = some (small, ds) → ds ≠ [] ∧ ds.all Char.isDigit

/-- The fraction of a numeral, read after its whole part. -/
theorem run?_point (d : Draft) (fraction : List Char) (hpart : d.part = .zero ∨ d.part = .whole)
    (hnone : d.fraction = []) (hdigits : fraction.all Char.isDigit) :
    ∃ part, d.run? (if fraction = [] then [] else '.' :: fraction) =
        some { d with part := part, fraction := fraction.reverse } ∧
      (part = .zero ∨ part = .whole ∨ part = .fraction) := by
  cases fraction with
  | nil =>
    refine ⟨d.part, ?_, hpart.imp_right .inl⟩
    obtain ⟨part, negative, whole, fraction, small, exponent⟩ := d
    subst hnone
    rfl
  | cons c cs =>
    rw [List.all_cons, Bool.and_eq_true] at hdigits
    refine ⟨.fraction, ?_, .inr (.inr rfl)⟩
    have hpoint : d.extend '.' = some { d with part := .point } := by
      rcases hpart with h | h <;> simp [Draft.extend, Draft.leaveWhole, h, Char.isDigit]
    let put (fraction : List Char) : Draft := { d with part := .fraction, fraction := fraction }
    have hput : ∀ cs c, c.isDigit → (put cs).extend c = some (put (c :: cs)) := by
      intro cs c hc
      simp [put, Draft.extend, hc]
    have hfirst : { d with part := .point }.extend c = some (put [c]) := by
      simp [put, Draft.extend, hdigits.1]
    rw [if_neg (List.cons_ne_nil c cs), Draft.run?_cons, hpoint, Option.bind_some, Draft.run?_cons,
      hfirst, Option.bind_some, Draft.run?_digits put hput [c] cs hdigits.2, List.reverse_cons]

/-- The exponent of a numeral, read after all else. -/
theorem run?_mark (d : Draft) (small : Bool) (ds : List Char)
    (hpart : d.part = .zero ∨ d.part = .whole ∨ d.part = .fraction) (hsmall : d.small = false)
    (hne : ds ≠ []) (hdigits : ds.all Char.isDigit) :
    d.run? ('e' :: (if small then '-' else '+') :: ds) =
      some { d with part := .exponent, small := small, exponent := ds.reverse } := by
  obtain ⟨c, cs, rfl⟩ := List.exists_cons_of_ne_nil hne
  rw [List.all_cons, Bool.and_eq_true] at hdigits
  have hmark : d.extend 'e' = some { d with part := .mark } := by
    rcases hpart with h | h | h <;> simp [Draft.extend, Draft.leaveWhole, h, Char.isDigit]
  have hsign : { d with part := .mark }.extend (if small then '-' else '+') =
      some { d with part := .markSign, small := small } := by
    cases small <;> simp [Draft.extend, hsmall]
  let put (exponent : List Char) : Draft :=
    { d with part := .exponent, small := small, exponent := exponent }
  have hput : ∀ cs c, c.isDigit → (put cs).extend c = some (put (c :: cs)) := by
    intro cs c hc
    simp [put, Draft.extend, hc]
  have hfirst : { d with part := .markSign, small := small }.extend c = some (put [c]) := by
    simp [put, Draft.extend, hdigits.1]
  rw [Draft.run?_cons, hmark, Option.bind_some, Draft.run?_cons, hsign, Option.bind_some,
    Draft.run?_cons, hfirst, Option.bind_some, Draft.run?_digits put hput [c] cs hdigits.2,
    List.reverse_cons]

/-- A well-formed numeral without its sign is read to its end as what it is. -/
theorem WellFormed.run? {n : Numeral} (h : n.WellFormed) :
    ∃ d, (Draft.start n.negative).run? (n.whole ++ (if n.fraction = [] then [] else '.' :: n.fraction) ++
        match n.exponent with
        | none => []
        | some (small, ds) => 'e' :: (if small then '-' else '+') :: ds) = some d ∧
      d.complete ∧ d.numeral = n := by
  obtain ⟨negative, whole, fraction, exponent⟩ := n
  obtain ⟨c, cs, rfl, hc, hcs, hzero⟩ := h.whole
  have hstart := Draft.run?_start negative c cs hc hcs hzero
  obtain ⟨part, hpoint, hpart⟩ := run?_point
    ⟨if c = '0' then .zero else .whole, negative, cs.reverse ++ [c], [], false, []⟩ fraction
    (by by_cases hc0 : c = '0' <;> simp [hc0]) rfl h.fraction
  rw [Draft.run?_append, Draft.run?_append, hstart, Option.bind_some, hpoint, Option.bind_some]
  cases exponent with
  | none =>
    refine ⟨_, rfl, ?_, ?_⟩
    · rcases hpart with rfl | rfl | rfl <;> rfl
    · simp [Draft.numeral]
  | some e =>
    obtain ⟨small, ds⟩ := e
    obtain ⟨hne, hds⟩ := h.exponent small ds rfl
    dsimp only
    rw [run?_mark _ small ds hpart rfl hne hds]
    refine ⟨_, rfl, rfl, ?_⟩
    simp [Draft.numeral, hne]

end Numeral

namespace Mode

theorem tokens_numeral_run (d d' : Draft) (cs rest : List Char) (h : d.run? cs = some d') :
    (Mode.numeral d).tokens (cs ++ rest) = (Mode.numeral d').tokens rest := by
  induction cs generalizing d with
  | nil =>
    obtain rfl := Option.some.inj h
    rfl
  | cons c cs ih =>
    rw [Draft.run?_cons, Option.bind_eq_some_iff] at h
    obtain ⟨next, hnext, hrest⟩ := h
    rw [List.cons_append, tokens, step, hnext]
    exact ih next hrest

/-- A numeral that is complete ends where a value may end. -/
theorem tokens_numeral_end (d : Draft) (rest : List Char) (hcomplete : d.complete)
    (hrest : Breaks rest) :
    (Mode.numeral d).tokens rest = .number d.numeral.toNumber? :: Mode.between.tokens rest := by
  have htoken : d.token = .number d.numeral.toNumber? := by rw [Draft.token, if_pos hcomplete]
  cases rest with
  | nil => rw [tokens, finish, htoken]; rfl
  | cons c rest =>
    have hnone := d.extend_of_break c hrest
    simp only [tokens, step, hnone, if_pos hcomplete, htoken, List.cons_append]

/-- A digit starts a numeral. -/
theorem first_of_isDigit (c : Char) (h : c.isDigit) :
    ∃ d, (Draft.start false).extend c = some d ∧ first c = ([], .numeral d) := by
  have hne : ∀ x : Char, x.isDigit = false → c ≠ x := by
    intro x hx hc
    rw [hc, hx] at h
    cases h
  have hextend : ∃ d, (Draft.start false).extend c = some d := by
    unfold Draft.extend
    simp only [Draft.start]
    split
    · exact ⟨_, rfl⟩
    · exact ⟨_, rfl⟩
  obtain ⟨d, hd⟩ := hextend
  refine ⟨d, hd, ?_⟩
  have hspace : isSpace c = false := by
    simp [isSpace, hne ' ' rfl, hne '\n' rfl, hne '\t' rfl, hne '\r' rfl]
  simp [first, hspace, hne '[' rfl, hne ']' rfl, hne '{' rfl, hne '}' rfl, hne ',' rfl, hne ':' rfl,
    hne '"' rfl, hne 'n' rfl, hne 't' rfl, hne 'f' rfl, hne '-' rfl, hd]

/-- A well-formed numeral is one token. -/
theorem tokens_spell (n : Numeral) (rest : List Char) (h : n.WellFormed) (hrest : Breaks rest) :
    Mode.between.tokens (n.spell ++ rest) = .number n.toNumber? :: Mode.between.tokens rest := by
  obtain ⟨d, hrun, hcomplete, hnumeral⟩ := h.run?
  have hend := tokens_numeral_end d rest hcomplete hrest
  rw [hnumeral] at hend
  obtain ⟨negative, whole, fraction, exponent⟩ := n
  obtain ⟨c, cs, hwhole, hc, -, -⟩ := h.whole
  dsimp only at hrun hwhole
  subst hwhole
  unfold Numeral.spell
  cases negative with
  | true =>
    have hrest := tokens_numeral_run (Draft.start true) d _ rest hrun
    rw [← hend, ← hrest]
    simp only [if_true, List.cons_append, List.nil_append, List.append_assoc]
    rfl
  | false =>
    obtain ⟨first, hextend, hfirst⟩ := first_of_isDigit c hc
    have hrest := tokens_numeral_run (Draft.start false) d _ rest hrun
    rw [← hend, ← hrest]
    simp only [Bool.false_eq_true, if_false, List.cons_append, List.nil_append, List.append_assoc]
    rw [tokens, tokens, step, step, hfirst, hextend]

end Mode
end HubConsole.Json
