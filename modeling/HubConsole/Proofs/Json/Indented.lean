import HubConsole.Proofs.Json.Documents

namespace HubConsole.Json
namespace Mode

theorem tokens_newLine (depth : Nat) (rest : List Char) :
    between.tokens (Value.newLine depth ++ rest) = between.tokens rest := by
  have hblanks (n : Nat) : between.tokens (List.replicate n ' ' ++ rest) = between.tokens rest := by
    induction n with
    | zero => rfl
    | succ n ih => exact ih
  exact hblanks (2 * depth)

/-- Two texts that may follow a value and have the same tokens. -/
structure Alike (rest rest' : List Char) : Prop where
  left : Breaks rest
  right : Breaks rest'
  tokens : between.tokens rest = between.tokens rest'

/-- A key, its colon and then the value; after the colon there may be a blank. -/
theorem tokens_member (key : String) {value value' : List Char}
    (h : between.tokens value = between.tokens value') :
    between.tokens (writeString key ++ ':' :: ' ' :: value) =
      between.tokens (writeString key ++ ':' :: value') := by
  rw [tokens_writeString, tokens_writeString]
  exact congrArg (fun ts => .string (some key) :: .colon :: ts) h

end Mode

namespace Value

open Mode

mutual

/-- The indented text of a value has the tokens of the compact one, at any depth. -/
theorem tokens_writeIndented (v : Value) (depth : Nat) {rest rest' : List Char} (h : Alike rest rest') :
    between.tokens (writeIndented depth v ++ rest) = between.tokens (v.write ++ rest') := by
  match v with
  | .null => exact congrArg (Token.null :: ·) h.tokens
  | .bool b => cases b <;> exact congrArg (Token.bool _ :: ·) h.tokens
  | .number n =>
    rw [writeIndented, write, tokens_number n rest h.left, tokens_number n rest' h.right, h.tokens]
  | .string s => rw [writeIndented, write, tokens_writeString, tokens_writeString, h.tokens]
  | .array [] => exact congrArg (fun ts => .beginArray :: .endArray :: ts) h.tokens
  | .array (w :: ws) =>
    have hfirst := tokens_writeIndented w (depth + 1) (alike_indentItems ws depth h.tokens)
    have hline := (tokens_newLine (depth + 1) _).trans hfirst
    simp only [writeIndented, write, List.cons_append, List.append_assoc]
    exact congrArg (Token.beginArray :: ·) hline
  | .object [] => exact congrArg (fun ts => .beginObject :: .endObject :: ts) h.tokens
  | .object ((k, w) :: ms) =>
    have hfirst := tokens_writeIndented w (depth + 1) (alike_indentMembers ms depth h.tokens)
    have hline := (tokens_newLine (depth + 1) _).trans (tokens_member k hfirst)
    simp only [writeIndented, write, List.cons_append, List.append_assoc]
    exact congrArg (Token.beginObject :: ·) hline

theorem alike_indentItems (vs : List Value) (depth : Nat) {rest rest' : List Char}
    (h : between.tokens rest = between.tokens rest') :
    Alike (indentItems depth vs ++ rest) (writeItems vs ++ rest') := by
  match vs with
  | [] =>
    refine ⟨.inr (.inr (.inr rfl)), breaks_writeItems [] rest', ?_⟩
    rw [indentItems, List.append_assoc, tokens_newLine]
    exact congrArg (Token.endArray :: ·) h
  | w :: ws =>
    refine ⟨.inl rfl, breaks_writeItems (w :: ws) rest', ?_⟩
    have hnext := tokens_writeIndented w (depth + 1) (alike_indentItems ws depth h)
    have hline := (tokens_newLine (depth + 1) _).trans hnext
    simp only [indentItems, writeItems, List.cons_append, List.append_assoc]
    exact congrArg (Token.comma :: ·) hline

theorem alike_indentMembers (ms : List (String × Value)) (depth : Nat) {rest rest' : List Char}
    (h : between.tokens rest = between.tokens rest') :
    Alike (indentMembers depth ms ++ rest) (writeMembers ms ++ rest') := by
  match ms with
  | [] =>
    refine ⟨.inr (.inr (.inr rfl)), breaks_writeMembers [] rest', ?_⟩
    rw [indentMembers, List.append_assoc, tokens_newLine]
    exact congrArg (Token.endObject :: ·) h
  | (k, w) :: ms =>
    refine ⟨.inl rfl, breaks_writeMembers ((k, w) :: ms) rest', ?_⟩
    have hnext := tokens_writeIndented w (depth + 1) (alike_indentMembers ms depth h)
    have hline := (tokens_newLine (depth + 1) _).trans (tokens_member k hnext)
    simp only [indentMembers, writeMembers, List.cons_append, List.append_assoc]
    exact congrArg (Token.comma :: ·) hline

end

end Value

/-- What is written for people is read as the document that spells it. -/
theorem Source.ofText_indentedText (v : Value) (h : ∀ x ∈ v.doubles, ReadsBack x) :
    Source.ofText v.indentedText = (v.toSource, true) := by
  have hend : Mode.Alike [] [] := ⟨trivial, trivial, rfl⟩
  have htokens := v.tokens_writeIndented 0 hend
  rw [List.append_nil, List.append_nil] at htokens
  rw [← Source.ofText_text v h, Value.indentedText, Value.text, ofText_ofList, ofText_ofList, htokens]

end HubConsole.Json
