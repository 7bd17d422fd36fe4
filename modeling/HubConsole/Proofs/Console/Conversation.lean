import HubConsole.Console.Trial

namespace HubConsole.Console

open HubConsole.Json HubConsole.Session

/-- A request with the reply to it. -/
structure Exchange where
  method : String
  params : Value
  reply : Reply

/-- What becomes of a dialogue: what is asked and replied, the notices raised and the texts printed, in order,
and how it ends, unless it goes on as a loop. -/
structure Course where
  exchanges : List Exchange
  notices : List Notice
  printed : List String
  result : Option (Except Failure Unit)

/-- The course with something before it that prints nothing. -/
def Course.after (exchanges : List Exchange) (notices : List Notice) (c : Course) : Course :=
  { c with exchanges := exchanges ++ c.exchanges, notices := notices ++ c.notices }

namespace Dialogue

/-- The first of the replies, or that of a hub that is gone. -/
def firstReply (replies : List Reply) : Reply := replies.headD (.error .connectionClosed)

/-- Runs a dialogue. The replies answer what it asks, and the states are what it sees when it looks. -/
def converse : Dialogue → List State → List Reply → Course
  | .done result, _, _ => ⟨[], [], [], some result⟩
  | .print text next, states, replies =>
    let c := next.converse states replies
    { c with printed := text :: c.printed }
  | .raise notice next, states, replies => (next.converse states replies).after [] [notice]
  | .flush next, states, replies => next.converse states replies
  | .ask method params next, states, replies =>
    ((next (firstReply replies)).converse states replies.tail).after
      [⟨method, params, firstReply replies⟩] []
  | .state next, states, replies => (next (states.headD .closed)).converse states.tail replies
  | .listen next, states, replies => next.converse states replies
  | .loop _, _, _ | .follow _, _, _ => ⟨[], [], [], none⟩

/-- From the first dialogue on, these requests are asked with these replies, nothing is printed, and then it
is the second dialogue's turn with the rest of the replies. -/
def Reaches (states : List State) (d : Dialogue) (replies : List Reply) (asked : List Exchange)
    (d' : Dialogue) (rest : List Reply) : Prop :=
  ∃ notices, d.converse states replies = (d'.converse states rest).after asked notices

variable {states : List State} {d d₁ d₂ : Dialogue} {replies rest₁ rest₂ : List Reply}
  {asked₁ asked₂ : List Exchange}

theorem Reaches.refl (d : Dialogue) (replies : List Reply) : Reaches states d replies [] d replies :=
  ⟨[], rfl⟩

theorem Reaches.trans (h₁ : Reaches states d replies asked₁ d₁ rest₁)
    (h₂ : Reaches states d₁ rest₁ asked₂ d₂ rest₂) :
    Reaches states d replies (asked₁ ++ asked₂) d₂ rest₂ := by
  obtain ⟨notices₁, h₁⟩ := h₁
  obtain ⟨notices₂, h₂⟩ := h₂
  refine ⟨notices₁ ++ notices₂, ?_⟩
  rw [h₁, h₂]
  simp only [Course.after, List.append_assoc]

theorem Reaches.exchanges (h : Reaches states d replies asked₁ d₁ rest₁) :
    (d.converse states replies).exchanges = asked₁ ++ (d₁.converse states rest₁).exchanges := by
  obtain ⟨notices, h⟩ := h
  rw [h]
  rfl

theorem Reaches.printed (h : Reaches states d replies asked₁ d₁ rest₁) :
    (d.converse states replies).printed = (d₁.converse states rest₁).printed := by
  obtain ⟨notices, h⟩ := h
  rw [h]
  rfl

theorem Reaches.result (h : Reaches states d replies asked₁ d₁ rest₁) :
    (d.converse states replies).result = (d₁.converse states rest₁).result := by
  obtain ⟨notices, h⟩ := h
  rw [h]
  rfl

theorem reaches_raiseAll (states : List State) (notices : List Notice) (d : Dialogue) (replies : List Reply) :
    Reaches states (raiseAll notices d) replies [] d replies := by
  refine ⟨notices, ?_⟩
  induction notices with
  | nil => rfl
  | cons notice notices ih =>
    have hstep : (raiseAll (notice :: notices) d).converse states replies =
        ((raiseAll notices d).converse states replies).after [] [notice] := rfl
    rw [hstep, ih]
    rfl

/-- A call asks once and goes on with how it ends. -/
theorem reaches_call {α : Type} (states : List State) (m : Method α) (next : CallResult α → Dialogue)
    (replies : List Reply) :
    Reaches states (call m next) replies [⟨m.name, m.params, firstReply replies⟩]
      (next (m.settle (firstReply replies)).1) replies.tail := by
  obtain ⟨notices, h⟩ := reaches_raiseAll states (m.settle (firstReply replies)).2
    (next (m.settle (firstReply replies)).1) replies.tail
  refine ⟨notices, ?_⟩
  have hstep : (call m next).converse states replies =
      ((raiseAll (m.settle (firstReply replies)).2
        (next (m.settle (firstReply replies)).1)).converse states replies.tail).after
          [⟨m.name, m.params, firstReply replies⟩] [] := rfl
  rw [hstep, h]
  simp only [Course.after, List.nil_append, List.cons_append]

end Dialogue
end HubConsole.Console
