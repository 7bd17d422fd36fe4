namespace HubConsole.Arguments

/-- Why arguments are not taken; asking for help is among the reasons. -/
inductive UsageError where
  | help
  /-- Nothing was given where a subcommand is needed. -/
  | helpForNothing
  | missingSubcommand
  | invalidSubcommand
  | unknownArgument
  /-- An option has no value, or a value that no option takes. -/
  | missingValue
  | unwantedValue
  | rejectedValue
  | missingArgument
  | conflict
  deriving DecidableEq

inductive Arity where
  /-- Given or not, without a value. -/
  | switch
  /-- At most once, with a value. -/
  | once
  /-- Any number of times, with a value each. -/
  | repeated
  deriving DecidableEq

structure Argument where
  name : String
  arity : Arity
  accepts : String → Bool
  /-- Whether a value may start with a hyphen. -/
  hyphens : Bool

namespace Argument

def switch (name : String) : Argument := ⟨name, .switch, fun _ => true, false⟩

def text (name : String) : Argument := ⟨name, .once, fun _ => true, false⟩

def texts (name : String) : Argument := ⟨name, .repeated, fun _ => true, false⟩

/-- Values that a reader takes. -/
def read {α : Type} (name : String) (f : String → Option α) : Argument :=
  ⟨name, .once, fun s => (f s).isSome, false⟩

def reads {α : Type} (name : String) (f : String → Option α) : Argument :=
  ⟨name, .repeated, fun s => (f s).isSome, false⟩

def withHyphens (a : Argument) : Argument := { a with hyphens := true }

end Argument

/-- The grammar of a command, without what is inside its subcommands. -/
structure Rules where
  options : List Argument
  /-- Positional arguments; those in front of the first `optional` ones must be given. -/
  positionals : List Argument
  required : Nat
  /-- Pairs of which not both may be given. -/
  conflicts : List (String × String)
  /-- Pairs of which the first may not be given without the second. -/
  requires : List (String × String)

/-- A command: options, which start with two hyphens, and then positional arguments or one of its subcommands. -/
inductive Grammar where
  | leaf (rules : Rules)
  | branch (options : List Argument) (subcommands : List (String × Grammar))

namespace Grammar

/-- Options alone. -/
def ofOptions (options : List Argument) : Grammar := .leaf ⟨options, [], 0, [], []⟩

/-- A name that must be given, and options. -/
def named (options : List Argument) : Grammar := .leaf ⟨options, [.text "name"], 1, [], []⟩

def rules : Grammar → Rules
  | .leaf r => r
  | .branch options _ => ⟨options, [], 0, [], []⟩

def subcommands : Grammar → List (String × Grammar)
  | .leaf _ => []
  | .branch _ subs => subs

def isBranch (g : Grammar) : Bool := !g.subcommands.isEmpty

def subcommand? (g : Grammar) (name : String) : Option Grammar :=
  (g.subcommands.find? (·.1 == name)).map (·.2)

end Grammar
end HubConsole.Arguments
