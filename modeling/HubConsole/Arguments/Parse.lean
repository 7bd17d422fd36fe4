import HubConsole.Arguments.Grammar

namespace HubConsole.Arguments

/-- Arguments with their values, in the order they were given. -/
abbrev Given := List (String × Option String)

def Given.has (g : Given) (name : String) : Bool := g.any (·.1 == name)

/-- All values of an argument. -/
def Given.texts (g : Given) (name : String) : List String :=
  g.filterMap fun a => if a.1 == name then a.2 else none

def Given.text? (g : Given) (name : String) : Option String := (g.texts name).getLast?

/-- An argument that is not settled yet; an option may still lack its value. -/
structure Open where
  argument : Argument
  value : Option String

structure Level where
  grammar : Grammar
  given : Given
  pending : Option Open
  /-- How many positional arguments there were. -/
  positions : Nat
  /-- After `--` all arguments are positional. -/
  trailing : Bool

namespace Level

def enter (g : Grammar) : Level := ⟨g, [], none, 0, false⟩

/-- Counts an argument as given. -/
def record (l : Level) (a : Argument) (value : Option String) : Except UsageError Level :=
  if a.arity ≠ .repeated ∧ l.given.has a.name then .error .conflict
  else if (value.map a.accepts).getD true then
    .ok { l with given := l.given ++ [(a.name, value)], pending := none }
  else .error .rejectedValue

/-- Settles the argument that is pending. -/
def settle (l : Level) : Except UsageError Level :=
  match l.pending with
  | none => .ok l
  | some ⟨_, none⟩ => .error .missingValue
  | some ⟨a, some value⟩ => l.record a (some value)

/-- The option that the next argument is the value of. -/
def awaiting? (l : Level) : Option Argument :=
  match l.pending with
  | some ⟨a, none⟩ => if l.trailing then none else some a
  | _ => none

def takeValue (l : Level) (a : Argument) (s : String) : Level :=
  { l with pending := some ⟨a, some s⟩ }

/-- A positional argument. -/
def position (l : Level) (s : String) : Except UsageError Level :=
  match l.grammar.rules.positionals[l.positions]? with
  | some a => do
    let l ← l.settle
    return { l.takeValue a s with positions := l.positions + 1 }
  | none =>
    if l.grammar.isBranch && !(l.trailing && (s == "help" || (l.grammar.subcommand? s).isSome)) then
      .error .invalidSubcommand
    else .error .unknownArgument

/-- An option by its name, with the value attached to it by `=`, if any. -/
def option (l : Level) (name : String) (attached : Option String) : Except UsageError Level :=
  if name = "help" then
    match attached with
    | some _ => .error .unwantedValue
    | none => l.settle.bind fun _ => .error .help
  else match l.grammar.rules.options.find? (·.name == name) with
    | none => .error .unknownArgument
    | some a =>
      match a.arity, attached with
      | .switch, some _ => .error .unwantedValue
      | .switch, none => l.settle.bind fun l => l.record a none
      | _, some value => l.settle.bind fun l => l.record a (some value)
      | _, none => l.settle.map fun l => { l with pending := some ⟨a, none⟩ }

/-- One letter is known to every command: `-h` asks for help. -/
def letters (l : Level) (cs : List Char) : Except UsageError Level :=
  if cs.head? = some 'h' then l.settle.bind fun _ => .error .help else .error .unknownArgument

/-- Splits at the first `=`. -/
def cutValue (cs : List Char) : String × Option String :=
  match cs.span (· ≠ '=') with
  | (name, _ :: value) => (String.ofList name, some (String.ofList value))
  | (name, []) => (String.ofList name, none)

/-- The next argument of a level. -/
def next (l : Level) (s : String) : Except UsageError Level :=
  if l.trailing then l.position s
  else
    match l.awaiting? with
    | some a =>
      if a.hyphens then .ok (l.takeValue a s)
      else match s.toList with
        | ['-', '-'] => .ok { l with trailing := true }
        | '-' :: '-' :: cs => l.option (cutValue cs).1 (cutValue cs).2
        | '-' :: c :: cs => l.letters (c :: cs)
        | _ => .ok (l.takeValue a s)
    | none =>
      match s.toList with
      | ['-', '-'] => .ok { l with trailing := true }
      | '-' :: '-' :: cs => l.option (cutValue cs).1 (cutValue cs).2
      | '-' :: c :: cs => l.letters (c :: cs)
      | _ => l.position s

/-- The subcommand that an argument enters. -/
def entered? (l : Level) (s : String) : Option Grammar :=
  if l.trailing || l.awaiting?.isSome then none else l.grammar.subcommand? s

/-- Whether an argument asks for the help of a subcommand. -/
def asksHelp (l : Level) (s : String) : Bool :=
  s == "help" && l.grammar.isBranch && !l.trailing && l.awaiting?.isNone

/-- Completes a level whose arguments have ended. -/
def complete (l : Level) (inSubcommand : Bool) : Except UsageError Given := do
  let l ← l.settle
  if l.grammar.isBranch && !inSubcommand then
    throw (if l.given.isEmpty then .helpForNothing else .missingSubcommand)
  let rules := l.grammar.rules
  if rules.conflicts.any fun c => l.given.has c.1 && l.given.has c.2 then throw .conflict
  if (rules.positionals.take rules.required).any fun a => !l.given.has a.name then
    throw .missingArgument
  if rules.requires.any fun r => l.given.has r.1 && !l.given.has r.2 then throw .missingArgument
  return l.given

end Level

/-- How the words after `help` end: with help, unless one of them is no subcommand. -/
def helpFor (g : Grammar) : List String → UsageError
  | [] => .help
  | s :: rest =>
    match g.subcommand? s with
    | some sub => helpFor sub rest
    | none => if s = "help" ∧ g.isBranch ∧ rest.isEmpty then .help else .invalidSubcommand

/-- A command line as it was understood: the subcommands entered, and what was given at each level,
the innermost first. -/
structure Parsed where
  path : List String
  levels : List Given

/-- Completes the levels from the inside out. -/
def completeAll (inSubcommand : Bool) : List Level → Except UsageError (List Given)
  | [] => .ok []
  | l :: outer => do
    let given ← l.complete inSubcommand
    return given :: (← completeAll true outer)

/-- Reads the arguments that are left; `path` holds the subcommands entered, the last one first. -/
def parseFrom (path : List String) (level : Level) (outer : List Level) :
    List String → Except UsageError Parsed
  | [] => (completeAll false (level :: outer)).map fun given => ⟨path.reverse, given⟩
  | s :: rest =>
    if level.asksHelp s then .error (helpFor level.grammar rest)
    else match level.entered? s with
      | some sub => parseFrom (s :: path) (.enter sub) (level :: outer) rest
      | none =>
        match level.next s with
        | .ok level => parseFrom path level outer rest
        | .error e => .error e

/-- Reads arguments from left to right. Entering a subcommand starts a new level; the levels are completed from
the innermost outwards. An option is settled when the next argument of its level begins, so that a mistake in
its value is seen only then. -/
def parse (g : Grammar) (args : List String) : Except UsageError Parsed :=
  parseFrom [] (.enter g) [] args

/-- An option of all levels; the innermost level that has it counts. -/
def Parsed.global? (p : Parsed) (name : String) : Option String :=
  p.levels.findSome? (·.text? name)

end HubConsole.Arguments
