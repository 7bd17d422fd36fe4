import HubConsole.Arguments.Parse
import HubConsole.Console.Settings
import HubConsole.Graph.Basic
import HubConsole.Log.Basic
import HubConsole.Node.Detail
import HubConsole.Node.Order
import HubConsole.Power

namespace HubConsole.Console

open HubConsole.Arguments HubConsole.Text HubConsole.Time

/-- Which records to show. What is left out is chosen by what the hub knows, or by the query's own
settings. -/
structure LogsOptions where
  nodes : List String
  levels : List Log.Level
  targets : List String
  search : Option String
  fromTime : Option Instant
  toTime : Option Instant
  ascending : Bool
  limit : Option Nat
  pages : Nat
  follow : Bool

/-- Changes to the time and the period of a graph. -/
structure GraphOptions where
  fromTime : Option Instant
  toTime : Option Instant
  period : Option Graph.Period

inductive GraphKind where
  | all
  | average
  /-- One node, split by extension. -/
  | node (name : String)
  deriving DecidableEq

inductive Command where
  | network (key : Node.SortKey) (descending : Bool)
  | nodeInfo (node : String)
  | nodeStart (node : String) (option : Node.StartOption)
  | nodeStop (node : String)
  | nodeUpdate (node : String) (commit binaryUrl checksum : Option String)
  | logs (options : LogsOptions)
  | targets
  | graph (kind : GraphKind) (options : GraphOptions)
  | rpc (method : String) (params : Option String)
  | watch (nodes : List String) (key : Node.SortKey) (descending : Bool)

structure CommandLine where
  flags : Flags
  command : Command

namespace CommandLine

/-- A number of 32 bits, with or without a sign. -/
def readNumber? (s : String) : Option Nat :=
  let n? := match s.toList with
    | '+' :: cs => readDigits cs
    | '-' :: cs => (readDigits cs).filter (· = 0)
    | cs => readDigits cs
  n?.filter (· < twoTo 32)

def readSortKey? (s : String) : Option Node.SortKey := (Node.SortKey.parse s).toOption

def readLevel? (s : String) : Option Log.Level := (Log.Level.parse s).toOption

def readPeriod? (s : String) : Option Graph.Period := (Graph.Period.parse s).toOption

/-- Options that every command takes. -/
def everywhere : List Argument := [.text "hub-url", .text "passphrase", .text "log-dir"]

def order : List Argument := [.read "sort-by" readSortKey?, .switch "desc"]

def window : List Argument :=
  [.read "from" Instant.ofText?, .read "to" Instant.ofText?, .read "period" readPeriod?]

def nodeGrammar : Grammar := .branch everywhere [
  ("info", .named everywhere),
  ("start", .named (everywhere ++ [.text "env", (Argument.text "args").withHyphens])),
  ("stop", .named everywhere),
  ("update", .leaf {
    options := everywhere ++ [.text "commit", .text "binary-url", .text "checksum"]
    positionals := [.text "name"]
    required := 1
    conflicts := [("commit", "binary-url"), ("commit", "checksum")]
    requires := [("binary-url", "checksum"), ("checksum", "binary-url")] })]

def logsGrammar : Grammar := .leaf {
  options := everywhere ++ [.texts "node", .reads "level" readLevel?, .texts "target",
    .text "search", .read "from" Instant.ofText?, .read "to" Instant.ofText?, .switch "asc",
    .read "limit" readNumber?, .read "pages" readNumber?, .switch "follow"]
  positionals := []
  required := 0
  conflicts := [("follow", "asc"), ("follow", "to")]
  requires := [] }

def graphGrammar : Grammar := .branch everywhere [
  ("all", .ofOptions (everywhere ++ window)),
  ("avg", .ofOptions (everywhere ++ window)),
  ("node", .named (everywhere ++ window))]

def grammar : Grammar := .branch everywhere [
  ("network", .ofOptions (everywhere ++ order)),
  ("node", nodeGrammar),
  ("logs", logsGrammar),
  ("targets", .ofOptions everywhere),
  ("graph", graphGrammar),
  ("rpc", .leaf ⟨everywhere, [.text "method", .text "params"], 1, [], []⟩),
  ("watch", .ofOptions (everywhere ++ [.texts "node"] ++ order))]

/-- The value of an option, read. -/
def value? {α : Type} (read : String → Option α) (g : Given) (name : String) : Option α :=
  (g.text? name).bind read

def sortKey (g : Given) : Node.SortKey := (value? readSortKey? g "sort-by").getD .name

def logsOptions (g : Given) : LogsOptions where
  nodes := g.texts "node"
  levels := (g.texts "level").filterMap readLevel?
  targets := g.texts "target"
  search := g.text? "search"
  fromTime := value? Instant.ofText? g "from"
  toTime := value? Instant.ofText? g "to"
  ascending := g.has "asc"
  limit := value? readNumber? g "limit"
  pages := (value? readNumber? g "pages").getD 1
  follow := g.has "follow"

def graphOptions (g : Given) : GraphOptions :=
  ⟨value? Instant.ofText? g "from", value? Instant.ofText? g "to", value? readPeriod? g "period"⟩

/-- The command of a path of subcommands. -/
def command? (path : List String) (g : Given) : Option Command :=
  let node := (g.text? "name").getD ""
  match path with
  | ["network"] => some (.network (sortKey g) (g.has "desc"))
  | ["node", "info"] => some (.nodeInfo node)
  | ["node", "start"] =>
    some (.nodeStart node ⟨(g.text? "env").getD "", (g.text? "args").getD ""⟩)
  | ["node", "stop"] => some (.nodeStop node)
  | ["node", "update"] =>
    some (.nodeUpdate node (g.text? "commit") (g.text? "binary-url") (g.text? "checksum"))
  | ["logs"] => some (.logs (logsOptions g))
  | ["targets"] => some .targets
  | ["graph", "all"] => some (.graph .all (graphOptions g))
  | ["graph", "avg"] => some (.graph .average (graphOptions g))
  | ["graph", "node"] => some (.graph (.node node) (graphOptions g))
  | ["rpc"] => some (.rpc ((g.text? "method").getD "") (g.text? "params"))
  | ["watch"] => some (.watch (g.texts "node") (sortKey g) (g.has "desc"))
  | _ => none

/-- Reads the arguments after the program's name. -/
def parse (args : List String) : Except UsageError CommandLine := do
  let parsed ← Arguments.parse grammar args
  match parsed.levels.head?.bind (command? parsed.path) with
  | some command =>
    return ⟨⟨parsed.global? "hub-url", parsed.global? "passphrase", parsed.global? "log-dir"⟩,
      command⟩
  | none => throw .missingSubcommand

end CommandLine
end HubConsole.Console
