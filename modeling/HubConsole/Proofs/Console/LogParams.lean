import HubConsole.Console.CommandLine
import HubConsole.Proofs.Json.Sorted
import HubConsole.Session.Hub

namespace HubConsole.Console

open HubConsole.Json HubConsole.Log HubConsole.Session

namespace LogsOptions

/-- So many records a page. -/
def pageSize (o : LogsOptions) : Nat := (o.limit.map (max 1)).getD 15

/-- The levels that are given, or all of them. -/
def levelNames (o : LogsOptions) : List String :=
  if o.levels = [] then ["error", "warn", "info", "debug", "trace"] else o.levels.map Level.name

/-- The bounds in time that are given. -/
def bounds (o : LogsOptions) : List (String × Value) :=
  (o.fromTime.map fun t => ("fromTime", .string t.text)).toList ++
    (o.toTime.map fun t => ("toTime", .string t.text)).toList

/-- What is sent to ask for a page of the records of these nodes and targets, member by member. -/
def pageParams (o : LogsOptions) (nodes targets : List String) (page : Nat) : Value :=
  .array [.object
    [("filter", .object
      [("levels", .array (o.levelNames.map .string)), ("nodeNames", .array (nodes.map .string)),
        ("targets", .array (targets.map .string))]),
    ("itemPerPage", .ofNat o.pageSize),
    ("orderBy", .string (if o.ascending then "ASC" else "DESC")),
    ("page", .ofNat page),
    ("search", .string (o.search.getD "")),
    ("time", .object o.bounds)]]

/-- The request for the first page of what the options ask for, about these nodes and targets. -/
def query (o : LogsOptions) (nodes targets : List String) : PageRequest where
  filter := ⟨nodes, if o.levels = [] then Level.all else o.levels, targets⟩
  search := o.search.getD ""
  range := ⟨o.fromTime, o.toTime⟩
  page := 1
  perPage := o.pageSize
  direction := if o.ascending then .oldestFirst else .newestFirst

theorem write_levels (o : LogsOptions) :
    writeList Wire.write (if o.levels = [] then Level.all else o.levels) =
      .array (o.levelNames.map .string) := by
  unfold levelNames
  split
  · rfl
  · rw [List.map_map]
    rfl

theorem sorted_write_filter (o : LogsOptions) (nodes targets : List String) :
    (Wire.write (o.query nodes targets).filter).sorted =
      .object [("levels", .array (o.levelNames.map .string)), ("nodeNames", .array (nodes.map .string)),
        ("targets", .array (targets.map .string))] := by
  show (Value.object [("nodeNames", .array (nodes.map .string)),
    ("levels", writeList Wire.write (if o.levels = [] then Level.all else o.levels)),
    ("targets", .array (targets.map .string))]).sorted = _
  rw [o.write_levels, Value.sorted_object]
  simp only [List.map_cons, List.map_nil, Value.sorted_texts]
  simp +decide only [Value.arrange, Value.insertMember, List.foldl, if_true, if_false]

theorem sorted_write_range (o : LogsOptions) (nodes targets : List String) :
    (Wire.write (o.query nodes targets).range).sorted = .object o.bounds := by
  show (Value.object (writeOptional "fromTime" Wire.write o.fromTime ++
    writeOptional "toTime" Wire.write o.toTime)).sorted = _
  unfold bounds
  cases o.fromTime with
  | none => cases o.toTime <;> rfl
  | some fromTime =>
    cases o.toTime with
    | none => rfl
    | some toTime =>
      show (Value.object [("fromTime", .string fromTime.text), ("toTime", .string toTime.text)]).sorted = _
      rw [Value.sorted_object]
      simp +decide only [List.map, Value.sorted, Value.arrange, Value.insertMember, List.foldl, if_false]
      rfl

theorem write_direction (o : LogsOptions) (nodes targets : List String) :
    Wire.write (o.query nodes targets).direction = .string (if o.ascending then "ASC" else "DESC") := by
  unfold query
  cases o.ascending <;> rfl

/-- What is sent for a page of the query is what the options say. -/
theorem params_query (o : LogsOptions) (nodes targets : List String) (page : Nat) :
    (Hub.logPage { o.query nodes targets with page }).params = o.pageParams nodes targets page := by
  show Value.array [(Value.object
    [("filter", Wire.write (o.query nodes targets).filter), ("search", .string (o.search.getD "")),
      ("time", Wire.write (o.query nodes targets).range), ("page", .ofNat page),
      ("itemPerPage", .ofNat o.pageSize),
      ("orderBy", Wire.write (o.query nodes targets).direction)]).sorted] = _
  rw [Value.sorted_object, o.write_direction]
  simp only [List.map_cons, List.map_nil, o.sorted_write_filter, o.sorted_write_range, Value.sorted_ofNat]
  simp +decide only [Value.arrange, Value.insertMember, List.foldl, if_true, if_false]
  rfl

end LogsOptions

end HubConsole.Console
