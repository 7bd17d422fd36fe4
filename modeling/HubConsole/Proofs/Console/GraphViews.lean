import HubConsole.Console.View
import HubConsole.Dashboard.GraphWindow
import HubConsole.Proofs.Double.Numeral
import HubConsole.Proofs.Graph.Series
import HubConsole.Proofs.Text.Digits
import HubConsole.Proofs.Text.Lines
import HubConsole.Proofs.Time.Rfc3339
import Mathlib.Data.Bool.AllAny

namespace HubConsole.Console.View

open HubConsole.Graph HubConsole.Text

/-- Characters none of which is blank. -/
def Solid (cs : List Char) : Prop := ∀ c ∈ cs, isBlank c = false

theorem solid_nil : Solid [] := List.forall_mem_nil _

theorem Solid.append {cs ds : List Char} (hcs : Solid cs) (hds : Solid ds) : Solid (cs ++ ds) :=
  List.forall_mem_append.mpr ⟨hcs, hds⟩

theorem Solid.cons {c : Char} {cs : List Char} (hc : isBlank c = false) (hcs : Solid cs) : Solid (c :: cs) :=
  List.forall_mem_cons.mpr ⟨hc, hcs⟩

theorem solid_of_all_isDigit {cs : List Char} (h : cs.all Char.isDigit) : Solid cs :=
  fun c hc => isBlank_of_isDigit c (List.all_eq_true.mp h c hc)

theorem solid_padded (width n : Nat) : Solid (Time.Instant.padded width n) :=
  solid_of_all_isDigit (Time.Instant.all_isDigit_padded width n)

theorem solid_offsetText (t : Time.Instant) : Solid t.offsetText.toList := by
  have hyear (year : Int) : Solid (Time.Instant.yearText year) := by
    rw [Time.Instant.yearText]
    split
    · exact solid_padded _ _
    · refine .cons ?_ (solid_padded _ _)
      split <;> rfl
  have hfraction (nanos : Nat) : Solid (Time.Instant.fractionText nanos) := by
    rw [Time.Instant.fractionText]
    split_ifs
    · exact solid_nil
    all_goals exact .cons rfl (solid_padded _ _)
  have hzone : Solid ['+', '0', '0', ':', '0', '0'] := List.all_iff_forall_prop.mp (by decide)
  rw [Time.Instant.offsetText, String.toList_ofList, Time.Instant.writeLocal]
  have hfield (c : Char) (hc : isBlank c = false) (n : Nat) : Solid (c :: Time.Instant.padded 2 n) :=
    .cons hc (solid_padded 2 n)
  refine .append (.append ?_ (hfraction _)) hzone
  refine .append (.append (.append (.append (.append (hyear _) ?_) ?_) ?_) ?_) ?_
  all_goals exact hfield _ rfl _

theorem solid_valueText (x : Double) : Solid (valueText x).toList := by
  have hdigits (n : Nat) : Solid (digits n) := solid_of_all_isDigit (all_isDigit_digits n)
  have hzeros (n : Nat) : Solid (Double.zeros n) := solid_of_all_isDigit (Double.all_isDigit_zeros n)
  have hplain (n : Nat) (k : Int) : Solid (Double.plainText Double.viewLayout (digits n) k) := by
    rw [Double.plainText]
    split
    · exact .append (.append (hdigits n) (hzeros _)) solid_nil
    · dsimp only
      split
      · exact .append (fun c hc => hdigits n c (List.mem_of_mem_take hc))
          (.cons rfl fun c hc => hdigits n c (List.mem_of_mem_drop hc))
      · exact .cons rfl (.cons rfl (.append (hzeros _) (hdigits n)))
  rw [valueText, String.toList_ofList, Double.text]
  refine .append ?_ (hplain _ _)
  split
  · exact .cons rfl solid_nil
  · exact solid_nil

theorem valueText_ne_nil (x : Double) : (valueText x).toList ≠ [] := by
  have hplain (n : Nat) (k : Int) : Double.plainText Double.viewLayout (digits n) k ≠ [] := by
    rw [Double.plainText]
    split
    · simp [digits_ne_nil]
    · dsimp only
      split <;> simp
  rw [valueText, String.toList_ofList, Double.text]
  exact List.append_ne_nil_of_right_ne_nil _ (hplain _ _)

/-- A point as it is printed under the name of its group. -/
def pointLine (indent : String) (p : Point) : String :=
  indent ++ "  " ++ p.1.offsetText ++ " " ++ valueText p.2

theorem toList_pointLine (indent : String) (p : Point) :
    (pointLine indent p).toList =
      (indent ++ "  ").toList ++ p.1.offsetText.toList ++ ' ' :: (valueText p.2).toList := by
  simp [pointLine]

theorem newline_not_mem_pointLine (indent : String) (p : Point) (h : '\n' ∉ indent.toList) :
    '\n' ∉ (pointLine indent p).toList := by
  have hblank : ∀ cs, Solid cs → '\n' ∉ cs := fun cs hcs hmem => absurd (hcs _ hmem) (by decide)
  have htime := hblank _ (solid_offsetText p.1)
  have hvalue := hblank _ (solid_valueText p.2)
  simp [toList_pointLine, h, htime, hvalue]

/-- The line of a point ends in its value, so trimming cuts nothing off. -/
theorem dropEnd_pointLine (indent : String) (p : Point) :
    dropEnd isBlank (pointLine indent p).toList = (pointLine indent p).toList := by
  have hlast := List.getLast?_eq_some_getLast (valueText_ne_nil p.2)
  refine dropEnd_of_getLast? _ _ ?_ (solid_valueText p.2 _ (List.getLast_mem (valueText_ne_nil p.2)))
  rw [toList_pointLine, List.append_cons, List.getLast?_append, hlast]
  rfl

theorem exists_text_in_pointLine (indent : String) (p : Point) :
    ∃ c ∈ (pointLine indent p).toList, isBlank c = false := by
  obtain ⟨c, hc⟩ := List.exists_mem_of_ne_nil _ (valueText_ne_nil p.2)
  refine ⟨c, ?_, solid_valueText p.2 c hc⟩
  rw [toList_pointLine]
  exact List.mem_append_right _ (List.mem_cons_of_mem _ hc)

/-- The lines of some groups: a name, and a line for each of its points. -/
def groupsLines (indent : String) (groups : List (String × List Point)) : List String :=
  groups.flatMap fun g => (indent ++ g.1) :: g.2.map (pointLine indent)

variable {indent : String} {groups : List (String × List Point)}

/-- The last line is that of a point. -/
theorem exists_groupsLines_eq_concat (indent : String) (hgroups : groups ≠ [])
    (hpoints : ∀ g ∈ groups, g.2 ≠ []) :
    ∃ front p, groupsLines indent groups = front ++ [pointLine indent p] := by
  obtain ⟨first, g, rfl⟩ := List.eq_nil_or_concat' groups |>.resolve_left hgroups
  have hne := hpoints g (List.mem_append_right first (List.mem_singleton_self g))
  obtain ⟨points, p, hg⟩ := List.eq_nil_or_concat' g.2 |>.resolve_left hne
  refine ⟨groupsLines indent first ++ (indent ++ g.1) :: points.map (pointLine indent), p, ?_⟩
  simp only [groupsLines, List.flatMap_append, List.flatMap_singleton, hg, List.map_append, List.map_cons,
    List.map_nil, List.append_assoc, List.cons_append]

theorem newline_not_mem_groupsLines (hindent : '\n' ∉ indent.toList)
    (hnames : ∀ g ∈ groups, '\n' ∉ g.1.toList) : ∀ line ∈ groupsLines indent groups, '\n' ∉ line.toList := by
  intro line hline
  obtain ⟨g, hg, hline⟩ := List.mem_flatMap.mp hline
  rcases List.mem_cons.mp hline with rfl | hline
  · simp [hindent, hnames g hg]
  · obtain ⟨p, -, rfl⟩ := List.mem_map.mp hline
    exact newline_not_mem_pointLine indent p hindent

theorem length_groupsLines {named : List (String × Point)} (h : Grouped named groups) :
    (groupsLines indent groups).length = groups.length + named.length := by
  have hlines (gs : List (String × List Point)) :
      (groupsLines indent gs).length = gs.length + (gs.flatMap fun g => g.2.map fun p => (g.1, p)).length := by
    induction gs with
    | nil => rfl
    | cons g gs ih =>
      rw [groupsLines] at ih ⊢
      simp only [List.flatMap_cons, List.length_append, List.length_cons, List.length_map, ih]
      omega
  rw [hlines, h.nothingMoved.length_eq]

section Printed

variable {named : List (String × Point)} (h : Grouped named groups) (hnamed : named ≠ [])
  (hbreaks : ∀ a ∈ named, '\n' ∉ a.1.toList) (hindent : '\n' ∉ indent.toList)

include h hbreaks in
theorem newline_not_mem_names : ∀ g ∈ groups, '\n' ∉ g.1.toList := by
  intro g hg
  obtain ⟨a, ha, hname⟩ := List.mem_map.mp ((h.names g.1).mp (List.mem_map_of_mem hg))
  rw [← hname]
  exact hbreaks a ha

include h hnamed hbreaks hindent

/-- All lines are single ones, and the last is that of a point. -/
theorem exists_last_line : ∃ front p, groupsLines indent groups = front ++ [pointLine indent p] ∧
    (∀ line ∈ front, '\n' ∉ line.toList) ∧ '\n' ∉ (pointLine indent p).toList := by
  have hgroups := h.groups_ne_nil hnamed
  obtain ⟨front, p, hlast⟩ :=
    exists_groupsLines_eq_concat indent hgroups fun _ hg => h.points_ne_nil hg
  have hlines := newline_not_mem_groupsLines hindent (newline_not_mem_names h hbreaks)
  rw [hlast] at hlines
  obtain ⟨hfront, -⟩ := List.forall_mem_append.mp hlines
  exact ⟨front, p, hlast, hfront, newline_not_mem_pointLine indent p hindent⟩

theorem linesOf_groups :
    linesOf (unlines (groupsLines indent groups)) = (groupsLines indent groups).map String.toList := by
  obtain ⟨front, p, hlast, hfront, hpoint⟩ := exists_last_line h hnamed hbreaks hindent
  rw [hlast, unlines, linesOf_trimEnd_intercalate front _ hfront hpoint (exists_text_in_pointLine indent p),
    dropEnd_pointLine, List.map_append]
  rfl

theorem linesOf_heading_groups (heading : String) :
    linesOf (unlines (heading :: groupsLines indent groups)) =
      linesOf heading ++ (groupsLines indent groups).map String.toList := by
  obtain ⟨front, p, hlast, hfront, hpoint⟩ := exists_last_line h hnamed hbreaks hindent
  rw [hlast, unlines, linesOf_trimEnd_intercalate_cons heading front _ hfront hpoint
    (exists_text_in_pointLine indent p), dropEnd_pointLine, List.map_append]
  rfl

end Printed

/-- The rows of a graph as named points. -/
def nodePoints (rows : List NodeRow) : List (String × Point) := rows.map fun r => (r.node, r.time, r.value)

def extensionPoints (rows : List ExtensionRow) : List (String × Point) :=
  rows.map fun r => (r.extension, r.time, r.value)

theorem extensionSeries_eq (node : String) (rows : List ExtensionRow) (hrows : rows ≠ []) :
    extensionSeries node rows = unlines (node :: groupsLines "  " (Graph.extensionSeries rows)) := by
  rw [extensionSeries, if_neg (by simpa using hrows)]
  rfl

theorem nodeSeries_eq (series : List (String × List Point)) (hseries : series ≠ []) :
    nodeSeries series = unlines (groupsLines "" series) := by
  rw [nodeSeries, if_neg (by simpa using hseries)]
  rfl

/-- The rows of a graph are grouped by node, and the rows about extensions by extension: the names once each in
the order of their bytes, and under each name its rows, sorted by time and otherwise as they came. The views show
just these groups, those of extensions below the name of the node: a line for each name and each row. -/
theorem rows_grouped_and_printed :
    (∀ g : Dashboard.GraphWindow, Grouped (nodePoints g.rows) g.series ∧
      (g.rows ≠ [] → (∀ r ∈ g.rows, '\n' ∉ r.node.toList) →
        linesOf (nodeSeries g.series) = (groupsLines "" g.series).map String.toList)) ∧
    ∀ rows, Grouped (extensionPoints rows) (Graph.extensionSeries rows) ∧
      ∀ node, rows ≠ [] → (∀ r ∈ rows, '\n' ∉ r.extension.toList) →
        linesOf (extensionSeries node rows) =
          linesOf node ++ (groupsLines "  " (Graph.extensionSeries rows)).map String.toList ∧
        (linesOf (extensionSeries node rows)).length =
          (linesOf node).length + ((Graph.extensionSeries rows).length + rows.length) := by
  refine ⟨fun g => ⟨grouped_group _, fun hrows hbreaks => ?_⟩, fun rows =>
    ⟨grouped_group _, fun node hrows hbreaks => ?_⟩⟩
  · have hgrouped : Grouped (nodePoints g.rows) g.series := grouped_group _
    have hpoints : nodePoints g.rows ≠ [] := by simpa [nodePoints] using hrows
    rw [nodeSeries_eq g.series (hgrouped.groups_ne_nil hpoints)]
    exact linesOf_groups hgrouped hpoints (List.forall_mem_map.mpr hbreaks) (by decide)
  · have hgrouped : Grouped (extensionPoints rows) (Graph.extensionSeries rows) := grouped_group _
    have hpoints : extensionPoints rows ≠ [] := by simpa [extensionPoints] using hrows
    have hindent : '\n' ∉ "  ".toList := by decide
    have hlines := linesOf_heading_groups hgrouped hpoints (List.forall_mem_map.mpr hbreaks) hindent node
    rw [← extensionSeries_eq node rows hrows] at hlines
    refine ⟨hlines, ?_⟩
    rw [hlines, List.length_append, List.length_map, length_groupsLines hgrouped, extensionPoints,
      List.length_map]

/-- Rows that come mixed, under names one of which is beyond ASCII, and two of them of one time. -/
theorem mixed_rows_printed :
    let rows : List ExtensionRow :=
      [⟨"sync", ⟨7, 0⟩, .zero⟩, ⟨"ż", ⟨3, 0⟩, .zero⟩, ⟨"sync", ⟨5, 0⟩, .zero⟩,
        ⟨"sync", ⟨7, 0⟩, Double.zero.neg⟩]
    rows ≠ [] ∧ (∀ r ∈ rows, '\n' ∉ r.extension.toList) ∧
      linesOf (extensionSeries "a" rows) =
        ["a", "  sync", "    1970-01-01T00:00:05+00:00 0", "    1970-01-01T00:00:07+00:00 0",
          "    1970-01-01T00:00:07+00:00 -0", "  ż", "    1970-01-01T00:00:03+00:00 0"].map String.toList := by
  intro rows
  have hbreaks : ∀ r ∈ rows, '\n' ∉ r.extension.toList := by decide
  have hsync : inTimeOrder [(⟨7, 0⟩, .zero), (⟨5, 0⟩, .zero), (⟨7, 0⟩, Double.zero.neg)] =
      [(⟨5, 0⟩, .zero), (⟨7, 0⟩, .zero), (⟨7, 0⟩, Double.zero.neg)] := by
    simp [inTimeOrder, List.mergeSort, List.MergeSort.Internal.splitInTwo, Time.Instant.atMost,
      Time.Instant.before]
  have hother : inTimeOrder [(⟨3, 0⟩, .zero)] = [(⟨3, 0⟩, .zero)] := List.mergeSort_singleton _
  have hseries : Graph.extensionSeries rows =
      [("sync", inTimeOrder [(⟨7, 0⟩, .zero), (⟨5, 0⟩, .zero), (⟨7, 0⟩, Double.zero.neg)]),
        ("ż", inTimeOrder [(⟨3, 0⟩, .zero)])] := rfl
  have hgroups : groupsLines "  " (Graph.extensionSeries rows) =
      ["  sync", "    1970-01-01T00:00:05+00:00 0", "    1970-01-01T00:00:07+00:00 0",
        "    1970-01-01T00:00:07+00:00 -0", "  ż", "    1970-01-01T00:00:03+00:00 0"] := by
    rw [hseries, hsync, hother]
    decide +kernel
  have hrows : rows ≠ [] := List.cons_ne_nil _ _
  refine ⟨hrows, hbreaks, ?_⟩
  rw [((rows_grouped_and_printed.2 rows).2 "a" hrows hbreaks).1, hgroups]
  decide

end HubConsole.Console.View
