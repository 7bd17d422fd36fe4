import HubConsole.Console.View
import HubConsole.Proofs.Text.Digits
import HubConsole.Proofs.Text.Lines
import Mathlib.Data.List.Forall2
import Mathlib.Data.String.Basic

namespace HubConsole.Console.View

open HubConsole.Node HubConsole.Text

/-- A row of a table with columns that begin at some offsets: every cell stands in full where its column begins,
there is room for two blanks at least between a cell and the next column, beside the cells there is nothing but
blanks, and the row does not end in one. -/
structure Aligned (starts : List Nat) (cells : List String) (row : List Char) : Prop where
  stands : List.Forall₂ (fun start cell => cell.toList <+: row.drop start) starts cells
  apart : (starts.zip cells).IsChain fun a b => a.1 + a.2.length + 2 ≤ b.1
  nothingElse : (row.filter fun c => !isBlank c) = (cells.flatMap String.toList).filter fun c => !isBlank c
  trimmed : ∀ c ∈ row.getLast?, isBlank c = false

/-- Cells side by side, each filled up to the width of its column. -/
def layout (widths : List Nat) (cells : List String) : List Char :=
  List.intercalate [' ', ' '] ((widths.zip cells).map fun wc => pad wc.1 wc.2)

/-- Where columns of some widths begin. -/
def columnStarts (start : Nat) : List Nat → List Nat
  | [] => []
  | w :: ws => start :: columnStarts (start + w + 2) ws

/-- No cell is longer than its column is wide. -/
def Fits : List Nat → List String → Prop := List.Forall₂ fun w cell => cell.length ≤ w

/-- The last cell is not blank at its end. -/
def EndsInText (cells : List String) : Prop :=
  ∃ last c, cells.getLast? = some last ∧ last.toList.getLast? = some c ∧ isBlank c = false

theorem length_pad (w : Nat) (cell : String) (h : cell.length ≤ w) : (pad w cell).length = w := by
  rw [pad, List.length_append, List.length_replicate, String.length_toList]
  omega

theorem layout_singleton (w : Nat) (cell : String) : layout [w] [cell] = pad w cell :=
  List.intercalate_singleton

theorem layout_cons_cons (w w' : Nat) (ws : List Nat) (cell cell' : String) (cells : List String) :
    layout (w :: w' :: ws) (cell :: cell' :: cells) =
      pad w cell ++ [' ', ' '] ++ layout (w' :: ws) (cell' :: cells) :=
  List.intercalate_cons_cons

theorem EndsInText.of_cons {cell cell' : String} {cells : List String}
    (h : EndsInText (cell :: cell' :: cells)) : EndsInText (cell' :: cells) := by
  obtain ⟨last, c, hlast, hc⟩ := h
  rw [List.getLast?_cons_cons] at hlast
  exact ⟨last, c, hlast, hc⟩

/-- The end of a single cell. -/
theorem EndsInText.getLast?_singleton {cell : String} (h : EndsInText [cell]) :
    ∃ c, cell.toList.getLast? = some c ∧ isBlank c = false := by
  obtain ⟨last, c, hlast, hc⟩ := h
  obtain rfl := Option.some.inj hlast
  exact ⟨c, hc⟩

theorem exists_text_in_layout (ws : List Nat) (cells : List String) (hfits : Fits ws cells)
    (hend : EndsInText cells) : ∃ c ∈ layout ws cells, isBlank c = false := by
  induction hfits with
  | nil =>
    obtain ⟨last, c, hlast, -⟩ := hend
    cases hlast
  | @cons w cell ws cells hcell hfits ih =>
    cases hfits with
    | nil =>
      obtain ⟨c, hc, htext⟩ := hend.getLast?_singleton
      refine ⟨c, ?_, htext⟩
      rw [layout_singleton]
      exact List.mem_append_left _ (List.mem_of_getLast? hc)
    | cons =>
      obtain ⟨c, hmem, htext⟩ := ih hend.of_cons
      refine ⟨c, ?_, htext⟩
      rw [layout_cons_cons]
      exact List.mem_append_right _ hmem

theorem filter_pad (w : Nat) (cell : String) :
    (pad w cell).filter (fun c => !isBlank c) = cell.toList.filter fun c => !isBlank c := by
  have hfilling : (List.replicate (w - cell.length) ' ').filter (fun c => !isBlank c) = [] := by
    rw [List.filter_replicate]
    rfl
  rw [pad, List.filter_append, hfilling, List.append_nil]

/-- The columns are filled up with blanks only. -/
theorem filter_layout (ws : List Nat) (cells : List String) (hfits : Fits ws cells) :
    (layout ws cells).filter (fun c => !isBlank c) =
      (cells.flatMap String.toList).filter fun c => !isBlank c := by
  induction hfits with
  | nil => rfl
  | @cons w cell ws cells hcell hfits ih =>
    rw [List.flatMap_cons, List.filter_append, ← ih, ← filter_pad w cell]
    cases hfits with
    | nil =>
      rw [layout_singleton]
      exact (List.append_nil _).symm
    | cons =>
      have hgap : [' ', ' '].filter (fun c => !isBlank c) = [] := rfl
      rw [layout_cons_cons, List.filter_append, List.filter_append, hgap, List.append_nil]

/-- Trimming a single cell leaves the cell. -/
theorem dropEnd_layout_singleton (w : Nat) (cell : String) (hend : EndsInText [cell]) :
    dropEnd isBlank (layout [w] [cell]) = cell.toList := by
  obtain ⟨c, hc, htext⟩ := hend.getLast?_singleton
  have hfilling : (List.replicate (w - cell.length) ' ').all isBlank = true := by
    rw [List.all_replicate]
    split <;> rfl
  rw [layout_singleton, pad, dropEnd_append_of_all hfilling]
  exact dropEnd_of_getLast? _ c hc htext

/-- Every cell stands where its column begins, also after other text. -/
theorem stands_layout (ws : List Nat) (cells : List String) (hfits : Fits ws cells) (hend : EndsInText cells)
    (before : List Char) :
    List.Forall₂ (fun start cell => cell.toList <+: (before ++ dropEnd isBlank (layout ws cells)).drop start)
      (columnStarts before.length ws) cells := by
  -- What stands before grows by a column at each step, so the offsets are those of the whole row.
  induction hfits generalizing before with
  | nil => exact .nil
  | @cons w cell ws cells hcell hfits ih =>
    cases hfits with
    | nil =>
      refine .cons ?_ .nil
      rw [dropEnd_layout_singleton w cell hend]
      have hdrop : (before ++ cell.toList).drop before.length = cell.toList := List.drop_left
      exact ⟨[], (List.append_nil cell.toList).trans hdrop.symm⟩
    | @cons w' cell' ws cells hcell' hfits =>
      -- The cells after this one are not blank, so trimming does not reach back to it.
      have hcut := exists_text_in_layout _ _ (.cons hcell' hfits) hend.of_cons
      rw [layout_cons_cons, dropEnd_append_of_exists _ _ hcut]
      refine .cons ?_ ?_
      · rw [List.drop_left, pad, List.append_assoc, List.append_assoc]
        exact List.prefix_append _ _
      · have hstart : before.length + w + 2 = (before ++ (pad w cell ++ [' ', ' '])).length := by
          rw [List.length_append, List.length_append, length_pad w cell hcell, List.length_cons,
            List.length_singleton]
          omega
        rw [columnStarts, hstart, ← List.append_assoc]
        exact ih hend.of_cons _

theorem apart_columnStarts (ws : List Nat) (cells : List String) (hfits : Fits ws cells) (start : Nat) :
    ((columnStarts start ws).zip cells).IsChain fun a b => a.1 + a.2.length + 2 ≤ b.1 := by
  induction hfits generalizing start with
  | nil => exact .nil
  | @cons w cell ws cells hcell hfits ih =>
    cases hfits with
    | nil => exact .singleton _
    | @cons w' cell' ws cells hcell' hfits =>
      refine .cons_cons ?_ (ih _)
      show start + cell.length + 2 ≤ start + w + 2
      omega

theorem aligned_tableRow (ws : List Nat) (cells : List String) (hfits : Fits ws cells)
    (hend : EndsInText cells) : Aligned (columnStarts 0 ws) cells (tableRow ws cells).toList where
  stands := by
    rw [tableRow, String.toList_ofList]
    exact stands_layout ws cells hfits hend []
  apart := apart_columnStarts ws cells hfits 0
  nothingElse := by
    rw [tableRow, String.toList_ofList, filter_dropEnd]
    exact filter_layout ws cells hfits
  trimmed := by
    rw [tableRow, String.toList_ofList]
    exact getLast?_dropEnd _

/-- A row has no characters but those of its cells and blanks. -/
theorem mem_layout (ws : List Nat) (cells : List String) (c : Char) (h : c ∈ layout ws cells) :
    c = ' ' ∨ ∃ cell ∈ cells, c ∈ cell.toList := by
  rcases mem_of_mem_intercalate _ _ c h with hsep | ⟨piece, hpiece, hc⟩
  · exact .inl (by simpa using hsep)
  · obtain ⟨⟨w, cell⟩, hpair, rfl⟩ := List.mem_map.mp hpiece
    rcases List.mem_append.mp hc with hcell | hfilling
    · exact .inr ⟨cell, (List.of_mem_zip hpair).2, hcell⟩
    · exact .inl (List.mem_replicate.mp hfilling).2

/-- A cell has no more characters than bytes. -/
theorem length_le_utf8ByteSize (s : String) : s.length ≤ s.utf8ByteSize := by
  have hlist (cs : List Char) : cs.length ≤ String.utf8Len cs := by
    induction cs with
    | nil => exact Nat.le_refl 0
    | cons c cs ih =>
      have hsize := c.utf8Size_pos
      rw [String.utf8Len_cons, List.length_cons]
      omega
  have hsize := String.utf8ByteSize_ofList s.toList
  rw [String.ofList_toList] at hsize
  rw [hsize, ← String.length_toList]
  exact hlist s.toList

/-- The widths for one row more. -/
def widen (ws : List Nat) (row : List String) : List Nat :=
  (ws.zip row).map fun wc => max wc.1 wc.2.utf8ByteSize

theorem length_widen (ws : List Nat) (row : List String) (h : row.length = ws.length) :
    (widen ws row).length = ws.length := by
  rw [widen, List.length_map, List.length_zip, h, Nat.min_self]

theorem fits_widen_row (ws : List Nat) (row : List String) (h : row.length = ws.length) :
    Fits (widen ws row) row := by
  induction ws generalizing row with
  | nil =>
    obtain rfl := List.length_eq_zero_iff.mp h
    exact .nil
  | cons w ws ih =>
    cases row with
    | nil => cases h
    | cons cell row =>
      have hcell : cell.length ≤ max w cell.utf8ByteSize :=
        (length_le_utf8ByteSize cell).trans (Nat.le_max_right w _)
      exact .cons hcell (ih row (Nat.succ.inj h))

theorem Fits.widen {ws : List Nat} {cells : List String} (hfits : Fits ws cells) (row : List String)
    (h : row.length = ws.length) : Fits (widen ws row) cells := by
  induction hfits generalizing row with
  | nil => exact .nil
  | @cons w cell ws cells hcell hfits ih =>
    cases row with
    | nil => cases h
    | cons next row =>
      have hmore : cell.length ≤ max w next.utf8ByteSize := by omega
      exact .cons hmore (ih row (Nat.succ.inj h))

/-- All rows fit the widths that they have made. -/
theorem fits_foldl_widen (rows : List (List String)) (ws : List Nat)
    (h : ∀ row ∈ rows, row.length = ws.length) :
    (∀ cells, Fits ws cells → Fits (rows.foldl widen ws) cells) ∧
      ∀ row ∈ rows, Fits (rows.foldl widen ws) row := by
  induction rows generalizing ws with
  | nil => exact ⟨fun cells hfits => hfits, fun row hmem => nomatch hmem⟩
  | cons first rows ih =>
    obtain ⟨hfirst, hrest⟩ := List.forall_mem_cons.mp h
    have hlength := length_widen ws first hfirst
    obtain ⟨hkept, hrows⟩ := ih (widen ws first) fun row hmem => (hrest row hmem).trans hlength.symm
    refine ⟨fun cells hfits => hkept cells (hfits.widen first hfirst), ?_⟩
    intro row hmem
    rcases List.mem_cons.mp hmem with rfl | hmem
    · exact hkept row (fits_widen_row ws row hfirst)
    · exact hrows row hmem

theorem fits_columnWidths (rows : List (List String)) (h : ∀ row ∈ rows, row.length = headings.length) :
    ∀ row ∈ headings :: rows, Fits (columnWidths rows) row := by
  have hlength : (headings.map String.utf8ByteSize).length = headings.length := List.length_map _
  obtain ⟨hkept, hrows⟩ := fits_foldl_widen rows (headings.map String.utf8ByteSize)
    fun row hmem => (h row hmem).trans hlength.symm
  intro row hmem
  rcases List.mem_cons.mp hmem with rfl | hmem
  · refine hkept headings (List.forall₂_map_left_iff.mpr (List.forall₂_same.mpr ?_))
    exact fun cell _ => length_le_utf8ByteSize cell
  · exact hrows row hmem

theorem mem_sortNodes (key : SortKey) (descending : Bool) (nodes : List Summary) (node : Summary) :
    node ∈ sortNodes key descending nodes ↔ node ∈ nodes := by
  unfold sortNodes
  split <;> exact List.mem_mergeSort

/-- The column of the block ends in a digit or is the placeholder. -/
theorem endsInText_cells (node : Summary) : EndsInText (cells node) := by
  cases hblock : node.bestBlock with
  | none =>
    refine ⟨placeholder, '-', ?_, rfl, rfl⟩
    simp [cells, hblock]
  | some b =>
    obtain ⟨c, hlast, hdigit⟩ := exists_digit_getLast?_intText b.number
    refine ⟨intText b.number, c, ?_, hlast, isBlank_of_isDigit c hdigit⟩
    simp [cells, hblock]

theorem endsInText_headings : EndsInText headings := ⟨"BLOCK", 'K', rfl, rfl, rfl⟩

theorem mem_tableRow (ws : List Nat) (row : List String) (c : Char) (h : c ∈ (tableRow ws row).toList) :
    c = ' ' ∨ ∃ cell ∈ row, c ∈ cell.toList := by
  rw [tableRow, String.toList_ofList] at h
  exact mem_layout ws row c (mem_of_mem_dropEnd _ c h)

theorem exists_text_in_tableRow (ws : List Nat) (row : List String) (hfits : Fits ws row)
    (hend : EndsInText row) : ∃ c ∈ (tableRow ws row).toList, isBlank c = false := by
  obtain ⟨c, hmem, htext⟩ := exists_text_in_layout ws row hfits hend
  rw [tableRow, String.toList_ofList]
  exact ⟨c, mem_dropEnd_of_neg _ c hmem htext, htext⟩

/-- The two ends of a link with an arrow between them. -/
theorem toList_linkLine (l : Link) :
    (linkLine l).toList = l.nodeA.toList ++ " <-> ".toList ++ l.nodeB.toList := by
  show (l.nodeA ++ " <-> " ++ l.nodeB).toList = _
  rw [String.toList_append, String.toList_append]

/-- The rows of the table of a network, that of the headings first. -/
def tableRows (n : Network) (key : SortKey) (descending : Bool) : List (List String) :=
  headings :: (sortNodes key descending n.nodes).map cells

/-- The widths of the columns of the table. -/
def tableWidths (n : Network) (key : SortKey) (descending : Bool) : List Nat :=
  columnWidths ((sortNodes key descending n.nodes).map cells)

variable (n : Network) (key : SortKey) (descending : Bool)

theorem fits_tableRows : ∀ row ∈ tableRows n key descending, Fits (tableWidths n key descending) row := by
  refine fits_columnWidths _ fun row hmem => ?_
  obtain ⟨node, -, rfl⟩ := List.mem_map.mp hmem
  rfl

theorem endsInText_tableRows : ∀ row ∈ tableRows n key descending, EndsInText row := by
  intro row hmem
  rcases List.mem_cons.mp hmem with rfl | hmem
  · exact endsInText_headings
  · obtain ⟨node, -, rfl⟩ := List.mem_map.mp hmem
    exact endsInText_cells node

/-- The table has no line breaks of its own. -/
theorem newline_not_mem_tableRows (h : ∀ node ∈ n.nodes, ∀ cell ∈ cells node, '\n' ∉ cell.toList)
    (ws : List Nat) : ∀ row ∈ tableRows n key descending, '\n' ∉ (tableRow ws row).toList := by
  intro row hrow hmem
  have hcells : ∀ cell ∈ row, '\n' ∉ cell.toList := by
    rcases List.mem_cons.mp hrow with rfl | hrow
    · decide
    · obtain ⟨node, hnode, rfl⟩ := List.mem_map.mp hrow
      exact h node ((mem_sortNodes key descending n.nodes node).mp hnode)
  rcases mem_tableRow ws row _ hmem with hblank | ⟨cell, hcell, hc⟩
  · cases hblank
  · exact hcells cell hcell hc

theorem dropEnd_tableRow (ws : List Nat) (row : List String) :
    dropEnd isBlank (tableRow ws row).toList = (tableRow ws row).toList := by
  rw [tableRow, String.toList_ofList, dropEnd_dropEnd]

theorem network_eq_unlines (hnodes : n.nodes ≠ []) :
    network n key descending =
      unlines ((tableRows n key descending).map (tableRow (tableWidths n key descending)) ++
        if n.links = [] then [] else "" :: n.links.map linkLine) := by
  simp [network, networkLines, hnodes, tableRows, tableWidths]

/-- Without links the table is all there is. -/
theorem linesOf_network_of_no_links (hnodes : n.nodes ≠ [])
    (hcells : ∀ node ∈ n.nodes, ∀ cell ∈ cells node, '\n' ∉ cell.toList) (hlinks : n.links = []) :
    linesOf (network n key descending) =
      ((tableRows n key descending).map (tableRow (tableWidths n key descending))).map String.toList := by
  obtain ⟨front, last, hrows⟩ : ∃ front last, tableRows n key descending = front ++ [last] := by
    rcases List.eq_nil_or_concat (tableRows n key descending) with hnone | hrows
    · cases hnone
    · simpa only [List.concat_eq_append] using hrows
  have hmem : last ∈ tableRows n key descending := by
    rw [hrows]
    exact List.mem_append_right front (List.mem_singleton_self last)
  have hkept := exists_text_in_tableRow _ last (fits_tableRows n key descending last hmem)
    (endsInText_tableRows n key descending last hmem)
  have hbreaks := newline_not_mem_tableRows n key descending hcells (tableWidths n key descending)
  have hfront : ∀ line ∈ front.map (tableRow (tableWidths n key descending)), '\n' ∉ line.toList := by
    refine List.forall_mem_map.mpr fun row hrow => hbreaks row ?_
    rw [hrows]
    exact List.mem_append_left [last] hrow
  have hlines := linesOf_trimEnd_intercalate _ _ hfront (hbreaks last hmem) hkept
  rw [dropEnd_tableRow] at hlines
  rw [network_eq_unlines n key descending hnodes, if_pos hlinks, List.append_nil, hrows, List.map_append,
    List.map_append]
  exact hlines

/-- With links there are an empty line and a line for each link below the table. -/
theorem linesOf_network_of_links (hnodes : n.nodes ≠ [])
    (hcells : ∀ node ∈ n.nodes, ∀ cell ∈ cells node, '\n' ∉ cell.toList)
    (hnames : ∀ l ∈ n.links, '\n' ∉ l.nodeA.toList ∧ '\n' ∉ l.nodeB.toList)
    (front : List Link) (last : Link) (hlinks : n.links = front ++ [last]) :
    linesOf (network n key descending) =
      ((tableRows n key descending).map (tableRow (tableWidths n key descending))).map String.toList ++
        [] :: (front.map linkLine).map String.toList ++ [dropEnd isBlank (linkLine last).toList] := by
  have hlink : ∀ l ∈ n.links, '\n' ∉ (linkLine l).toList := by
    intro l hl hmem
    obtain ⟨ha, hb⟩ := hnames l hl
    rw [toList_linkLine, List.mem_append, List.mem_append] at hmem
    rcases hmem with (hmem | hmem) | hmem
    · exact ha hmem
    · revert hmem
      decide
    · exact hb hmem
  have hsome : n.links ≠ [] := by simp [hlinks]
  have hlast : last ∈ n.links := by simp [hlinks]
  have harrow : ∃ c ∈ (linkLine last).toList, isBlank c = false := by
    rw [toList_linkLine]
    exact ⟨'<', by simp, rfl⟩
  have hbreaks := newline_not_mem_tableRows n key descending hcells (tableWidths n key descending)
  have hfront : ∀ line ∈ (tableRows n key descending).map (tableRow (tableWidths n key descending)) ++
      "" :: front.map linkLine, '\n' ∉ line.toList := by
    have hbelow : ∀ line ∈ "" :: front.map linkLine, '\n' ∉ line.toList := by
      refine List.forall_mem_cons.mpr ⟨List.not_mem_nil, List.forall_mem_map.mpr fun l hl => hlink l ?_⟩
      rw [hlinks]
      exact List.mem_append_left [last] hl
    exact List.forall_mem_append.mpr ⟨List.forall_mem_map.mpr hbreaks, hbelow⟩
  have hlines := linesOf_trimEnd_intercalate _ _ hfront (hlink last hlast) harrow
  rw [network_eq_unlines n key descending hnodes, if_neg hsome, hlinks, List.map_append]
  rw [List.append_assoc, List.cons_append, List.map_append, List.map_cons] at hlines
  exact hlines

/-- The text of a network with nodes, line by line: the headings, a row for each node in the order of the sort,
and below the table nothing if there are no links, and else an empty line and a line for each link, in order, of
which the last is cut at its end. In all rows each cell stands in full at the offset of its column. -/
def LaidOut : Prop :=
  ∃ starts rows tail,
    linesOf (network n key descending) = rows ++ tail ∧
    List.Forall₂ (Aligned starts) (headings :: (sortNodes key descending n.nodes).map cells) rows ∧
    (n.links = [] → tail = []) ∧
    ∀ front last, n.links = front ++ [last] →
      tail = [] :: front.map (fun l => l.nodeA.toList ++ " <-> ".toList ++ l.nodeB.toList) ++
        [dropEnd isBlank (last.nodeA.toList ++ " <-> ".toList ++ last.nodeB.toList)]

/-- A network is laid out as a table, line by line, if none of its cells and names holds a line break. The columns
are aligned by characters, of however many bytes these are, and trimming the rows cuts off no part of a cell. -/
theorem network_table_aligned (hnodes : n.nodes ≠ [])
    (hcells : ∀ node ∈ n.nodes, ∀ cell ∈ cells node, '\n' ∉ cell.toList)
    (hnames : ∀ l ∈ n.links, '\n' ∉ l.nodeA.toList ∧ '\n' ∉ l.nodeB.toList) :
    LaidOut n key descending := by
  have hrows : List.Forall₂ (Aligned (columnStarts 0 (tableWidths n key descending)))
      (tableRows n key descending)
      (((tableRows n key descending).map (tableRow (tableWidths n key descending))).map String.toList) := by
    rw [List.forall₂_map_right_iff, List.forall₂_map_right_iff, List.forall₂_same]
    intro row hmem
    exact aligned_tableRow _ row (fits_tableRows n key descending row hmem)
      (endsInText_tableRows n key descending row hmem)
  rcases List.eq_nil_or_concat n.links with hnone | ⟨front, last, hsome⟩
  · refine ⟨_, _, [], ?_, hrows, fun _ => rfl, fun front last hlinks => ?_⟩
    · rw [List.append_nil]
      exact linesOf_network_of_no_links n key descending hnodes hcells hnone
    · simp [hnone] at hlinks
  · rw [List.concat_eq_append] at hsome
    have hlines := linesOf_network_of_links n key descending hnodes hcells hnames front last hsome
    rw [List.append_assoc] at hlines
    refine ⟨_, _, _, hlines, hrows, fun hlinks => ?_, fun front' last' hlinks => ?_⟩
    · simp [hsome] at hlinks
    · obtain ⟨rfl, hlast⟩ := List.append_inj' (hsome.symm.trans hlinks) rfl
      obtain rfl := List.singleton_inj.mp hlast
      rw [List.map_map, toList_linkLine]
      have hline : String.toList ∘ linkLine =
          fun l => l.nodeA.toList ++ " <-> ".toList ++ l.nodeB.toList := funext toList_linkLine
      rw [hline]

/-- A name in which a character has more than one byte, and an address and a name that end in a blank. -/
theorem names_of_many_bytes_aligned :
    let b : Summary := ⟨"b", some "[::1]:80 ", .run, some ⟨"1.4.0", "f00"⟩, some ⟨17, "0x1"⟩⟩
    let n : Network := ⟨[.blank "żółw", b], [⟨"żółw", "b "⟩]⟩
    n.nodes ≠ [] ∧ (∀ node ∈ n.nodes, ∀ cell ∈ cells node, '\n' ∉ cell.toList) ∧
      (∀ l ∈ n.links, '\n' ∉ l.nodeA.toList ∧ '\n' ∉ l.nodeB.toList) ∧ LaidOut n .name true ∧
      network n .name true = String.intercalate "\n"
        ["NAME     ADDRESS    STATUS  VERSION  BLOCK",
          "żółw     -          Stop    -        -",
          "b        [::1]:80   Run     1.4.0    17",
          "",
          "żółw <-> b"] := by
  intro b n
  have hcells : ∀ node ∈ n.nodes, ∀ cell ∈ cells node, '\n' ∉ cell.toList := by decide +kernel
  have hnames : ∀ l ∈ n.links, '\n' ∉ l.nodeA.toList ∧ '\n' ∉ l.nodeB.toList := by decide
  have hnodes : n.nodes ≠ [] := List.cons_ne_nil _ _
  have hsorted : sortNodes .name true n.nodes = n.nodes := List.mergeSort_of_pairwise (by decide +kernel)
  refine ⟨hnodes, hcells, hnames, network_table_aligned n .name true hnodes hcells hnames, ?_⟩
  rw [network_eq_unlines n .name true hnodes, tableRows, tableWidths, hsorted]
  decide +kernel

end HubConsole.Console.View
