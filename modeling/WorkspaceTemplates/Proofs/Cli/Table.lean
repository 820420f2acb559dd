/-
  WorkspaceTemplates/Proofs/Cli/Table.lean
  ========================================
  **Tables stay aligned.**

  A column is as wide as its widest cell has bytes, while cells are filled up to a
  number of characters.  A character has at least one byte, so every cell fits into its
  column whatever it is made of (`length_le_columnWidth`), and filled up it has exactly
  the width of the column.  A cell therefore starts where the widths of the columns
  before it end, two spaces between any two of them, in every line (`aligned_padded`).
  Only a column that is too wide to be filled up spoils this: then nothing is printed.
-/
import WorkspaceTemplates.Proofs.Cli.Run
import WorkspaceTemplates.Proofs.Text.Pieces
import Mathlib.Algebra.Ring.Nat
import Mathlib.Data.List.Forall2

namespace WorkspaceTemplates

/-! ### Bytes and characters -/

namespace Text

theorem length_le_utf8Length (s : List Char) : s.length ≤ utf8Length s := by
  induction s with
  | nil => exact Nat.le_refl 0
  | cons c s ih =>
    have hc := c.utf8Size_pos
    rw [List.length_cons, utf8Length_cons]
    omega

theorem utf8Length_replicate (n : Nat) (c : Char) :
    utf8Length (List.replicate n c) = n * c.utf8Size := by
  induction n with
  | zero => exact (Nat.zero_mul _).symm
  | succ n ih => rw [List.replicate_succ, utf8Length_cons, ih, Nat.succ_mul, Nat.add_comm]

end Text

namespace Cli.Table

/-! ### Widths -/

/-- The bytes of a cell in a line. -/
def cellSize (cells : List String) (j : Nat) : Nat := Text.utf8Length (cells.getD j "").toList

/-- The bytes of the widest cell of a column, its header included. -/
def columnWidth (headers : List String) (rows : List (List String)) (j : Nat) : Nat :=
  ((headers :: rows).map (cellSize · j)).max?.getD 0

section Widths

variable {headers : List String} {rows : List (List String)} {cells : List String}

theorem getElem?_widen (ws : List Nat) (cells : List String) (j : Nat) :
    (widen ws cells)[j]? = ws[j]?.map fun w => max w (cellSize cells j) := by
  fun_induction widen ws cells generalizing j with
  | case1 w ws cell cells ih =>
    cases j with
    | zero => rfl
    | succ j => exact ih j
  | case2 ws cells hnone =>
    -- without a cell the width stays, and the cell that is missing has no bytes
    have hsize : ∀ w ∈ ws[j]?, max w (cellSize cells j) = w := by
      intro w hw
      cases cells with
      | nil => exact Nat.max_zero w
      | cons cell cells =>
        cases ws with
        | nil => cases hw
        | cons w' ws => exact absurd rfl (hnone w' ws cell cells rfl)
    cases hw : ws[j]? with
    | none => rfl
    | some w => rw [Option.map_some, hsize w hw]

theorem getElem?_foldl_widen (rows : List (List String)) (ws : List Nat) (j : Nat) :
    (rows.foldl widen ws)[j]? = ws[j]?.map fun w => (rows.map (cellSize · j)).foldl max w := by
  induction rows generalizing ws with
  | nil => exact Option.map_id'.symm
  | cons row rows ih => rw [List.foldl_cons, ih, getElem?_widen, Option.map_map]; rfl

/-- The widths of a table are those of its columns. -/
theorem widths_eq (headers : List String) (rows : List (List String)) :
    widths headers rows = (List.range headers.length).map (columnWidth headers rows) := by
  apply List.ext_getElem?
  intro j
  rw [widths, getElem?_foldl_widen, List.getElem?_map, List.getElem?_map]
  by_cases hj : j < headers.length
  · have hsize : cellSize headers j = Text.utf8Length headers[j].toList := by
      rw [cellSize, List.getD_eq_getElem?_getD, List.getElem?_eq_getElem hj, Option.getD_some]
    rw [List.getElem?_eq_getElem hj, List.getElem?_range hj, Option.map_some, Option.map_some,
      Option.map_some, columnWidth, List.map_cons, List.max?_cons', hsize]
    rfl
  · rw [List.getElem?_eq_none (Nat.le_of_not_lt hj), List.getElem?_eq_none (by simpa using hj)]
    rfl

theorem cellSize_le_columnWidth (hcells : cells ∈ headers :: rows) (j : Nat) :
    cellSize cells j ≤ columnWidth headers rows j :=
  List.le_max?_getD_of_mem (List.mem_map_of_mem hcells)

/-- No cell has more characters than its column is wide. -/
theorem length_le_columnWidth (hcells : cells ∈ headers :: rows) {j : Nat} {cell : String}
    (hcell : cells[j]? = some cell) : cell.length ≤ columnWidth headers rows j := by
  have hsize : cellSize cells j = Text.utf8Length cell.toList := by
    rw [cellSize, List.getD_eq_getElem?_getD, hcell, Option.getD_some]
  calc cell.length = cell.toList.length := String.length_toList.symm
    _ ≤ cellSize cells j := hsize ▸ Text.length_le_utf8Length cell.toList
    _ ≤ columnWidth headers rows j := cellSize_le_columnWidth hcells j

end Widths

/-! ### Lines -/

/-- Where the cells of a column start: after the columns before it and the spaces between them. -/
def place (width : Nat → Nat) (j : Nat) : Nat := ((List.range j).map fun i => width i + 2).sum

theorem place_succ (width : Nat → Nat) (j : Nat) :
    place width (j + 1) = place width j + (width j + 2) := by
  rw [place, List.range_succ, List.map_append, List.sum_append, List.map_singleton,
    List.sum_singleton, place]

/-- A line in which every cell stands at the place of its column, whole and with nothing but spaces
up to the place of the next one; there is nothing behind the last column. -/
structure Aligned (width : Nat → Nat) (cells : List String) (l : List Char) : Prop where
  fits : ∀ j cell, cells[j]? = some cell → cell.length ≤ width j
  cell : ∀ j cell, cells[j]? = some cell →
    ∀ t < cell.length, l[place width j + t]? = cell.toList[t]?
  spaces : ∀ j cell, cells[j]? = some cell → ∀ p < l.length,
    place width j + cell.length ≤ p → p < place width (j + 1) → l[p]? = some ' '
  length : cells ≠ [] → l.length + 2 = place width cells.length

/-- The characters of a line before the white space at its end is taken away. -/
def padded (ws : List Nat) (cells : List String) : List Char :=
  [' ', ' '].intercalate ((padAll cells ws).map String.toList)

section Lines

variable {width : Nat → Nat} {cells : List String} {ws : List Nat} {j w : Nat} {cell : String}

theorem line_eq (ws : List Nat) (cells : List String) :
    line ws cells = Text.trimEnd (String.ofList (padded ws cells)) := by
  have hjoined : String.ofList (padded ws cells) = "  ".intercalate (padAll cells ws) := by
    rw [← String.toList_inj, String.toList_ofList, String.toList_intercalate]
    rfl
  rw [line, hjoined]

theorem length_padAll (cells : List String) (ws : List Nat) :
    (padAll cells ws).length = cells.length := by
  fun_induction padAll cells ws with
  | case1 ws => rfl
  | case2 cell cells ih => rw [List.length_cons, List.length_cons, ih]
  | case3 cell cells w ws ih => rw [List.length_cons, List.length_cons, ih]

theorem getElem?_padAll (hcell : cells[j]? = some cell) (hw : ws[j]? = some w) :
    (padAll cells ws)[j]? = some (pad cell w) := by
  fun_induction padAll cells ws generalizing j with
  | case1 ws => cases hcell
  | case2 cell' cells ih => cases hw
  | case3 cell' cells w' ws ih =>
    cases j with
    | zero =>
      cases hcell
      cases hw
      rfl
    | succ j => exact ih hcell hw

theorem length_pad (h : cell.length ≤ w) : (pad cell w).toList.length = w := by
  rw [pad, String.toList_ofList, List.length_append, List.length_replicate, String.length_toList]
  omega

/-- The filled up cells of a line are as long as their columns are wide. -/
theorem map_length_padAll (hfits : ∀ j cell, cells[j]? = some cell → cell.length ≤ width j) :
    ((padAll cells ((List.range cells.length).map width)).map String.toList).map List.length =
      (List.range cells.length).map width := by
  apply List.ext_getElem?
  intro j
  rw [List.getElem?_map, List.getElem?_map]
  by_cases hj : j < cells.length
  · have hcell := List.getElem?_eq_getElem hj
    have hw : ((List.range cells.length).map width)[j]? = some (width j) := by
      rw [List.getElem?_map, List.getElem?_range hj, Option.map_some]
    rw [getElem?_padAll hcell hw, hw, Option.map_some, Option.map_some,
      length_pad (hfits j _ hcell)]
  · rw [List.getElem?_eq_none (by rw [length_padAll]; exact Nat.le_of_not_lt hj),
      List.getElem?_eq_none (by simpa using hj)]
    rfl

/-- The places of columns are those of the filled up cells. -/
theorem sum_length_padAll (hfits : ∀ j cell, cells[j]? = some cell → cell.length ≤ width j)
    (hj : j ≤ cells.length) :
    ((((padAll cells ((List.range cells.length).map width)).map String.toList).take j).map
      fun b => b.length + 2).sum = place width j := by
  have hlengths :
      (((padAll cells ((List.range cells.length).map width)).map String.toList).take j).map
        List.length = (List.range j).map width := by
    rw [List.map_take, map_length_padAll hfits, ← List.map_take, List.take_range,
      Nat.min_eq_left hj]
  have hsum := congrArg (fun ns => (ns.map (· + 2)).sum) hlengths
  simp only [List.map_map] at hsum
  exact hsum

/-- What a line goes on with at the place of a column: the cell, filled up, and then two spaces or
the end of the line. -/
theorem drop_padded (hfits : ∀ j cell, cells[j]? = some cell → cell.length ≤ width j)
    (hcell : cells[j]? = some cell) :
    ∃ tail, (padded ((List.range cells.length).map width) cells).drop (place width j) =
        cell.toList ++ (List.replicate (width j - cell.length) ' ' ++ tail) ∧
      (tail = [] ∨ ∃ more, tail = ' ' :: ' ' :: more) := by
  obtain ⟨hj, -⟩ := List.getElem?_eq_some_iff.1 hcell
  have hplace := sum_length_padAll hfits (Nat.le_of_lt hj)
  have hblock : ((padAll cells ((List.range cells.length).map width)).map String.toList)[j]? =
      some (cell.toList ++ List.replicate (width j - cell.length) ' ') := by
    have hw : ((List.range cells.length).map width)[j]? = some (width j) := by
      rw [List.getElem?_map, List.getElem?_range hj, Option.map_some]
    rw [List.getElem?_map, getElem?_padAll hcell hw, Option.map_some, pad, String.toList_ofList]
  rw [padded]
  generalize (padAll cells ((List.range cells.length).map width)).map String.toList = bs
    at hplace hblock ⊢
  obtain ⟨hlt, hblock⟩ := List.getElem?_eq_some_iff.1 hblock
  have hdrop := Text.drop_intercalate [' ', ' '] hlt
  rw [show [' ', ' '].length = 2 from rfl, hplace] at hdrop
  rw [hdrop, List.drop_eq_getElem_cons hlt, hblock]
  cases bs.drop (j + 1) with
  | nil => exact ⟨[], by rw [List.intercalate_singleton, List.append_nil], .inl rfl⟩
  | cons b rest =>
    refine ⟨[' ', ' '] ++ [' ', ' '].intercalate (b :: rest), ?_, .inr ⟨_, rfl⟩⟩
    rw [List.intercalate_cons_cons, List.append_assoc, List.append_assoc]

/-- The cells of a line that fit into their columns are aligned. -/
theorem aligned_padded (hfits : ∀ j cell, cells[j]? = some cell → cell.length ≤ width j) :
    Aligned width cells (padded ((List.range cells.length).map width) cells) where
  fits := hfits
  cell j cell hcell t ht := by
    obtain ⟨tail, hdrop, -⟩ := drop_padded hfits hcell
    have hlt : t < cell.toList.length := by rwa [String.length_toList]
    rw [← List.getElem?_drop, hdrop, List.getElem?_append_left hlt]
  spaces j cell hcell p hp hstart hstop := by
    obtain ⟨tail, hdrop, htail⟩ := drop_padded hfits hcell
    obtain ⟨t, rfl⟩ := Nat.exists_eq_add_of_le (Nat.le_of_add_right_le hstart)
    have hline := congrArg List.length hdrop
    have hfit := hfits j cell hcell
    rw [place_succ] at hstop
    rw [List.length_drop, List.length_append, List.length_append, List.length_replicate,
      String.length_toList] at hline
    rw [← List.getElem?_drop, hdrop,
      List.getElem?_append_right (by rw [String.length_toList]; omega),
      String.length_toList]
    by_cases ht : t < width j
    · rw [List.getElem?_append_left (by rw [List.length_replicate]; omega),
        List.getElem?_replicate, if_pos (by omega)]
    · rw [List.getElem?_append_right (by rw [List.length_replicate]; omega),
        List.length_replicate]
      rcases htail with rfl | ⟨more, rfl⟩
      · rw [List.length_nil] at hline
        omega
      · -- one of the two spaces between the columns
        obtain h | h : t - cell.length - (width j - cell.length) = 0 ∨
            t - cell.length - (width j - cell.length) = 1 := by omega
        · rw [h]; rfl
        · rw [h]; rfl
  length hne := by
    have hplace := sum_length_padAll hfits (Nat.le_refl cells.length)
    rw [List.take_of_length_le (by simp [length_padAll])] at hplace
    rw [← hplace, padded]
    apply Text.length_intercalate [' ', ' ']
    rw [← List.length_pos_iff, List.length_map, length_padAll]
    exact List.length_pos_iff.2 hne

end Lines

/-! ### Whole tables -/

section Tables

variable {headers : List String} {rows : List (List String)}

/-- The line below the headers. -/
def dashes (width : Nat → Nat) (n : Nat) : List String :=
  (List.range n).map fun j => String.ofList (List.replicate (width j) '-')

/-- The lines of a table before the white space at their ends is taken away. -/
def paddedLines (headers : List String) (rows : List (List String)) : List (List Char) :=
  (headers :: dashes (columnWidth headers rows) headers.length :: rows).map
    (padded (widths headers rows))

/-- The text of some lines, each without the white space at its end. -/
def trimmedText (ls : List (List Char)) : String :=
  Text.ofLines (ls.map fun l => Text.trimEnd (String.ofList l))

theorem ofLines_lines (headers : List String) (rows : List (List String)) :
    Text.ofLines (lines headers rows) = trimmedText (paddedLines headers rows) := by
  have hdashes : (widths headers rows).map (fun w => String.ofList (List.replicate w '-')) =
      dashes (columnWidth headers rows) headers.length := by
    rw [widths_eq, List.map_map]
    rfl
  have hline : line (widths headers rows) =
      fun cells => Text.trimEnd (String.ofList (padded (widths headers rows) cells)) :=
    funext (line_eq _)
  rw [lines, hdashes, trimmedText, paddedLines, hline, List.map_map]
  rfl

/-- Every line of a table whose rows are as long as its headers is aligned. -/
theorem forall₂_aligned (hrows : ∀ row ∈ rows, row.length = headers.length) :
    List.Forall₂ (Aligned (columnWidth headers rows))
      (headers :: dashes (columnWidth headers rows) headers.length :: rows)
      (paddedLines headers rows) := by
  have hline (cells : List String) (hlength : cells.length = headers.length)
      (hfits : ∀ j cell, cells[j]? = some cell → cell.length ≤ columnWidth headers rows j) :
      Aligned (columnWidth headers rows) cells (padded (widths headers rows) cells) := by
    rw [widths_eq, ← hlength]
    exact aligned_padded hfits
  rw [paddedLines, List.forall₂_map_right_iff, List.forall₂_same]
  intro cells hcells
  rcases List.mem_cons.1 hcells with rfl | hcells
  · exact hline _ rfl fun _ _ => length_le_columnWidth List.mem_cons_self
  rcases List.mem_cons.1 hcells with rfl | hcells
  · refine hline _ (by rw [dashes, List.length_map, List.length_range]) ?_
    intro j cell hcell
    rw [dashes, List.getElem?_map, Option.map_eq_some_iff] at hcell
    obtain ⟨i, hi, rfl⟩ := hcell
    obtain ⟨-, rfl⟩ := List.getElem?_eq_some_iff.1 hi
    apply Nat.le_of_eq
    rw [List.getElem_range, String.length_ofList, List.length_replicate]
  · exact hline _ (hrows _ hcells) fun _ _ =>
      length_le_columnWidth (List.mem_cons_of_mem headers hcells)

theorem mem_padAll {ws : List Nat} {cells : List String} {filled : String} {x : Char}
    (hfilled : filled ∈ padAll cells ws) (hx : x ∈ filled.toList) :
    x = ' ' ∨ ∃ cell ∈ cells, x ∈ cell.toList := by
  fun_induction padAll cells ws with
  | case1 ws => cases hfilled
  | case2 cell cells ih =>
    rcases List.mem_cons.1 hfilled with rfl | hfilled
    · exact .inr ⟨_, List.mem_cons_self, hx⟩
    · exact (ih hfilled).imp_right fun ⟨cell, hcell, h⟩ => ⟨cell, List.mem_cons_of_mem _ hcell, h⟩
  | case3 cell cells w ws ih =>
    rcases List.mem_cons.1 hfilled with rfl | hfilled
    · rw [pad, String.toList_ofList, List.mem_append] at hx
      exact hx.symm.imp List.eq_of_mem_replicate fun h => ⟨_, List.mem_cons_self, h⟩
    · exact (ih hfilled).imp_right fun ⟨cell, hcell, h⟩ => ⟨cell, List.mem_cons_of_mem _ hcell, h⟩

theorem mem_padded {ws : List Nat} {cells : List String} {x : Char} (hx : x ∈ padded ws cells) :
    x = ' ' ∨ ∃ cell ∈ cells, x ∈ cell.toList := by
  rcases Text.mem_intercalate hx with hx | ⟨block, hblock, hx⟩
  · simp only [List.mem_cons, List.not_mem_nil, or_false, or_self] at hx
    exact .inl hx
  · obtain ⟨filled, hfilled, rfl⟩ := List.mem_map.1 hblock
    exact mem_padAll hfilled hx

/-- Cells without line breaks make lines without line breaks. -/
theorem break_notMem_paddedLines
    (hcells : ∀ cells ∈ headers :: rows, ∀ cell ∈ cells, '\n' ∉ cell.toList) :
    ∀ l ∈ paddedLines headers rows, '\n' ∉ l := by
  have hline (cells : List String) (h : ∀ cell ∈ cells, '\n' ∉ cell.toList) :
      '\n' ∉ padded (widths headers rows) cells := by
    intro hmem
    rcases mem_padded hmem with hspace | ⟨cell, hcell, hmem⟩
    · exact absurd hspace (by decide)
    · exact h cell hcell hmem
  intro l hl
  obtain ⟨cells, hmem, rfl⟩ := List.mem_map.1 hl
  apply hline
  rcases List.mem_cons.1 hmem with rfl | hmem
  · exact hcells _ List.mem_cons_self
  rcases List.mem_cons.1 hmem with rfl | hmem
  · intro cell hcell hbreak
    obtain ⟨j, -, rfl⟩ := List.mem_map.1 hcell
    rw [String.toList_ofList] at hbreak
    exact absurd (List.eq_of_mem_replicate hbreak) (by decide)
  · exact hcells _ (List.mem_cons_of_mem headers hmem)

theorem text?_of_fits (h : ∀ j < headers.length, columnWidth headers rows j ≤ widthLimit) :
    text? headers rows = some (Text.ofLines (lines headers rows)) := by
  rw [text?, if_pos]
  rw [widths_eq, List.all_map, List.all_eq_true]
  intro j hj
  exact decide_eq_true (h j (List.mem_range.1 hj))

theorem text?_of_tooWide (h : ∃ j < headers.length, widthLimit < columnWidth headers rows j) :
    text? headers rows = none := by
  obtain ⟨j, hj, hwide⟩ := h
  rw [text?, if_neg]
  rw [widths_eq, List.all_map, List.all_eq_true]
  intro hall
  exact absurd (of_decide_eq_true (hall j (List.mem_range.2 hj))) (Nat.not_le_of_lt hwide)

end Tables

end Cli.Table

/-! ### Printing tables -/

namespace Cli

open CliM Table

theorem runOn_printTable (headers : List String) (rows : List (List String)) (c : Console) :
    (printTable headers rows).runOn c =
      match text? headers rows with
      | some text => (.ok (), { c with printed := c.printed ++ text })
      | none => (.error .tooWide, c) := by
  rw [printTable]
  cases text? headers rows <;> rfl

/-- **Tables stay aligned, whatever their cells are made of.**  The rows of a table are as long as
its headers, and no cell has a line break.  If every column can be filled up, one line is printed
for the headers, one of dashes, and one for each row; each is a line in which the cells are aligned,
without the white space at its end.  Otherwise nothing is printed and the run is broken off. -/
theorem printTable_aligned (headers : List String) (rows : List (List String)) (c : Console)
    (hrows : ∀ row ∈ rows, row.length = headers.length)
    (hcells : ∀ cells ∈ headers :: rows, ∀ cell ∈ cells, '\n' ∉ cell.toList) :
    ((∀ j < headers.length, columnWidth headers rows j ≤ widthLimit) →
      ∃ ls : List (List Char), ls.length = rows.length + 2 ∧ (∀ l ∈ ls, '\n' ∉ l) ∧
        (printTable headers rows).runOn c =
          (.ok (), { c with printed := c.printed ++ trimmedText ls }) ∧
        List.Forall₂ (Aligned (columnWidth headers rows))
          (headers :: dashes (columnWidth headers rows) headers.length :: rows) ls) ∧
    ((∃ j < headers.length, widthLimit < columnWidth headers rows j) →
      (printTable headers rows).runOn c = (.error .tooWide, c)) := by
  constructor
  · intro hfits
    refine ⟨paddedLines headers rows, by simp [paddedLines], break_notMem_paddedLines hcells, ?_,
      forall₂_aligned hrows⟩
    rw [runOn_printTable, text?_of_fits hfits, ofLines_lines]
  · intro hwide
    rw [runOn_printTable, text?_of_tooWide hwide]

/-- Cells of one, two and three bytes a character. -/
def mixedRows : List (List String) := [["zé", "日本"], ["port", ""]]

theorem printTable_aligned_mixedRows :
    (∀ row ∈ mixedRows, row.length = 2) ∧
    (∀ cells ∈ ["KEY", "VALUE"] :: mixedRows, ∀ cell ∈ cells, '\n' ∉ cell.toList) ∧
    (∀ j < 2, columnWidth ["KEY", "VALUE"] mixedRows j ≤ widthLimit) ∧
    ∃ ls : List (List Char), ls.length = 4 ∧
      List.Forall₂ (Aligned (columnWidth ["KEY", "VALUE"] mixedRows))
        (["KEY", "VALUE"] :: dashes (columnWidth ["KEY", "VALUE"] mixedRows) 2 :: mixedRows) ls := by
  have hrows : ∀ row ∈ mixedRows, row.length = 2 := by decide
  have hcells : ∀ cells ∈ ["KEY", "VALUE"] :: mixedRows, ∀ cell ∈ cells, '\n' ∉ cell.toList := by
    decide
  have hfits : ∀ j < 2, columnWidth ["KEY", "VALUE"] mixedRows j ≤ widthLimit := by decide
  obtain ⟨ls, hlength, -, -, haligned⟩ :=
    (printTable_aligned _ _ ⟨⟨Tree.emptyDir, []⟩, "", []⟩ hrows hcells).1 hfits
  exact ⟨hrows, hcells, hfits, ls, hlength, haligned⟩

/-- A value of 65536 characters breaks the run off, although it has no line break. -/
theorem printTable_value_tooWide :
    let value := String.ofList (List.replicate 65536 'x')
    '\n' ∉ value.toList ∧
      (printTable ["KEY", "VALUE"] [["notes", value]]).runOn ⟨⟨Tree.emptyDir, []⟩, "", []⟩ =
        (.error .tooWide, ⟨⟨Tree.emptyDir, []⟩, "", []⟩) := by
  intro value
  have hvalue : value.toList = List.replicate 65536 'x' := String.toList_ofList
  have hsize : cellSize ["notes", value] 1 = 65536 := by
    show Text.utf8Length value.toList = 65536
    rw [hvalue, Text.utf8Length_replicate]
    rfl
  constructor
  · rw [hvalue]
    intro hmem
    exact absurd (List.eq_of_mem_replicate hmem) (by decide)
  · rw [runOn_printTable, text?_of_tooWide]
    refine ⟨1, by decide, ?_⟩
    have hle : cellSize ["notes", value] 1 ≤ columnWidth ["KEY", "VALUE"] [["notes", value]] 1 :=
      cellSize_le_columnWidth (by simp) 1
    rw [hsize] at hle
    exact hle

end Cli

end WorkspaceTemplates
