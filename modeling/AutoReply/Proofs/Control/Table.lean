import Mathlib.Data.List.Forall2
import Mathlib.Order.Bounds.Basic
import AutoReply.Control.Table
import AutoReply.Proofs.Rule.Chance
import AutoReply.Proofs.Text.Lines
import AutoReply.Proofs.Text.Trimming

/-!
The table of the rules. Its columns begin at the same places in every line, and what it says of a
rule can be read back from the line of the rule.
-/

namespace AutoReply

namespace Rule

open AutoReply.Number AutoReply.Text

theorem solid_chanceText (chance : Binary64) :
    (chanceText chance).toList ≠ [] ∧
      ∀ character ∈ (chanceText chance).toList, isBlank character = false := by
  have finite (negative : Bool) (decimal : Decimal) :
      Binary64.signed negative decimal.positional ≠ [] ∧
        ∀ character ∈ Binary64.signed negative decimal.positional, isBlank character = false := by
    obtain ⟨first, rest, spelled, _⟩ := decimal.readFrom_positional.startsWithDigit
    refine ⟨?_, fun _ => Binary64.isBlank_of_mem_signed⟩
    cases negative <;> simp [Binary64.signed, spelled]
  unfold chanceText
  rw [String.toList_ofList]
  cases chance with
  | notANumber => exact ⟨by decide, noBlank_of_any (by decide)⟩
  | infinite negative => cases negative <;> exact ⟨by decide, noBlank_of_any (by decide)⟩
  | finite negative place =>
      split
      · rw [Binary64.fixed_one]
        exact finite negative _
      · exact finite negative _

end Rule

namespace Control

open AutoReply.Rule AutoReply.Text

/-! Columns. -/

def columnStart (widths : List Nat) (column : Nat) : Nat :=
  (widths.take column).sum + 2 * column

/-- The line shows the cells in their columns. Behind a cell there are spaces up to the next column,
and behind the last one there is nothing. -/
structure Shows (widths : List Nat) (cells : List (List Char)) (line : List Char) : Prop where
  within : ∀ column cell, cells[column]? = some cell → column + 1 < cells.length →
    ∃ padding, columnStart widths column + cell.length + padding = columnStart widths (column + 1) ∧
      line.drop (columnStart widths column) =
        cell ++ (List.replicate padding ' ' ++ line.drop (columnStart widths (column + 1)))
  last : ∀ column cell, cells[column]? = some cell → column + 1 = cells.length →
    line.drop (columnStart widths column) = cell

theorem columnStart_zero (widths : List Nat) : columnStart widths 0 = 0 := rfl

theorem columnStart_cons (width : Nat) (widths : List Nat) (column : Nat) :
    columnStart (width :: widths) (column + 1) = width + 2 + columnStart widths column := by
  rw [columnStart, columnStart, List.take_succ_cons, List.sum_cons]
  omega

section

variable {widths : List Nat} {cells : List (List Char)} {width : Nat} {cell : List Char}

theorem length_padEnd (fits : cell.length ≤ width) : (padEnd width cell).length = width := by
  rw [padEnd, List.length_append, List.length_replicate]
  omega

theorem shows_single : Shows [width] [cell] cell where
  within column cell found inside := by simp at inside
  last column found inCells atEnd := by
    obtain rfl : column = 0 := by simpa using atEnd
    simpa [columnStart_zero] using inCells

theorem Shows.cons {line : List Char} (shows : Shows widths cells line)
    (fits : cell.length ≤ width) (nonempty : cells ≠ []) :
    Shows (width :: widths) (cell :: cells) (padEnd width cell ++ ([' ', ' '] ++ line)) := by
  have behind (place : Nat) :
      (padEnd width cell ++ ([' ', ' '] ++ line)).drop (width + 2 + place) = line.drop place := by
    have length : (padEnd width cell ++ [' ', ' ']).length = width + 2 := by
      rw [List.length_append, length_padEnd fits]
      rfl
    rw [← List.append_assoc, ← length, List.drop_length_add_append]
  constructor
  case within =>
    intro column other found inside
    cases column with
    | zero =>
        obtain rfl : cell = other := by simpa using found
        refine ⟨width - cell.length + 2, ?_, ?_⟩
        · rw [columnStart_cons, columnStart_zero, columnStart_zero]
          omega
        · rw [columnStart_cons, columnStart_zero, columnStart_zero, behind, padEnd,
            List.replicate_add]
          simp
    | succ column =>
        obtain ⟨padding, ends, same⟩ := shows.within column other found (by simpa using inside)
        refine ⟨padding, ?_, ?_⟩
        · rw [columnStart_cons, columnStart_cons]
          omega
        · rw [columnStart_cons, columnStart_cons, behind, behind, same]
  case last =>
    intro column other found atEnd
    cases column with
    | zero => exact absurd (List.length_eq_zero_iff.mp (by simpa using atEnd.symm)) nonempty
    | succ column =>
        rw [columnStart_cons, behind]
        exact shows.last column other found (by simpa using atEnd)

theorem exists_shown (fit : List.Forall₂ (fun width cell => cell.length ≤ width) widths cells)
    (solid : ∃ cell, cells.getLast? = some cell ∧ EndsSolid cell) :
    ∃ shown count, join [' ', ' '] (List.zipWith padEnd widths cells) =
      shown ++ List.replicate count ' ' ∧ Shows widths cells shown ∧ EndsSolid shown := by
  induction fit with
  | nil =>
      obtain ⟨_, none, _⟩ := solid
      cases none
  | @cons width cell widths cells fits rest ih =>
      cases rest with
      | nil =>
          obtain ⟨_, found, ends⟩ := solid
          obtain rfl : cell = _ := by simpa using found
          exact ⟨cell, width - cell.length, rfl, shows_single, ends⟩
      | @cons _ next _ others _ _ =>
          rw [List.getLast?_cons_cons] at solid
          obtain ⟨shown, count, joined, shows, ends⟩ := ih solid
          refine ⟨padEnd width cell ++ ([' ', ' '] ++ shown), count, ?_,
            shows.cons fits (List.cons_ne_nil _ _), ?_⟩
          · rw [List.zipWith_cons_cons, List.zipWith_cons_cons, join_cons_cons,
              ← List.zipWith_cons_cons, joined]
            simp
          · exact (ends.append _).append _

theorem line_shows (fit : List.Forall₂ (fun width cell => cell.length ≤ width) widths cells)
    (solid : ∃ cell, cells.getLast? = some cell ∧ EndsSolid cell) :
    Shows widths cells (paddedLine widths ⟨cells⟩) ∧ EndsSolid (paddedLine widths ⟨cells⟩) := by
  obtain ⟨shown, count, joined, shows, ends⟩ := exists_shown fit solid
  rw [paddedLine, joined, ends.trimEnd_padded]
  exact ⟨shows, ends⟩

theorem mem_line {widths : List Nat} {row : Row} {character : Char}
    (member : character ∈ paddedLine widths row) :
    character = ' ' ∨ ∃ cell ∈ row.cells, character ∈ cell := by
  have joined : character ∈ join [' ', ' '] (List.zipWith padEnd widths row.cells) :=
    (List.rdropWhile_prefix isBlank _).subset member
  rcases mem_join joined with inGap | ⟨padded, among, inPadded⟩
  · exact .inl (by simpa using inGap)
  · rw [← List.map_uncurry_zip_eq_zipWith] at among
    obtain ⟨⟨width, cell⟩, paired, rfl⟩ := List.mem_map.mp among
    have inRow := (List.of_mem_zip paired).2
    rcases List.mem_append.mp inPadded with inCell | inPadding
    · exact .inr ⟨cell, inRow, inCell⟩
    · exact .inl (List.eq_of_mem_replicate inPadding)

end

/-! Reading a line. -/

def shownIn (widths : List Nat) (line : List Char) (column : Nat) : List Char :=
  dropEndWhile (· = ' ')
    ((line.drop (columnStart widths column)).take
      (columnStart widths (column + 1) - columnStart widths column))

def flagOf? (text : List Char) : Option Bool :=
  if text = "true".toList then some true
  else if text = "false".toList then some false
  else none

def readSummary? (widths : List Nat) (line : List Char) : Option Summary :=
  (flagOf? (shownIn widths line 1)).map fun enabled =>
    { name := String.ofList (shownIn widths line 0)
      enabled
      state := String.ofList (shownIn widths line 2) }

theorem columnStart_succ {widths : List Nat} {column width : Nat}
    (found : widths[column]? = some width) :
    columnStart widths (column + 1) = columnStart widths column + (width + 2) := by
  rw [columnStart, columnStart, List.take_add_one, found, List.sum_append]
  simp
  omega

theorem Shows.shownIn_eq {widths : List Nat} {cells : List (List Char)} {line cell : List Char}
    (shows : Shows widths cells line) {column width : Nat} (found : cells[column]? = some cell)
    (foundWidth : widths[column]? = some width) (fits : cell.length ≤ width) :
    shownIn widths line column = dropEndWhile (· = ' ') cell := by
  obtain ⟨inside, _⟩ := List.getElem?_eq_some_iff.mp found
  rw [shownIn]
  by_cases atEnd : column + 1 = cells.length
  · rw [shows.last column cell found atEnd, columnStart_succ foundWidth, List.take_of_length_le]
    omega
  · obtain ⟨padding, ends, same⟩ := shows.within column cell found (by omega)
    have size : columnStart widths (column + 1) - columnStart widths column =
        (cell ++ List.replicate padding ' ').length := by
      rw [List.length_append, List.length_replicate]
      omega
    rw [same, ← List.append_assoc, size, List.take_left, dropEndWhile_padded (by decide)]

/-! What stands in the table. -/

def cellsOf (response : Response) : List (List Char) :=
  [response.name.toList, (flagText response.enabled).toList, response.state.toList]

def columnCells (registry : Registry) (column : Nat) : List (List Char) :=
  (headerRow.cells :: registry.responses.map cellsOf).map fun cells => cells.getD column []

def widthsOf (registry : Registry) : List Nat :=
  columnWidths (headerRow :: registry.summaries.map rowOf)

/-- The text is a table of the rules in columns of these widths: a header, a rule, and a line for
each of the rules, from which its flag and its state can be read, and its name as far as the spaces
behind it. -/
structure Tabulates (registry : Registry) (widths : List Nat) (text : String) : Prop where
  columns : widths.length = headerRow.cells.length
  widest : ∀ column width, widths[column]? = some width →
    IsGreatest {count | ∃ cell ∈ columnCells registry column, cell.length = count} width
  length : (lines text).length = registry.responses.length + 2
  shows : ∃ header rule body, lines text = header :: rule :: body ∧
    Shows widths headerRow.cells header ∧ Shows widths (ruleRow widths).cells rule ∧
      List.Forall₂ (fun response line =>
        Shows widths (cellsOf response) line ∧
          readSummary? widths line = some
            { name := String.ofList (dropEndWhile (· = ' ') response.name.toList)
              enabled := response.enabled
              state := response.state }) registry.responses body
  solid : ∀ line ∈ lines text, EndsSolid line

theorem isGreatest_foldl_max (counts : List Nat) (start : Nat) :
    IsGreatest {count | count ∈ start :: counts} (counts.foldl max start) := by
  induction counts generalizing start with
  | nil => simp [IsGreatest, upperBounds]
  | cons next counts ih =>
      obtain ⟨among, above⟩ := ih (max start next)
      rw [List.foldl_cons]
      constructor
      · rcases List.mem_cons.mp among with largest | later
        · rcases max_choice start next with isStart | isNext
          · rw [largest, isStart]
            exact List.mem_cons_self
          · rw [largest, isNext]
            exact List.mem_cons_of_mem _ List.mem_cons_self
        · exact List.mem_cons_of_mem _ (List.mem_cons_of_mem _ later)
      · intro count member
        have first := above List.mem_cons_self
        rcases List.mem_cons.mp member with rfl | rest
        · omega
        · rcases List.mem_cons.mp rest with rfl | later
          · omega
          · exact above (List.mem_cons_of_mem _ later)

theorem isGreatest_columnWidth (registry : Registry) (column : Nat) :
    IsGreatest {count | ∃ cell ∈ columnCells registry column, cell.length = count}
      (columnWidth (headerRow :: registry.summaries.map rowOf) column) := by
  have counts : ((headerRow :: registry.summaries.map rowOf).map fun row =>
      (row.cells[column]?.getD []).length) = (columnCells registry column).map List.length := by
    simp [columnCells, Registry.summaries, Function.comp_def, rowOf, cellsOf]
  have greatest := isGreatest_foldl_max
    ((registry.responses.map cellsOf).map fun cells => (cells.getD column []).length)
    (headerRow.cells.getD column []).length
  have set : {count | ∃ cell ∈ columnCells registry column, cell.length = count} =
      {count | count ∈ (columnCells registry column).map List.length} := by
    ext count
    simp
  rw [columnWidth, counts, set]
  simpa [columnCells, Function.comp_def] using greatest

/-! The cells of a rule. -/

theorem solid_flagText (flag : Bool) : EndsSolid (flagText flag).toList := by
  cases flag with
  | true => exact ⟨'e', rfl, by decide⟩
  | false => exact ⟨'e', rfl, by decide⟩

theorem flagOf?_flagText (flag : Bool) : flagOf? (flagText flag).toList = some flag := by
  cases flag <;> rfl

theorem solid_state (response : Response) :
    response.state.toList ≠ [] ∧
      ∀ character ∈ response.state.toList, isBlank character = false := by
  unfold Response.state
  cases response.kind with
  | plain action =>
      dsimp only
      exact ⟨by decide, noBlank_of_any (by decide)⟩
  | sendOrReact message react mode =>
      dsimp only
      cases mode <;> exact ⟨by decide, noBlank_of_any (by decide)⟩
  | randomChance action chance => exact solid_chanceText chance

theorem not_mem_cells {response : Response} (oneLine : '\n' ∉ response.name.toList) :
    ∀ cell ∈ cellsOf response, '\n' ∉ cell := by
  have flag : '\n' ∉ (flagText response.enabled).toList := by
    cases response.enabled <;> decide
  have state : '\n' ∉ response.state.toList := by
    intro member
    exact absurd ((solid_state response).2 _ member) (by decide)
  simp [cellsOf, oneLine, flag, state]

/-! The table as a whole. -/

theorem fit_cells {registry : Registry} {cells : List (List Char)}
    (member : cells ∈ headerRow.cells :: registry.responses.map cellsOf) :
    List.Forall₂ (fun width cell => cell.length ≤ width) (widthsOf registry) cells := by
  have fits (column : Nat) : (cells.getD column []).length ≤
      columnWidth (headerRow :: registry.summaries.map rowOf) column :=
    (isGreatest_columnWidth registry column).2
      ⟨_, List.mem_map_of_mem (f := fun cells => cells.getD column []) member, rfl⟩
  have three : ∃ name flag state, cells = [name, flag, state] := by
    rcases List.mem_cons.mp member with rfl | ofRule
    · exact ⟨_, _, _, rfl⟩
    · obtain ⟨response, _, rfl⟩ := List.mem_map.mp ofRule
      exact ⟨_, _, _, rfl⟩
  obtain ⟨name, flag, state, rfl⟩ := three
  exact .cons (fits 0) (.cons (fits 1) (.cons (fits 2) .nil))

theorem line_header (registry : Registry) :
    Shows (widthsOf registry) headerRow.cells (paddedLine (widthsOf registry) headerRow) ∧
      EndsSolid (paddedLine (widthsOf registry) headerRow) :=
  line_shows (fit_cells List.mem_cons_self) ⟨"Status".toList, rfl, 's', rfl, by decide⟩

theorem line_ruleRow (registry : Registry) :
    Shows (widthsOf registry) (ruleRow (widthsOf registry)).cells
        (paddedLine (widthsOf registry) (ruleRow (widthsOf registry))) ∧
      EndsSolid (paddedLine (widthsOf registry) (ruleRow (widthsOf registry))) := by
  let last := columnWidth (headerRow :: registry.summaries.map rowOf) 2
  refine line_shows ?fit ⟨List.replicate last '-', rfl, ?solid⟩
  case fit =>
    have fits (width : Nat) : (List.replicate width '-').length ≤ width := by simp
    exact .cons (fits _) (.cons (fits _) (.cons (fits _) .nil))
  case solid =>
    have wide : "Status".toList.length ≤ last :=
      (isGreatest_columnWidth registry 2).2 ⟨_, List.mem_cons_self, rfl⟩
    refine endsSolid_of_forall (List.ne_nil_of_length_pos ?_) fun character member => ?_
    · rw [List.length_replicate]
      exact Nat.lt_of_lt_of_le (by decide) wide
    · rw [List.eq_of_mem_replicate member]
      decide

theorem line_rule {registry : Registry} {response : Response}
    (member : response ∈ registry.responses) :
    let shown := paddedLine (widthsOf registry) ⟨cellsOf response⟩
    Shows (widthsOf registry) (cellsOf response) shown ∧ EndsSolid shown ∧
      readSummary? (widthsOf registry) shown = some
        { name := String.ofList (dropEndWhile (· = ' ') response.name.toList)
          enabled := response.enabled
          state := response.state } := by
  intro shown
  have fit := fit_cells (List.mem_cons_of_mem headerRow.cells (List.mem_map_of_mem member))
  have solidState : EndsSolid response.state.toList :=
    endsSolid_of_forall (solid_state response).1 (solid_state response).2
  obtain ⟨shows, solid⟩ := line_shows fit ⟨response.state.toList, rfl, solidState⟩
  have spaces (character : Char) (isSpace : decide (character = ' ') = true) :
      isBlank character = true := by
    rw [of_decide_eq_true isSpace]
    decide
  obtain _ | ⟨fitsName, _ | ⟨fitsFlag, _ | ⟨fitsState, _⟩⟩⟩ := fit
  have name : shownIn (widthsOf registry) shown 0 =
      dropEndWhile (· = ' ') response.name.toList :=
    shows.shownIn_eq rfl rfl fitsName
  have flag : shownIn (widthsOf registry) shown 1 = (flagText response.enabled).toList :=
    (shows.shownIn_eq rfl rfl fitsFlag).trans
      ((solid_flagText response.enabled).dropEndWhile_eq spaces)
  have state : shownIn (widthsOf registry) shown 2 = response.state.toList :=
    (shows.shownIn_eq rfl rfl fitsState).trans (solidState.dropEndWhile_eq spaces)
  refine ⟨shows, solid, ?_⟩
  rw [readSummary?, name, flag, state, flagOf?_flagText, String.ofList_toList]
  rfl

def paddedLines (registry : Registry) : List (List Char) :=
  paddedLine (widthsOf registry) headerRow ::
    paddedLine (widthsOf registry) (ruleRow (widthsOf registry)) ::
      registry.responses.map fun response => paddedLine (widthsOf registry) ⟨cellsOf response⟩

def Fits (registry : Registry) : Prop :=
  ∀ width ∈ widthsOf registry, width ≤ greatestWidth

theorem table?_of_fits {registry : Registry} (fits : Fits registry) :
    table? registry = some (String.ofList (join ['\n'] (paddedLines registry))) := by
  have padded : line? (widthsOf registry) = fun row => pure (paddedLine (widthsOf registry) row) := by
    funext row
    exact if_pos (List.all_eq_true.mpr fun width among => decide_eq_true (fits width among))
  have rows : registry.summaries.map rowOf =
      registry.responses.map fun response => ⟨cellsOf response⟩ := by
    simp [Registry.summaries, rowOf, cellsOf]
  have drawn : tableLines? registry.summaries = some (paddedLines registry) := by
    show (headerRow :: ruleRow (widthsOf registry) :: registry.summaries.map rowOf).mapM
      (line? (widthsOf registry)) = _
    rw [padded, List.mapM_pure, rows, List.map_cons, List.map_cons, List.map_map]
    rfl
  rw [table?, drawn, Option.map_some]

theorem table?_of_not_fits {registry : Registry} (unfit : ¬ Fits registry) :
    table? registry = none := by
  have barred : line? (widthsOf registry) headerRow = none := by
    refine if_neg fun all => unfit fun width among => ?_
    exact of_decide_eq_true (List.all_eq_true.mp all width among)
  have drawn : tableLines? registry.summaries = none := by
    show (headerRow :: ruleRow (widthsOf registry) :: registry.summaries.map rowOf).mapM
      (line? (widthsOf registry)) = _
    rw [List.mapM_cons, barred]
    rfl
  rw [table?, drawn, Option.map_none]

theorem fits_iff {registry : Registry} :
    Fits registry ↔ ∀ response ∈ registry.responses,
      response.name.length ≤ greatestWidth ∧ response.state.length ≤ greatestWidth := by
  have column (number : Nat) :
      columnWidth (headerRow :: registry.summaries.map rowOf) number ≤ greatestWidth ↔
        ∀ cell ∈ columnCells registry number, cell.length ≤ greatestWidth := by
    rw [isLUB_le_iff (isGreatest_columnWidth registry number).isLUB]
    simp [upperBounds]
  have flags : ∀ response ∈ registry.responses,
      (flagText response.enabled).toList.length ≤ greatestWidth := by
    intro response _
    cases response.enabled <;> decide
  have headers : "Response".length ≤ greatestWidth ∧ "Enabled".length ≤ greatestWidth ∧
      "Status".length ≤ greatestWidth := by decide
  rw [Fits, widthsOf, columnWidths, List.forall_mem_cons, List.forall_mem_cons,
    List.forall_mem_singleton, column, column, column]
  simp only [columnCells, headerRow, cellsOf, List.map_cons, List.map_map, List.forall_mem_cons,
    List.forall_mem_map, Function.comp_apply, List.getD_cons_zero, List.getD_cons_succ,
    String.length_toList] at flags ⊢
  constructor
  · rintro ⟨⟨_, names⟩, _, _, states⟩ response member
    exact ⟨names response member, states response member⟩
  · intro short
    exact ⟨⟨headers.1, fun response member => (short response member).1⟩,
      ⟨headers.2.1, flags⟩, headers.2.2, fun response member => (short response member).2⟩

theorem lineFeed_not_mem_line {widths : List Nat} {row : Row}
    (clean : ∀ cell ∈ row.cells, '\n' ∉ cell) : '\n' ∉ paddedLine widths row := by
  intro member
  rcases mem_line member with isSpace | ⟨cell, among, inCell⟩
  · exact absurd isSpace (by decide)
  · exact clean cell among inCell

theorem lines_paddedLines {registry : Registry}
    (oneLine : ∀ response ∈ registry.responses, '\n' ∉ response.name.toList) :
    lines (String.ofList (join ['\n'] (paddedLines registry))) = paddedLines registry := by
  have clean : ∀ text ∈ paddedLines registry, '\n' ∉ text := by
    simp only [paddedLines, List.forall_mem_cons, List.forall_mem_map]
    refine ⟨lineFeed_not_mem_line (by decide), lineFeed_not_mem_line ?rule, fun response member =>
      lineFeed_not_mem_line (not_mem_cells (oneLine response member))⟩
    case rule =>
      intro cell among
      obtain ⟨width, _, rfl⟩ := List.mem_map.mp among
      intro inRule
      exact absurd (List.eq_of_mem_replicate inRule) (by decide)
  have nonempty : paddedLines registry ≠ [] := List.cons_ne_nil _ _
  rw [lines, String.toList_ofList, splitWhere_join nonempty clean]

theorem tabulates_paddedLines {registry : Registry}
    (oneLine : ∀ response ∈ registry.responses, '\n' ∉ response.name.toList) :
    Tabulates registry (widthsOf registry)
      (String.ofList (join ['\n'] (paddedLines registry))) := by
  have same := lines_paddedLines oneLine
  obtain ⟨header, solidHeader⟩ := line_header registry
  obtain ⟨rule, solidRule⟩ := line_ruleRow registry
  refine ⟨rfl, ?widest, ?length, ?shows, ?solid⟩
  case widest =>
    intro column width found
    match column, found with
    | 0, rfl => exact isGreatest_columnWidth registry 0
    | 1, rfl => exact isGreatest_columnWidth registry 1
    | 2, rfl => exact isGreatest_columnWidth registry 2
  case length =>
    rw [same]
    simp [paddedLines]
  case shows =>
    refine ⟨_, _, _, same, header, rule, ?_⟩
    rw [List.forall₂_map_right_iff, List.forall₂_same]
    intro response member
    obtain ⟨shows, _, read⟩ := line_rule member
    exact ⟨shows, read⟩
  case solid =>
    rw [same]
    simp only [paddedLines, List.forall_mem_cons, List.forall_mem_map]
    exact ⟨solidHeader, solidRule, fun response member => (line_rule member).2.1⟩

/-- There is a table unless a name or a state is too long. If no name has a line feed, it shows the
rules in columns that are just wide enough, and nothing is lost in it but the spaces at the end of a
name. -/
theorem table_read_back (registry : Registry) :
    (table? registry = none ↔ ∃ response ∈ registry.responses,
      greatestWidth < response.name.length ∨ greatestWidth < response.state.length) ∧
    ∀ text, table? registry = some text →
      (∀ response ∈ registry.responses, '\n' ∉ response.name.toList) →
        ∃ widths, Tabulates registry widths text := by
  by_cases fits : Fits registry
  · rw [table?_of_fits fits]
    refine ⟨⟨fun none => (nomatch none), ?_⟩, ?_⟩
    · rintro ⟨response, member, tooLong⟩
      obtain ⟨name, state⟩ := fits_iff.mp fits response member
      omega
    · rintro _ ⟨⟩ oneLine
      exact ⟨_, tabulates_paddedLines oneLine⟩
  · rw [table?_of_not_fits fits]
    refine ⟨⟨fun _ => ?_, fun _ => rfl⟩, fun _ none => (nomatch none)⟩
    rw [fits_iff] at fits
    push Not at fits
    obtain ⟨response, member, tooLong⟩ := fits
    refine ⟨response, member, ?_⟩
    by_cases name : greatestWidth < response.name.length
    · exact .inl name
    · exact .inr (tooLong (by omega))

def oddlyNamed : Registry where
  responses :=
    [.plain "オカリン" (.anyOf []) .echo, .plain "true     N/A" (.anyOf []) .echo,
      { name := "", trigger := .anyOf [], kind := .randomChance .echo .notANumber
        enabled := false },
      .sendOrReact "Cool Bot   " (.anyOf []) "cool" ⟨1⟩ .react]

theorem oddlyNamed_read_back :
    (∀ response ∈ oddlyNamed.responses, '\n' ∉ response.name.toList) ∧
      ∃ text, table? oddlyNamed = some text ∧ ∃ widths, Tabulates oddlyNamed widths text := by
  have oneLine : ∀ response ∈ oddlyNamed.responses, '\n' ∉ response.name.toList := by decide
  cases drawn : table? oddlyNamed with
  | none => exact absurd ((table_read_back oddlyNamed).1.mp drawn) (by decide)
  | some text => exact ⟨oneLine, text, rfl, (table_read_back oddlyNamed).2 text drawn oneLine⟩

def longNamed : Registry :=
  ⟨[.plain (String.ofList (List.replicate (greatestWidth + 1) 'a')) (.anyOf []) .echo]⟩

theorem longNamed_has_no_table :
    (∀ response ∈ longNamed.responses, '\n' ∉ response.name.toList) ∧
      ¬ ∃ text, table? longNamed = some text ∧
        ∃ widths, Tabulates longNamed widths text := by
  have named : ∀ response ∈ longNamed.responses,
      response.name.toList = List.replicate (greatestWidth + 1) 'a' := by
    intro response member
    rw [List.mem_singleton.mp member]
    exact String.toList_ofList
  refine ⟨fun response member lineFeed => ?_, ?_⟩
  · rw [named response member] at lineFeed
    exact absurd (List.eq_of_mem_replicate lineFeed) (by decide)
  · rintro ⟨text, drawn, _⟩
    have tooLong : table? longNamed = none := by
      refine table?_of_not_fits fun fits => ?_
      have short := (fits_iff.mp fits _ List.mem_cons_self).1
      rw [← String.length_toList, named _ List.mem_cons_self, List.length_replicate] at short
      omega
    rw [tooLong] at drawn
    cases drawn

end Control

end AutoReply
