import ProtectedBoot.Screen.Notice

/-!
# What the screen shows of a board

A notice is stored as its cells, one beside the other (`reportStores_eq_rowStores`), and cells that are
stored into a row of the screen are found there, with nothing else on the screen changed
(`rowCells_putAll_rowStores`). So a board puts its notices into rows of their own, from its first row on,
and a notice that comes when the last row is taken is not to be seen (`shows_displayAll_iff`).
-/

namespace ProtectedBoot.Screen

/-! ## Notices as cells -/

/-- The stores that put cells into a row, from a column on. -/
def cellStores (row column : Nat) (cells : List Cell) : List Store :=
  (cells.zipIdx column).flatMap fun p =>
    [⟨160 * row + 2 * p.2, p.1.byte⟩, ⟨160 * row + 2 * p.2 + 1, p.1.colour⟩]

theorem rowStores_eq_cellStores (row : Nat) (cells : List Cell) :
    rowStores row cells = cellStores row 0 (cells.take 80) := rfl

theorem cellStores_cons (row column : Nat) (c : Cell) (rest : List Cell) :
    cellStores row column (c :: rest) =
      [⟨160 * row + 2 * column, c.byte⟩, ⟨160 * row + 2 * column + 1, c.colour⟩] ++
        cellStores row (column + 1) rest := by
  rw [cellStores, List.zipIdx_cons, List.flatMap_cons]
  rfl

theorem cellStores_append (row column : Nat) (l k : List Cell) :
    cellStores row column (l ++ k) =
      cellStores row column l ++ cellStores row (column + l.length) k := by
  rw [cellStores, List.zipIdx_append, List.flatMap_append]
  rfl

theorem cell_eq (row column : Nat) : cell row column = 160 * row + 2 * column := by
  simp only [cell, columns]
  omega

theorem Cell.ofText_cons (colour : Colour) (b : Byte) (rest : List Byte) :
    Cell.ofText colour (b :: rest) = ⟨b, colour⟩ :: Cell.ofText colour rest := rfl

theorem Cell.length_ofText (colour : Colour) (text : List Byte) :
    (Cell.ofText colour text).length = text.length :=
  List.length_map _

/-- A text is stored as its cells. -/
theorem write_eq_cellStores (row column : Nat) (colour : Colour) (text : List Byte) :
    write row column colour text =
      cellStores row column ((Cell.ofText colour text).take (80 - column)) := by
  induction text generalizing column with
  | nil => simp [write, Cell.ofText, cellStores]
  | cons b rest ih =>
    rw [write]
    by_cases inside : column < columns
    · have room : 80 - column = 80 - (column + 1) + 1 := by
        simp only [columns] at inside
        omega
      rw [if_pos inside, ih, room, Cell.ofText_cons, List.take_succ_cons, cellStores_cons, character,
        cell_eq]
    · have full : 80 - column = 0 := by
        simp only [columns] at inside
        omega
      rw [if_neg inside, full]
      rfl

/-- A mark of seven characters and a label behind it are stored as their cells. -/
theorem write_mark_label (row : Nat) (colour : Colour) {mark : List Byte} (seven : mark.length = 7)
    (label : List Byte) :
    write row 0 colour mark ++ write row (behind 0 mark.length) normal label =
      rowStores row (Cell.ofText colour mark ++ Cell.ofText normal label) := by
  have next : behind 0 mark.length = 7 := by rw [seven]; rfl
  have length := Cell.length_ofText colour mark
  rw [seven] at length
  rw [next, write_eq_cellStores, write_eq_cellStores, rowStores_eq_cellStores, List.take_append,
    cellStores_append, length, List.take_of_length_le (by omega), length]

/-- **A report is stored as the cells of its notice.** -/
theorem reportStores_eq_rowStores (row : Nat) (label : String) (ok : Bool) :
    StatusBoard.reportStores row label ok = rowStores row (Notice.outcome label ok).cells := by
  have good : StatusBoard.goodTag.length = 7 := by decide +kernel
  have bad : StatusBoard.badTag.length = 7 := by decide +kernel
  cases ok with
  | true => exact write_mark_label row success good (encode label)
  | false => exact write_mark_label row failure bad (encode label)

/-- A line is stored as the cells of its notice. -/
theorem write_eq_rowStores (row : Nat) (text : String) :
    write row 0 normal (encode text) = rowStores row (Notice.text text).cells :=
  write_eq_cellStores row 0 normal (encode text)

theorem display_eq_add (b : StatusBoard) (x : Notice) :
    b.display x = b.add (rowStores b.row x.cells) := by
  cases x with
  | outcome label ok => rw [StatusBoard.display, StatusBoard.report, reportStores_eq_rowStores]
  | text t => rw [StatusBoard.display, StatusBoard.line, write_eq_rowStores]

/-- Texts of one colour start with each other as their cells do. -/
theorem Cell.ofText_prefix_iff {colour : Colour} {l k : List Byte} :
    Cell.ofText colour l <+: Cell.ofText colour k ↔ l <+: k := by
  refine ⟨fun h => ?_, fun h => h.map _⟩
  simpa [Cell.ofText, Function.comp_def] using h.map Cell.byte

/-- **A notice of failure is the start of another notice** only if that is one of failure, too, and its
label starts the same way. -/
theorem failure_prefix_iff {step : String} {x : Notice} :
    (Notice.outcome step false).cells <+: x.cells ↔
      ∃ label, x = .outcome label false ∧ encode step <+: encode label := by
  have bad : encode "[FAIL] " = 0x5B :: (encode "[FAIL] ").tail := by decide +kernel
  have starts : (Notice.outcome step false).cells = ⟨0x5B, failure⟩ ::
      (Cell.ofText failure (encode "[FAIL] ").tail ++ Cell.ofText normal (encode step)) := by
    show Cell.ofText failure (encode "[FAIL] ") ++ Cell.ofText normal (encode step) = _
    rw [bad, Cell.ofText_cons, List.cons_append, List.tail_cons]
  cases x with
  | outcome label ok =>
    cases ok with
    | true =>
      have good : encode "[ OK ] " = 0x5B :: (encode "[ OK ] ").tail := by decide +kernel
      rw [starts, Notice.cells, good, Cell.ofText_cons, List.cons_append, List.cons_prefix_cons]
      simp [failure]
    | false =>
      rw [Notice.cells, Notice.cells, List.prefix_append_right_inj, Cell.ofText_prefix_iff]
      simp
  | text t =>
    rw [starts, Notice.cells]
    rcases encode t with _ | ⟨b, rest⟩
    · simp [Cell.ofText]
    · rw [Cell.ofText_cons, List.cons_prefix_cons]
      simp [failure]

/-! ## Cells on the screen -/

namespace TextMemory

variable (m : TextScreen)

theorem putAll_append (l k : List Store) : m.putAll (l ++ k) = (m.putAll l).putAll k :=
  List.foldl_append

theorem byteAt_put (s : Store) (offset : Nat) :
    (m.put s).byteAt offset =
      if offset = s.offset ∧ offset < byteCount then s.byte else m.byteAt offset := by
  rw [put]
  by_cases inside : s.offset < byteCount
  · rw [if_pos inside, byteAt, byteAt, Vector.getElem?_setIfInBounds]
    by_cases here : s.offset = offset
    · subst here
      simp [inside]
    · simp [here, Ne.symm here]
  · rw [if_neg inside, if_neg]
    rintro ⟨rfl, lt⟩
    exact inside lt

/-- Storing one cell. -/
theorem cellAt_putCell {row column : Nat} (c : Cell) (row_lt : row < rows) (column_lt : column < columns)
    (r : Nat) {k : Nat} (k_lt : k < columns) :
    (m.putAll [⟨160 * row + 2 * column, c.byte⟩, ⟨160 * row + 2 * column + 1, c.colour⟩]).cellAt r k =
      if r = row ∧ k = column then c else m.cellAt r k := by
  simp only [rows, columns] at row_lt column_lt k_lt
  have bound : byteCount = 4000 := rfl
  show TextMemory.cellAt ((m.put _).put _) r k = _
  simp only [cellAt, byteAt_put, cell_eq, bound]
  by_cases here : r = row ∧ k = column
  · obtain ⟨rfl, rfl⟩ := here
    rw [if_neg (by omega), if_pos (by omega), if_pos (by omega), if_pos (by omega)]
  · rw [if_neg here, if_neg (by omega), if_neg (by omega), if_neg (by omega), if_neg (by omega)]

/-- Storing cells beside each other. -/
theorem cellAt_putAll_cellStores {row : Nat} (row_lt : row < rows) (cells : List Cell) {column : Nat}
    (inside : column + cells.length ≤ columns) (r : Nat) {k : Nat} (k_lt : k < columns) :
    (m.putAll (cellStores row column cells)).cellAt r k =
      if r = row ∧ column ≤ k then cells[k - column]?.getD (m.cellAt r k) else m.cellAt r k := by
  induction cells generalizing m column with
  | nil =>
    show m.cellAt r k = _
    simp
  | cons c rest ih =>
    rw [List.length_cons] at inside
    rw [cellStores_cons, putAll_append, ih _ (by omega),
      m.cellAt_putCell c row_lt (by omega) r k_lt]
    by_cases same : r = row
    · rcases Nat.lt_trichotomy k column with before | rfl | behind
      · simp [same, Nat.not_le.2 before, Nat.ne_of_lt before, Nat.not_le.2 (Nat.lt_succ_of_lt before)]
      · simp [same, Nat.not_succ_le_self k]
      · have next : k - column = k - (column + 1) + 1 := by omega
        simp [same, Nat.le_of_lt behind, Nat.ne_of_gt behind, Nat.succ_le_of_lt behind, next]
    · simp [same]

/-- **Cells that are stored into a row are found there**, and nothing else changes. -/
theorem cellAt_putAll_rowStores {row : Nat} (row_lt : row < rows) (cells : List Cell) (r : Nat) {k : Nat}
    (k_lt : k < columns) :
    (m.putAll (rowStores row cells)).cellAt r k =
      if r = row then cells[k]?.getD (m.cellAt r k) else m.cellAt r k := by
  have inside : 0 + (cells.take 80).length ≤ columns := by
    rw [Nat.zero_add, List.length_take]
    exact Nat.min_le_left _ _
  rw [rowStores_eq_cellStores, m.cellAt_putAll_cellStores row_lt _ inside r k_lt, Nat.sub_zero,
    List.getElem?_take_of_lt (show k < 80 from k_lt)]
  simp only [Nat.zero_le, and_true]

/-- A row starts with what its first cells are. -/
theorem prefix_rowCells_iff {cells : List Cell} (short : cells.length ≤ columns) (r : Nat) :
    cells <+: m.rowCells r ↔ ∀ k (h : k < cells.length), m.cellAt r k = cells[k] := by
  rw [List.prefix_iff_getElem?]
  refine forall₂_congr fun k k_lt => ?_
  rw [rowCells, List.getElem?_map, List.getElem?_range (Nat.lt_of_lt_of_le k_lt short), Option.map_some,
    Option.some_inj]

theorem cellAt_blank (r k : Nat) : (blank : TextScreen).cellAt r k = ⟨0, 0⟩ := by
  have zero (offset : Nat) : (blank : TextScreen).byteAt offset = 0 := by
    rw [byteAt, blank, Vector.getElem?_replicate]
    split <;> rfl
  rw [cellAt, zero, zero]

end TextMemory

/-! ## Notices on the screen -/

namespace StatusBoard

theorem displayAll_cons (b : StatusBoard) (x : Notice) (rest : List Notice) :
    b.displayAll (x :: rest) = (b.display x).displayAll rest := rfl

theorem displayAll_concat (b : StatusBoard) (notices : List Notice) (x : Notice) :
    b.displayAll (notices ++ [x]) = (b.displayAll notices).display x := by
  rw [displayAll, List.foldl_append]
  rfl

/-- The cells that belong into a row, of notices that start in row `first`. -/
def cellsFor (first : Nat) (notices : List Notice) (r : Nat) : List Cell :=
  if first ≤ r then (notices[r - first]?.map Notice.cells).getD [] else []

/-- **Each notice gets a row of its own**, as long as there are rows. -/
theorem cellAt_displayAll (b : StatusBoard) (notices : List Notice) {r k : Nat} (r_lt : r < rows)
    (k_lt : k < columns) :
    (b.displayAll notices).screen.cellAt r k =
      (cellsFor b.row notices r)[k]?.getD (b.screen.cellAt r k) := by
  -- The board as it is with one notice more is where the others start from.
  induction notices generalizing b with
  | nil =>
    show b.screen.cellAt r k = _
    simp [cellsFor]
  | cons x rest ih =>
    rw [displayAll_cons, ih]
    by_cases room : b.row < rows
    · have shown : (b.display x).screen.cellAt r k =
          if r = b.row then x.cells[k]?.getD (b.screen.cellAt r k) else b.screen.cellAt r k := by
        rw [display_eq_add, add, if_pos room, screen, TextMemory.putAll_append]
        exact TextMemory.cellAt_putAll_rowStores _ room _ r k_lt
      have next : (b.display x).row = b.row + 1 := by
        rw [display_eq_add, add, if_pos room]
      rw [shown, next]
      rcases Nat.lt_trichotomy r b.row with above | rfl | below
      · have not_next : ¬ b.row + 1 ≤ r := by omega
        simp [cellsFor, Nat.not_le.2 above, Nat.ne_of_lt above, not_next]
      · have not_next : ¬ b.row + 1 ≤ b.row := by omega
        simp [cellsFor, not_next]
      · have index : r - b.row = r - (b.row + 1) + 1 := by omega
        simp [cellsFor, Nat.le_of_lt below, Nat.ne_of_gt below, Nat.succ_le_of_lt below, index]
    · have full : b.display x = b := by rw [display_eq_add, add, if_neg room]
      have above : ¬ b.row ≤ r := by omega
      rw [full, cellsFor, cellsFor, if_neg above, if_neg above]

theorem cellsFor_of_getElem? {notices : List Notice} {i : Nat} {x : Notice} (first : Nat)
    (at_i : notices[i]? = some x) : cellsFor first notices (first + i) = x.cells := by
  rw [cellsFor, if_pos (Nat.le_add_right _ _), Nat.add_sub_cancel_left, at_i]
  rfl

/-- **What a board shows that has a blank screen to itself**: its notices from the first row on, as far
as there are rows, each in whole or up to the last column, and nothing else. -/
theorem shows_displayAll_iff (first : Nat) (notices : List Notice) {cells : List Cell}
    (some_cell : cells ≠ []) (lit : ∀ c ∈ cells, c.colour ≠ 0) (short : cells.length ≤ columns) :
    ((startingAt first).displayAll notices).screen.Shows cells ↔
      ∃ i x, first + i < rows ∧ notices[i]? = some x ∧ cells <+: x.cells := by
  have blank (r k : Nat) : (startingAt first).screen.cellAt r k = ⟨0, 0⟩ :=
    TextMemory.cellAt_blank r k
  -- A cell that is not dark was not there from the start.
  have row (r : Nat) (r_lt : r < rows) :
      cells <+: ((startingAt first).displayAll notices).screen.rowCells r ↔
        cells <+: cellsFor first notices r := by
    rw [TextMemory.prefix_rowCells_iff _ short, List.prefix_iff_getElem?]
    refine forall₂_congr fun k k_lt => ?_
    rw [cellAt_displayAll _ _ r_lt (Nat.lt_of_lt_of_le k_lt short), blank]
    show (cellsFor first notices r)[k]?.getD ⟨0, 0⟩ = _ ↔ _
    rcases (cellsFor first notices r)[k]? with _ | c
    · refine iff_of_false (fun dark => ?_) (by simp)
      exact lit _ (List.getElem_mem k_lt) (congrArg Cell.colour dark.symm)
    · exact Option.some_inj.symm
  constructor
  · rintro ⟨r, r_lt, starts⟩
    have starts := (row r r_lt).1 starts
    rw [cellsFor] at starts
    split at starts
    · rename_i le
      rcases at_r : notices[r - first]? with _ | x
      · rw [at_r] at starts
        exact absurd (List.prefix_nil.1 starts) some_cell
      · rw [at_r] at starts
        exact ⟨r - first, x, by omega, at_r, starts⟩
    · exact absurd (List.prefix_nil.1 starts) some_cell
  · rintro ⟨i, x, inside, at_i, starts⟩
    refine ⟨first + i, inside, (row _ inside).2 ?_⟩
    rwa [cellsFor_of_getElem? first at_i]

/-- **A failure is to be seen** where there is a row for it, or for a failure that looks like it. -/
theorem shows_failed_iff (first : Nat) (notices : List Notice) {step : String}
    (short : (encode step).length ≤ 73) :
    ((startingAt first).displayAll notices).screen.Shows (Notice.outcome step false).cells ↔
      ∃ i label, first + i < rows ∧ notices[i]? = some (.outcome label false) ∧
        encode step <+: encode label := by
  have mark : (encode "[FAIL] ").length = 7 := by decide +kernel
  have length : (Notice.outcome step false).cells.length = 7 + (encode step).length := by
    rw [Notice.cells, List.length_append, Cell.length_ofText, Cell.length_ofText, mark]
  have lit : ∀ c ∈ (Notice.outcome step false).cells, c.colour ≠ 0 := by
    simp only [Notice.cells, Cell.ofText, List.mem_append, List.mem_map]
    rintro c (⟨b, -, rfl⟩ | ⟨b, -, rfl⟩)
    · exact (by decide : (0x0C : Colour) ≠ 0)
    · exact (by decide : (0x07 : Colour) ≠ 0)
  rw [shows_displayAll_iff first notices (List.ne_nil_of_length_pos (by omega)) lit
    (by simp only [columns]; omega)]
  simp only [failure_prefix_iff]
  constructor
  · rintro ⟨i, _, inside, at_i, label, rfl, alike⟩
    exact ⟨i, label, inside, at_i, alike⟩
  · rintro ⟨i, label, inside, at_i, alike⟩
    exact ⟨i, _, inside, at_i, label, rfl, alike⟩

end StatusBoard

end ProtectedBoot.Screen
