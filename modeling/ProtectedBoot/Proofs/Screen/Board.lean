import ProtectedBoot.Proofs.Screen.Rows

/-!
# A board stays in its rows

To show a notice is to write one or two texts, each of them cut off at the end of the row, the second
from the column on at which the first one ended. As long as the board has a row on the screen, none of
the offsets is a fault (`writeNotice_eq`), and what is stored are the cells of the notice, in the row and
nowhere else (`offset_of_mem_rowStores`). A board shows its notices in rows of their own until it has
none left (`row_displayAll`, `added_of_getElem?`), so nothing is stored behind the screen, and nothing
over a notice that was shown before (`stays_in_rows`).
-/

namespace ProtectedBoot.Screen

/-- Stores that put cells into a row lie in the row. -/
theorem offset_of_mem_rowStores {row : Nat} {cells : List Cell} {s : Store}
    (stored : s ∈ rowStores row cells) : 160 * row ≤ s.offset ∧ s.offset < 160 * row + 160 := by
  rw [rowStores, List.mem_flatMap] at stored
  obtain ⟨⟨c, column⟩, at_column, here⟩ := stored
  have column_lt : column < 80 := by
    rw [List.mk_mem_zipIdx_iff_getElem?] at at_column
    obtain ⟨lt, -⟩ := List.getElem?_eq_some_iff.1 at_column
    rw [List.length_take] at lt
    omega
  simp only [List.mem_cons, List.not_mem_nil, or_false] at here
  rcases here with rfl | rfl
  · show 160 * row ≤ 160 * row + 2 * column ∧ 160 * row + 2 * column < 160 * row + 160
    omega
  · show 160 * row ≤ 160 * row + 2 * column + 1 ∧ 160 * row + 2 * column + 1 < 160 * row + 160
    omega

/-- A mark is seven characters long. -/
theorem Notice.length_cells_outcome (label : String) (ok : Bool) :
    (Notice.outcome label ok).cells.length = 7 + (encode label).length := by
  have good : (encode "[ OK ] ").length = 7 := by decide +kernel
  have bad : (encode "[FAIL] ").length = 7 := by decide +kernel
  cases ok with
  | true => rw [Notice.cells, List.length_append, Cell.length_ofText, Cell.length_ofText, good]
  | false => rw [Notice.cells, List.length_append, Cell.length_ofText, Cell.length_ofText, bad]

namespace StatusBoard

variable (b : StatusBoard)

/-! ## One notice -/

theorem row_display (x : Notice) :
    (b.display x).row = if b.row < rows then b.row + 1 else b.row := by
  rw [display_eq_add, add]
  split <;> rfl

theorem stores_display (x : Notice) :
    (b.display x).stores = b.stores ++ if b.row < rows then rowStores b.row x.cells else [] := by
  rw [display_eq_add, add]
  split
  · rfl
  · exact (List.append_nil _).symm

variable {b}

/-- On the screen, a text is written without a fault. -/
theorem writeText_of_row_lt (room : b.row < rows) (column : Nat) (colour : Colour)
    (text : List Byte) :
    writeText column colour text b =
      (.ok (behind column text.length),
        { b with stores := b.stores ++ write b.row column colour text }) := by
  rw [writeText, writeAt_of_row_lt room]
  rfl

/-- The texts of a notice are stored as its cells. -/
theorem writeTexts_of_row_lt (room : b.row < rows) (x : Notice) :
    ∃ column, writeTexts x b =
      (.ok column, { b with stores := b.stores ++ rowStores b.row x.cells }) := by
  cases x with
  | outcome label ok =>
    have labelled (stores : List Store) (column : Nat) :=
      writeText_of_row_lt (b := ⟨b.row, stores⟩) room column normal (encode label)
    rw [writeTexts, Attempt.bind_apply, writeText_of_row_lt room, ← reportStores_eq_rowStores,
      reportStores, ← List.append_assoc]
    exact ⟨_, labelled _ _⟩
  | text t =>
    rw [writeTexts, ← write_eq_rowStores]
    exact ⟨_, writeText_of_row_lt room _ _ _⟩

variable (b)

/-- **No notice is a fault**, and the board is left as it should be. -/
theorem writeNotice_eq (x : Notice) : writeNotice x b = (.ok (), b.display x) := by
  rw [writeNotice, Attempt.bind_apply]
  show (if b.row < rows then _ else _ : Attempt StatusBoard Empty Unit) b = _
  rw [display_eq_add, add]
  by_cases room : b.row < rows
  · obtain ⟨column, written⟩ := writeTexts_of_row_lt room x
    rw [if_pos room, if_pos room, Attempt.bind_apply, written]
    rfl
  · rw [if_neg room, if_neg room]
    rfl

/-! ## Notices in turn -/

/-- **No sequence of notices is a fault.** -/
theorem writeNotices_eq (notices : List Notice) :
    writeNotices notices b = (.ok (), b.displayAll notices) := by
  induction notices generalizing b with
  | nil => rfl
  | cons x rest ih =>
    rw [writeNotices, Attempt.bind_apply, writeNotice_eq]
    exact ih (b.display x)

/-- The next row, after a number of notices. -/
theorem row_displayAll (notices : List Notice) :
    (b.displayAll notices).row = max b.row (min rows (b.row + notices.length)) := by
  induction notices generalizing b with
  | nil =>
    show b.row = max b.row (min rows (b.row + 0))
    omega
  | cons x rest ih =>
    rw [displayAll_cons, ih, row_display, List.length_cons]
    split <;> omega

variable {notices : List Notice} {k : Nat} {x : Notice}

theorem displayAll_take_succ (at_k : notices[k]? = some x) :
    b.displayAll (notices.take (k + 1)) = (b.displayAll (notices.take k)).display x := by
  rw [List.take_add_one, at_k]
  exact displayAll_concat b _ x

theorem added_eq (at_k : notices[k]? = some x) :
    b.added notices k =
      if (b.displayAll (notices.take k)).row < rows then
        rowStores (b.displayAll (notices.take k)).row x.cells
      else [] := by
  rw [added, displayAll_take_succ b at_k, stores_display, List.drop_left]

/-- **What each notice adds**: its cells in a row of its own, if there is one left. -/
theorem added_of_getElem? (at_k : notices[k]? = some x) :
    b.added notices k = if b.row + k < rows then rowStores (b.row + k) x.cells else [] := by
  obtain ⟨k_lt, -⟩ := List.getElem?_eq_some_iff.1 at_k
  have row := b.row_displayAll (notices.take k)
  rw [List.length_take, Nat.min_eq_left (Nat.le_of_lt k_lt)] at row
  rw [added_eq b at_k]
  by_cases room : b.row + k < rows
  · have here : (b.displayAll (notices.take k)).row = b.row + k := by omega
    rw [here]
  · have full : ¬ (b.displayAll (notices.take k)).row < rows := by omega
    rw [if_neg full, if_neg room]

theorem added_of_length_le (beyond : notices.length ≤ k) : b.added notices k = [] := by
  rw [added, List.take_of_length_le beyond, List.take_of_length_le (Nat.le_succ_of_le beyond)]
  exact List.drop_length

/-- What a notice adds lies in the row that is the notice's. -/
theorem offset_of_mem_added {s : Store} (stored : s ∈ b.added notices k) :
    b.row + k < rows ∧ 160 * (b.row + k) ≤ s.offset ∧ s.offset < 160 * (b.row + k) + 160 := by
  rcases at_k : notices[k]? with _ | x
  · rw [b.added_of_length_le (List.getElem?_eq_none_iff.1 at_k)] at stored
    cases stored
  · rw [b.added_of_getElem? at_k] at stored
    split at stored
    · rename_i room
      exact ⟨room, offset_of_mem_rowStores stored⟩
    · cases stored

/-- All that is stored is what the notices add, in their order. -/
theorem stores_displayAll (notices : List Notice) :
    (b.displayAll notices).stores =
      b.stores ++ (List.range notices.length).flatMap (b.added notices) := by
  have prefixes (j : Nat) (le : j ≤ notices.length) :
      (b.displayAll (notices.take j)).stores =
        b.stores ++ (List.range j).flatMap (b.added notices) := by
    induction j with
    | zero => exact (List.append_nil _).symm
    | succ j ih =>
      have at_j : notices[j]? = some notices[j] := List.getElem?_eq_getElem le
      rw [displayAll_take_succ b at_j, stores_display, ← added_eq b at_j, ih (Nat.le_of_succ_le le),
        List.range_succ, List.flatMap_append, List.append_assoc, List.flatMap_singleton]
  have all := prefixes notices.length (Nat.le_refl _)
  rwa [List.take_length] at all

/-- **A board never stores outside of its rows.** Whatever it is given to show, and in whichever row it
starts, no offset is a fault, and none lies behind the screen; notice number `k` adds its cells, cut off
at the end of the row, to the row that is `k` rows below the first, or nothing if that is not on the
screen; nothing else is stored; no two notices store into one row; and the row of the next notice is the
one behind the last that was shown, or where the board started if that is further down. -/
theorem stays_in_rows (first : Nat) (notices : List Notice) :
    writeNotices notices (startingAt first) = (.ok (), (startingAt first).displayAll notices) ∧
    (∀ s ∈ ((startingAt first).displayAll notices).stores, s.offset < 4000) ∧
    ((startingAt first).displayAll notices).stores =
      (List.range notices.length).flatMap ((startingAt first).added notices) ∧
    (∀ k x, notices[k]? = some x →
      (startingAt first).added notices k =
        if first + k < 25 then rowStores (first + k) x.cells else []) ∧
    (∀ label ok, (Notice.outcome label ok).cells.length = 7 + (encode label).length) ∧
    (∀ j k, j ≠ k → ∀ s ∈ (startingAt first).added notices j,
      ∀ s' ∈ (startingAt first).added notices k, s.offset / 160 ≠ s'.offset / 160) ∧
    ((startingAt first).displayAll notices).row = max first (min 25 (first + notices.length)) := by
  have in_row {k : Nat} {s : Store} (stored : s ∈ (startingAt first).added notices k) :
      first + k < 25 ∧ 160 * (first + k) ≤ s.offset ∧ s.offset < 160 * (first + k) + 160 :=
    offset_of_mem_added _ stored
  have all : ((startingAt first).displayAll notices).stores =
      (List.range notices.length).flatMap ((startingAt first).added notices) :=
    stores_displayAll (startingAt first) notices
  refine ⟨writeNotices_eq _ notices, ?inside, all, fun k x at_k => added_of_getElem? _ at_k,
    Notice.length_cells_outcome, ?apart, row_displayAll _ notices⟩
  case inside =>
    intro s stored
    rw [all, List.mem_flatMap] at stored
    obtain ⟨k, -, here⟩ := stored
    have := in_row here
    omega
  case apart =>
    intro j k different s at_j s' at_k same
    have := in_row at_j
    have := in_row at_k
    omega

/-- Two notices for the last row. -/
theorem stays_in_last_row :
    (startingAt 24).added [.outcome "last" false, .text "dropped"] 0 =
      rowStores 24 (Notice.outcome "last" false).cells ∧
    (startingAt 24).added [.outcome "last" false, .text "dropped"] 1 = [] ∧
    ((startingAt 24).displayAll [.outcome "last" false, .text "dropped"]).row = 25 := by
  obtain ⟨-, -, -, adds, -, -, row⟩ := stays_in_rows 24 [.outcome "last" false, .text "dropped"]
  exact ⟨adds 0 _ rfl, adds 1 _ rfl, row⟩

end StatusBoard

end ProtectedBoot.Screen
