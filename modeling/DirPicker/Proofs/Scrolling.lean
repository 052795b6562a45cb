import DirPicker.Proofs.LineEnds
import DirPicker.Screen

/-!
# Scrolling rows of one line each

Where each row takes one line, a window of the list is given by its first row, for as many rows
follow as there are lines and rows. `Window.nearest` is that first row in one expression, and
`Window.scroll_replicate` says that scrolling comes to it:

    scroll height (List.replicate n 1) offset selected =
      let first := nearest height (min offset (n - 1)) selected
      ⟨first, min height (n - first)⟩

From it follows what a frame shows: `Screen.lines_frame` tells the lines, and
`Screen.reversed_frame` the one that is reversed.
-/

namespace DirPicker

namespace Window

variable {height n offset selected : Nat}

/-- The first row of the window of `height` rows that has row `selected` in it and begins as near to
row `offset` as it can. -/
def nearest (height offset selected : Nat) : Nat :=
  max (min offset selected) (selected + 1 - height)

/-! ### Windows -/

/-- The nearest window begins no later than the row. -/
theorem nearest_le (hheight : 0 < height) : nearest height offset selected ≤ selected := by
  unfold nearest
  omega

/-- The nearest window ends behind the row. -/
theorem lt_nearest_add (hheight : 0 < height) :
    selected < nearest height offset selected + height := by
  unfold nearest
  omega

theorem fitting_replicate (height n : Nat) :
    fitting height (List.replicate n 1) = min height n := by
  induction n generalizing height with
  | zero => simp [fitting]
  | succ n ih =>
    rw [List.replicate_succ, fitting]
    split
    · rw [ih]
      omega
    · omega

theorem startingAt_replicate (height n first : Nat) :
    startingAt height (List.replicate n 1) first = ⟨first, min height (n - first)⟩ := by
  rw [startingAt, List.drop_replicate, fitting_replicate]

theorem endingAt_replicate (hheight : 0 < height) (hrow : selected < n)
    (hbehind : offset + height ≤ selected) :
    endingAt height (List.replicate n 1) offset selected = ⟨selected + 1 - height, height⟩ := by
  have hcount : fitting height
      (((List.replicate n 1).take (selected + 1)).drop offset).reverse = height := by
    rw [List.take_replicate, List.drop_replicate, List.reverse_replicate, fitting_replicate]
    omega
  rw [endingAt, hcount, Nat.min_eq_right (by omega)]

/-- Rows of one line each: the window begins as near to the old one as it can, once that has been
put back among the rows. -/
theorem scroll_replicate (hheight : 0 < height) (hrow : selected < n) :
    scroll height (List.replicate n 1) offset selected =
      let first := nearest height (min offset (n - 1)) selected
      ⟨first, min height (n - first)⟩ := by
  simp only [scroll, List.length_replicate, startingAt_replicate, contains]
  generalize min offset (n - 1) = offset
  -- The row may stand above the old window, in it, or behind it.
  split
  · next habove =>
    have hfirst : nearest height offset selected = selected := by
      unfold nearest
      omega
    rw [hfirst]
  · next habove =>
    split
    · next hsame =>
      simp only [Bool.and_eq_true, decide_eq_true_eq] at hsame
      have hfirst : nearest height offset selected = offset := by
        unfold nearest
        omega
      rw [hfirst]
    · next hsame =>
      simp only [Bool.and_eq_true, decide_eq_true_eq, not_and, Nat.not_lt] at hsame
      have hbehind : offset + height ≤ selected := by omega
      have hfirst : nearest height offset selected = selected + 1 - height := by
        unfold nearest
        omega
      rw [endingAt_replicate hheight hrow hbehind, hfirst]
      congr 1
      omega

end Window

namespace Screen

variable {size : Size} {rows : List Text} {query : Text} {offset selected first : Nat}

/-! ### Frames -/

/-- Rows of one line have all the same height. -/
theorem heights_eq_replicate (h : ∀ row ∈ rows, Text.lines row = [row]) :
    heights rows = List.replicate rows.length 1 := by
  rw [heights, List.eq_replicate_iff, List.length_map]
  refine ⟨rfl, fun n hn => ?_⟩
  obtain ⟨row, hrow, rfl⟩ := List.mem_map.mp hn
  rw [h row hrow, List.length_singleton]

theorem flatMap_lines (h : ∀ row ∈ rows, Text.lines row = [row]) :
    rows.flatMap Text.lines = rows := by
  induction rows with
  | nil => rfl
  | cons row rows ih =>
    obtain ⟨hrow, hrows⟩ := List.forall_mem_cons.mp h
    rw [List.flatMap_cons, hrow, ih hrows, List.singleton_append]

/-- With rows of one line, the nearest window is in sight, as far as there are rows. -/
theorem window_eq (h : ∀ row ∈ rows, Text.lines row = [row]) (hsize : 0 < size.listHeight)
    (hrow : selected < rows.length) :
    window size rows offset selected =
      let first := Window.nearest size.listHeight (min offset (rows.length - 1)) selected
      ⟨first, min size.listHeight (rows.length - first)⟩ := by
  have hrows : rows.isEmpty = false := by
    cases rows with
    | nil => simp at hrow
    | cons row rows => rfl
  rw [window, hrows, if_neg Bool.false_ne_true, if_neg (Nat.ne_of_gt hsize),
    heights_eq_replicate h, Window.scroll_replicate hsize hrow]

/-- The lines of the rows in a window. -/
theorem length_rowLines (rows : List Text) (f : Text → Text) (height first : Nat) :
    (((rows.drop first).take (min height (rows.length - first))).map f).length =
      min height (rows.length - first) := by
  rw [List.length_map, List.length_take, List.length_drop]
  omega

/-- The list lines show the rows in the window, and are blank behind the last row. -/
theorem lines_frame (h : ∀ row ∈ rows, Text.lines row = [row])
    (hwindow : window size rows offset selected =
      ⟨first, min size.listHeight (rows.length - first)⟩) {i : Nat} (hi : i < size.listHeight) :
    (frame size query rows offset selected).lines[i + 1]? =
      some (((rows[first + i]?).map (clip size.columns)).getD []) := by
  have hlines : size.lines = size.listHeight + 1 := by
    rw [Size.listHeight] at hi ⊢
    split at hi
    · cases hi
    · next hcolumns =>
      rw [if_neg hcolumns]
      omega
  have hshown : ∀ row ∈ (rows.drop first).take (min size.listHeight (rows.length - first)),
      Text.lines row = [row] :=
    fun row hrow => h row (List.mem_of_mem_drop (List.mem_of_mem_take hrow))
  have hlength := length_rowLines rows (clip size.columns) size.listHeight first
  simp only [frame, hwindow, flatMap_lines hshown]
  rw [hlines, List.take_succ_cons, List.take_of_length_le (by omega), List.cons_append,
    List.getElem?_cons_succ, List.length_cons, hlength, List.getElem?_append, hlength]
  -- A line below the prompt is that of a row in the window, or one of the blank lines behind.
  split
  · next hrow =>
    rw [List.getElem?_map, List.getElem?_take_of_lt hrow, List.getElem?_drop,
      List.getElem?_eq_getElem (by omega)]
    rfl
  · next hblank =>
    rw [List.getElem?_replicate_of_lt (by omega), List.getElem?_eq_none (by omega)]
    rfl

theorem total_replicate (n : Nat) : total (List.replicate n 1) = n := by
  induction n with
  | zero => rfl
  | succ n ih => exact (congrArg (1 + ·) ih).trans (Nat.add_comm 1 n)

/-- The highlighted row takes the only reversed line. -/
theorem reversed_frame (h : ∀ row ∈ rows, Text.lines row = [row])
    (hwindow : window size rows offset selected =
      ⟨first, min size.listHeight (rows.length - first)⟩) (hrow : selected < rows.length)
    (hle : first ≤ selected) (hlt : selected < first + size.listHeight) :
    (frame size query rows offset selected).reversed = [selected - first + 1] := by
  have hcontains : Window.contains ⟨first, min size.listHeight (rows.length - first)⟩ selected =
      true := by
    simp only [Window.contains, Bool.and_eq_true, decide_eq_true_eq]
    omega
  -- The rows above the highlighted one take one line each.
  have habove : ∀ row ∈ ((rows.drop first).take (min size.listHeight (rows.length - first))).take
      (selected - first), Text.lines row = [row] :=
    fun row hrow => h row (List.mem_of_mem_drop (List.mem_of_mem_take (List.mem_of_mem_take hrow)))
  have hlength : (((rows.drop first).take (min size.listHeight (rows.length - first))).take
      (selected - first)).length = selected - first := by
    simp only [List.length_take, List.length_drop]
    omega
  have hheight : (heights rows)[selected]? = some 1 := by
    rw [heights_eq_replicate h, List.getElem?_replicate_of_lt hrow]
  simp only [frame, hwindow, hcontains, if_true, hheight, Option.getD_some]
  rw [heights_eq_replicate habove, hlength, total_replicate, List.range'_one]

end Screen

end DirPicker
