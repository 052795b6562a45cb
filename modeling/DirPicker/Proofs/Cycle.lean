import DirPicker.View
import Mathlib.Data.Int.Init

/-!
# The highlight moves in a cycle

The arrows, and Control with P or N, move the highlight by one row and ask for nothing. At either end
of the list they go on at the other, each in its own way: `View.rowBelow` takes a remainder, and
`View.rowAbove` puts the last row in the place of a row above the first. Counted modulo the number of
rows both are steps of one,

    cast_rowBelow : (rowBelow rows selected : Int) = (selected + 1) % rows
    cast_rowAbove : (rowAbove rows selected : Int) = (selected - 1) % rows

and the main statement adds the steps up: behind a run of `ups` moves up and `downs` moves down, in
any order, the highlighted row is `(selected + downs - ups) % rows`.
-/

namespace DirPicker

/-- Whether a key moves the highlight up, whatever else is held down with it. -/
def Key.MovesUp (key : Key) : Prop :=
  key.code = .up ∨ key.code = .char 'p' ∧ key.modifiers.control = true

/-- Whether a key moves the highlight down, whatever else is held down with it. -/
def Key.MovesDown (key : Key) : Prop :=
  key.code = .down ∨ key.code = .char 'n' ∧ key.modifiers.control = true

/-- `Moves keys ups downs`: of the keys, `ups` move the highlight up and `downs` move it down, and
none does anything else. -/
inductive Moves : (keys : List Key) → (ups downs : Nat) → Prop
  | nil : Moves [] 0 0
  | up {key keys ups downs} : key.MovesUp → Moves keys ups downs → Moves (key :: keys) (ups + 1) downs
  | down {key keys ups downs} : key.MovesDown → Moves keys ups downs →
      Moves (key :: keys) ups (downs + 1)

namespace View

def after (v : View) (rows : Nat) : List Key → View
  | [] => v
  | key :: keys => (v.press key rows).2.after rows keys

/-- What the keys of a run ask of the picker, one by one. -/
def asks (v : View) (rows : Nat) : List Key → List Action
  | [] => []
  | key :: keys => (v.press key rows).1 :: (v.press key rows).2.asks rows keys

/-! ### One key -/

section

variable {v : View} {key : Key} {rows selected : Nat}

theorem press_up (h : key.MovesUp) :
    v.press key rows = (.none, ⟨v.query, rowAbove rows v.selected⟩) := by
  rcases h with h | ⟨h, hcontrol⟩
  · simp [press, h]
  · simp [press, h, hcontrol]

theorem press_down (h : key.MovesDown) :
    v.press key rows = (.none, ⟨v.query, rowBelow rows v.selected⟩) := by
  rcases h with h | ⟨h, hcontrol⟩
  · simp [press, h]
  · simp [press, h, hcontrol]

theorem cast_rowAbove (h : selected < rows) :
    (rowAbove rows selected : Int) = ((selected : Int) - 1) % rows := by
  have hrows : rows ≠ 0 := Nat.ne_zero_of_lt h
  rw [rowAbove, if_neg hrows]
  split
  · next hfirst =>
    -- One above the first row is the last row, a whole round further down.
    calc ((rows - 1 : Nat) : Int)
        = (rows - 1 : Nat) % (rows : Int) := (Int.emod_eq_of_lt (by omega) (by omega)).symm
      _ = (((selected : Int) - 1) + rows) % rows := by congr 1; omega
      _ = ((selected : Int) - 1) % rows := Int.add_emod_right _ _
  · next hfirst =>
    rw [Int.emod_eq_of_lt (by omega) (by omega)]
    omega

theorem cast_rowBelow (h : selected < rows) :
    (rowBelow rows selected : Int) = ((selected : Int) + 1) % rows := by
  rw [rowBelow, if_neg (Nat.ne_zero_of_lt h), Int.natCast_emod]
  rfl

theorem rowAbove_lt (h : selected < rows) : rowAbove rows selected < rows := by
  rw [rowAbove, if_neg (Nat.ne_zero_of_lt h)]
  split <;> omega

theorem rowBelow_lt (h : 0 < rows) (selected : Nat) : rowBelow rows selected < rows := by
  rw [rowBelow, if_neg (Nat.ne_zero_of_lt h)]
  exact Nat.mod_lt _ h

end

/-! ### Runs of keys -/

section

variable {keys before : List Key} {ups downs rows : Nat}

/-- Keys that move the highlight ask for nothing. -/
theorem asks_of_moves (h : Moves keys ups downs) (v : View) (rows : Nat) :
    v.asks rows keys = List.replicate keys.length .none := by
  induction h generalizing v with
  | nil => rfl
  | up hkey _ ih => rw [asks, press_up hkey, ih, List.length_cons, List.replicate_succ]
  | down hkey _ ih => rw [asks, press_down hkey, ih, List.length_cons, List.replicate_succ]

/-- Keys that move the highlight leave the text alone. -/
theorem query_after_of_moves (h : Moves keys ups downs) (v : View) (rows : Nat) :
    (v.after rows keys).query = v.query := by
  induction h generalizing v with
  | nil => rfl
  | up hkey _ ih => rw [after, press_up hkey, ih]
  | down hkey _ ih => rw [after, press_down hkey, ih]

/-- Of a run of moves only the numbers count, not the order. -/
theorem cast_selected_after (h : Moves keys ups downs) {v : View} (hv : v.selected < rows) :
    ((v.after rows keys).selected : Int) = ((v.selected : Int) + downs - ups) % rows := by
  -- The first key steps by one modulo the rows, and the other keys go on from the row it comes to.
  induction h generalizing v with
  | nil =>
    rw [Int.emod_eq_of_lt (by omega) (by omega)]
    simp [after]
  | @up _ _ ups downs hkey _ ih =>
    rw [after, press_up hkey, ih (rowAbove_lt hv), cast_rowAbove hv, Int.add_sub_assoc,
      Int.emod_add_emod]
    congr 1
    omega
  | @down _ _ ups downs hkey _ ih =>
    have hrow := rowBelow_lt (Nat.zero_lt_of_lt hv) v.selected
    rw [after, press_down hkey, ih hrow, cast_rowBelow hv, Int.add_sub_assoc, Int.emod_add_emod]
    congr 1
    omega

theorem selected_after_lt (h : Moves keys ups downs) {v : View} (hv : v.selected < rows) :
    (v.after rows keys).selected < rows := by
  have hcast := cast_selected_after h hv
  have hlt := Int.emod_lt_of_pos ((v.selected : Int) + downs - ups) (show 0 < (rows : Int) by omega)
  omega

/-- As many moves up as down come back to where they began. -/
theorem after_of_balanced (h : Moves keys ups ups) {v : View} (hv : v.selected < rows) :
    v.after rows keys = v := by
  have hcast := cast_selected_after h hv
  rw [Int.add_sub_cancel, Int.emod_eq_of_lt (by omega) (by omega)] at hcast
  rw [View.mk.injEq]
  exact ⟨query_after_of_moves h v rows, by omega⟩

/-- Without rows the highlight is at 0 behind the first move, and stays there. -/
theorem selected_after_no_rows (h : Moves keys ups downs) (hkeys : keys ≠ []) (v : View) :
    (v.after 0 keys).selected = 0 := by
  -- The first key comes to 0 from anywhere, hence the last one does, too.
  induction h generalizing v with
  | nil => exact absurd rfl hkeys
  | @up _ keys _ _ hkey _ ih =>
    rw [after, press_up hkey]
    cases keys with
    | nil => rfl
    | cons => exact ih (by simp) _
  | @down _ keys _ _ hkey _ ih =>
    rw [after, press_down hkey]
    cases keys with
    | nil => rfl
    | cons => exact ih (by simp) _

/-- Each beginning of a run of moves is one too. -/
theorem exists_moves_of_prefix (h : Moves keys ups downs) (hbefore : before <+: keys) :
    ∃ ups downs, Moves before ups downs := by
  induction h generalizing before with
  | nil =>
    rw [List.prefix_nil] at hbefore
    exact ⟨0, 0, hbefore ▸ .nil⟩
  | up hkey _ ih =>
    rcases List.prefix_cons_iff.mp hbefore with rfl | ⟨rest, rfl, hrest⟩
    · exact ⟨0, 0, .nil⟩
    · obtain ⟨_, _, hmoves⟩ := ih hrest
      exact ⟨_, _, .up hkey hmoves⟩
  | down hkey _ ih =>
    rcases List.prefix_cons_iff.mp hbefore with rfl | ⟨rest, rfl, hrest⟩
    · exact ⟨0, 0, .nil⟩
    · obtain ⟨_, _, hmoves⟩ := ih hrest
      exact ⟨_, _, .down hkey hmoves⟩

end

/-- Keys that move the highlight ask for nothing and leave the text alone. From a row of the list
they come to the row that all steps together lead to around the cycle, hence back to it if there are
as many up as down, and they are on a row all the way. Without rows they end at 0. -/
theorem selected_of_moves {keys : List Key} {ups downs : Nat} (h : Moves keys ups downs) (v : View)
    (rows : Nat) :
    v.asks rows keys = List.replicate keys.length .none ∧
    (v.after rows keys).query = v.query ∧
    (v.selected < rows →
      ((v.after rows keys).selected : Int) = ((v.selected : Int) + downs - ups) % rows ∧
      (ups = downs → v.after rows keys = v) ∧
      ∀ before, before <+: keys → (v.after rows before).selected < rows) ∧
    (rows = 0 → keys ≠ [] → (v.after rows keys).selected = 0) := by
  refine ⟨asks_of_moves h v rows, query_after_of_moves h v rows, ?_, ?_⟩
  · intro hv
    refine ⟨cast_selected_after h hv, ?_, ?_⟩
    · rintro rfl
      exact after_of_balanced h hv
    · intro before hbefore
      obtain ⟨_, _, hmoves⟩ := exists_moves_of_prefix h hbefore
      exact selected_after_lt hmoves hv
  · rintro rfl hkeys
    exact selected_after_no_rows h hkeys v

/-- Across both ends of three rows: up from the first, down twice with another modifier held, and up
twice. -/
theorem selected_of_moves_across_ends :
    let keys : List Key := [⟨.up, {}⟩, ⟨.down, { shift := true }⟩,
      ⟨.char 'n', { control := true, alt := true }⟩, ⟨.char 'p', { control := true }⟩, ⟨.up, {}⟩]
    let v : View := ⟨['q'], 0⟩
    Moves keys 3 2 ∧ v.selected < 3 ∧ ((v.after 3 keys).selected : Int) = (0 + 2 - 3) % 3 ∧
      (v.after 3 keys).selected = 2 := by
  intro keys v
  have hmoves : Moves keys 3 2 :=
    .up (.inl rfl) (.down (.inl rfl) (.down (.inr ⟨rfl, rfl⟩) (.up (.inr ⟨rfl, rfl⟩)
      (.up (.inl rfl) .nil))))
  have hv : v.selected < 3 := by decide
  obtain ⟨-, -, hrow, -⟩ := selected_of_moves hmoves v 3
  obtain ⟨hcast, -, -⟩ := hrow hv
  have hlast : ((v.after 3 keys).selected : Int) = (0 + 2 - 3) % 3 := hcast
  exact ⟨hmoves, hv, hlast, by omega⟩

end View

end DirPicker
