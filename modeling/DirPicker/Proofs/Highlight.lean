import DirPicker.Proofs.Destination
import DirPicker.Proofs.PlainLines
import DirPicker.Proofs.Scrolling
import DirPicker.Proofs.SessionRun

/-!
# The highlighted row

The user presses Enter on what is seen, so the highlighted row has to be on the screen, and it has
to be the one that is taken. `Shows` tells what a frame shows of the list, and the main statement
says that every frame of a session does so:

    shows_of_run : (first.frames size inputs)[i]? = some drawing → ∃ s, … ∧ drawing = s.frame size ∧
      Shows size s (s.drawn size).offset drawing

Moves of the highlight keep the number of rows, and a new filter puts the highlight on the first
row, so that the window starts there again. Between frames it is therefore enough to know that the
last window was full, or that the highlight is on the first row (`Settled`).
-/

namespace DirPicker

namespace Session

/-- What a frame of a session shows of the list; `first` is the first row in sight. -/
structure Shows (size : Size) (s : Session) (first : Nat) (frame : Frame) : Prop where
  /-- The lines below the prompt show the rows from `first` on, and are blank behind the last. -/
  rows : ∀ i < size.listHeight, frame.lines[i + 1]? =
    some (((s.picker.row? (first + i)).map (Screen.clip size.columns)).getD [])
  /-- The highlighted row is in sight on the only reversed line, and it is the row accepted. -/
  highlighted : 0 < s.picker.size →
    first ≤ s.view.selected ∧ s.view.selected < first + size.listHeight ∧
    frame.reversed = [s.view.selected - first + 1] ∧
    ∃ c, s.picker.shown[s.view.selected]? = some c ∧
      frame.lines[s.view.selected - first + 1]? =
        some (Screen.clip size.columns (c.row s.picker.home)) ∧
      (s.picker.accept s.view.selected).asked = some (s.picker.workspace.expand c.path)
  bare : s.picker.size = 0 → frame.reversed = []
  /-- No line is blank as long as there are rows for it. -/
  full : size.listHeight ≤ s.picker.size → first + size.listHeight ≤ s.picker.size

/-- The window of the last frame is full with the rows there are now, or begins anew because the
highlight is on the first row. -/
def Settled (size : Size) (s : Session) : Prop :=
  size.listHeight ≤ s.picker.size →
    s.view.selected = 0 ∨ s.offset + size.listHeight ≤ s.picker.size

section

variable {p : Picker} {s s' : Session} {size : Size} {input : Input}

/-! ### One frame -/

theorem lines_row {c : Candidate} {home : Home} (h : '\n' ∉ c.row home) :
    Text.lines (c.row home) = [c.row home] := by
  have hne : (c.row home).isEmpty = false := by simp [Candidate.row]
  rw [Text.lines_of_notMem h, hne]
  rfl

theorem lines_of_inStep (h : InStep p s) (hrows : ∀ c ∈ p.all, '\n' ∉ c.row p.home) :
    ∀ row ∈ s.picker.rows, Text.lines row = [row] := by
  intro row hrow
  obtain ⟨c, hc, rfl⟩ := List.mem_map.mp hrow
  rw [h.shown] at hc
  rw [h.list.home]
  exact lines_row (hrows c (Picker.mem_of_mem_narrow hc))

theorem length_rows (q : Picker) : q.rows.length = q.size := List.length_map _

/-- Without rows the list is at its beginning. -/
theorem window_of_empty (h : s.picker.size = 0) :
    Screen.window size s.picker.rows s.offset s.view.selected = ⟨0, 0⟩ := by
  have hrows : s.picker.rows = [] := List.length_eq_zero_iff.mp ((length_rows s.picker).trans h)
  rw [Screen.window, hrows]
  rfl

/-- Drawing moves the list to the nearest window with the highlighted row in it. -/
theorem offset_drawn (hrows : ∀ row ∈ s.picker.rows, Text.lines row = [row])
    (hsize : 0 < size.listHeight) (hrow : s.view.selected < s.picker.size) :
    (s.drawn size).offset =
      Window.nearest size.listHeight (min s.offset (s.picker.size - 1)) s.view.selected := by
  rw [← length_rows] at hrow ⊢
  rw [drawn, Screen.window_eq hrows hsize hrow]

/-- The window of a frame begins at its offset and goes as far as the rows and the lines go. -/
theorem window_drawn (hrows : ∀ row ∈ s.picker.rows, Text.lines row = [row])
    (hsize : 0 < size.listHeight) (hselected : View.OnRow s.picker.size s.view.selected) :
    Screen.window size s.picker.rows s.offset s.view.selected =
      ⟨(s.drawn size).offset,
        min size.listHeight (s.picker.rows.length - (s.drawn size).offset)⟩ := by
  rw [drawn]
  obtain hrow | ⟨hempty, -⟩ := hselected
  · rw [← length_rows] at hrow
    rw [Screen.window_eq hrows hsize hrow]
  · rw [window_of_empty hempty, length_rows, hempty, Nat.zero_sub, Nat.min_zero]

/-- With the highlight on the first row, the list is at its beginning. -/
theorem offset_drawn_of_first (hrows : ∀ row ∈ s.picker.rows, Text.lines row = [row])
    (hsize : 0 < size.listHeight) (h : s.view.selected = 0) : (s.drawn size).offset = 0 := by
  obtain hempty | hpos := Nat.eq_zero_or_pos s.picker.size
  · rw [drawn, window_of_empty hempty]
  · rw [offset_drawn hrows hsize (h ▸ hpos), h]
    exact Nat.le_zero.mp (Window.nearest_le hsize)

/-- A window that was full is full again, and so is one at the beginning. -/
theorem full_drawn (hrows : ∀ row ∈ s.picker.rows, Text.lines row = [row])
    (hsize : 0 < size.listHeight) (hselected : View.OnRow s.picker.size s.view.selected)
    (h : Settled size s) (hfull : size.listHeight ≤ s.picker.size) :
    (s.drawn size).offset + size.listHeight ≤ s.picker.size := by
  obtain hrow | ⟨hempty, -⟩ := hselected
  · obtain hfirst | hlast := h hfull
    · rw [offset_drawn_of_first hrows hsize hfirst]
      omega
    · -- The last offset leaves room for a window, and so does each that ends with a row.
      rw [offset_drawn hrows hsize hrow, Window.nearest]
      omega
  · omega

theorem row?_eq (q : Picker) (i : Nat) : q.row? i = q.rows[i]? := List.getElem?_map.symm

/-- With its window settled, the frame of a session shows the list as it should. -/
theorem shows_frame (hstep : InStep p s) (hlines : ∀ c ∈ p.all, '\n' ∉ c.row p.home)
    (hsize : 0 < size.listHeight) (h : Settled size s) :
    Shows size s (s.drawn size).offset (s.frame size) := by
  have hrows := lines_of_inStep hstep hlines
  -- The window is known in closed form, since each row takes one line.
  have hwindow := window_drawn hrows hsize hstep.selected
  have hline : ∀ i < size.listHeight, (s.frame size).lines[i + 1]? =
      some (((s.picker.row? ((s.drawn size).offset + i)).map
        (Screen.clip size.columns)).getD []) := by
    intro i hi
    rw [row?_eq]
    exact Screen.lines_frame hrows hwindow hi
  refine ⟨hline, ?_, ?_, full_drawn hrows hsize hstep.selected h⟩
  · intro hpos
    have hrow : s.view.selected < s.picker.size := by
      obtain hrow | ⟨hempty, -⟩ := hstep.selected
      · exact hrow
      · omega
    -- By its definition the nearest window has the highlighted row in it.
    have hoffset := offset_drawn hrows hsize hrow
    have hle : (s.drawn size).offset ≤ s.view.selected := hoffset ▸ Window.nearest_le hsize
    have hlt : s.view.selected < (s.drawn size).offset + size.listHeight :=
      hoffset ▸ Window.lt_nearest_add hsize
    obtain ⟨c, hc⟩ : ∃ c, s.picker.shown[s.view.selected]? = some c :=
      ⟨_, List.getElem?_eq_getElem hrow⟩
    refine ⟨hle, hlt, ?_, c, hc, ?_, Picker.accept_asked hstep.opened hc⟩
    · rw [← length_rows] at hrow
      exact Screen.reversed_frame hrows hwindow hrow hle hlt
    · rw [hline _ (by omega), Nat.add_sub_cancel' hle, Picker.row?, CandidateList.row?, hc]
      rfl
  · intro hempty
    simp [frame, Screen.frame, window_of_empty hempty, Window.contains]

/-! ### One input -/

/-- An input leaves the rows alone, or brings a new text and puts the highlight on the first row. -/
theorem settled_handle (hfull : size.listHeight ≤ s.picker.size →
      (s.drawn size).offset + size.listHeight ≤ s.picker.size)
    (hs : (s.drawn size).handle input = .running s') : Settled size s' := by
  obtain ⟨selected, -, rfl⟩ | ⟨query, rfl⟩ := running_cases hs
  · exact fun hle => .inr (hfull hle)
  · exact fun _ => .inl rfl

/-- A new text brings the highlight to the first row. -/
theorem selected_of_new_query (hs : (s.drawn size).handle input = .running s')
    (h : s'.view.query ≠ s.view.query) : s'.view.selected = 0 := by
  obtain ⟨selected, -, rfl⟩ | ⟨query, rfl⟩ := running_cases hs
  · exact absurd rfl h
  · rfl

/-! ### Runs of inputs -/

/-- Through a whole session the window stays settled. -/
theorem settled_run (hlines : ∀ c ∈ p.all, '\n' ∉ c.row p.home) (hsize : 0 < size.listHeight)
    (hstep : InStep p s) (h : Settled size s) {inputs : List Input}
    (hs : s.run size inputs = .running s') : Settled size s' := by
  induction inputs generalizing s with
  | nil =>
    obtain rfl := Next.running.inj hs
    exact h
  | cons input rest ih =>
    rw [run] at hs
    split at hs
    · next next hnext =>
      have hfull := (shows_frame hstep hlines hsize h).full
      exact ih (inStep_handle (inStep_drawn hstep size) hnext) (settled_handle hfull hnext) hs
    · cases hs

/-- The frames are those of the sessions that wait for the inputs one after another. -/
theorem exists_of_frames {inputs : List Input} {i : Nat} {drawing : Frame}
    (h : (s.frames size inputs)[i]? = some drawing) :
    ∃ s', s.run size (inputs.take i) = .running s' ∧ drawing = s'.frame size := by
  induction inputs generalizing s i with
  | nil => cases h
  | cons input rest ih =>
    rw [frames] at h
    -- The first frame waits for the first input; the others are those of the next session.
    cases i with
    | zero => exact ⟨s, rfl, (Option.some.inj h).symm⟩
    | succ i =>
      rw [List.getElem?_cons_succ] at h
      rw [List.take_succ_cons, run]
      cases hnext : (s.drawn size).handle input with
      | running next =>
        rw [hnext] at h
        exact ih h
      | closed result =>
        rw [hnext] at h
        cases h

theorem inStep_start {config : Config} (h : (Picker.start config).picker = some p)
    (calls : List Picker.Call) (hopened : (p.after calls).state = .opened) :
    InStep p (start (p.after calls)) :=
  inStep_of hopened rfl (Picker.sameList_after (Picker.fresh_of_start h).sameList calls)
    (View.onRow_zero _)

end

/-- In a session on a picker that is open, each frame shows the list from some row on, with the
highlighted row among the rows shown. The list starts at its first row, and does so again behind
each change of the filter. A row of printable ASCII is shown up to where the columns end. -/
theorem shows_of_run {config : Config} {p : Picker} (h : (Picker.start config).picker = some p)
    (calls : List Picker.Call) (hopened : (p.after calls).state = .opened)
    (hlines : ∀ c ∈ p.all, '\n' ∉ c.row p.home) {size : Size} (hsize : 0 < size.listHeight)
    (inputs : List Input) :
    let first := start (p.after calls)
    (∀ (i : Nat) drawing, (first.frames size inputs)[i]? = some drawing → ∃ s,
      first.run size (inputs.take i) = .running s ∧ drawing = s.frame size ∧
        Shows size s (s.drawn size).offset drawing) ∧
    (first.drawn size).offset = 0 ∧
    (∀ s, first.run size inputs = .running s → ∀ input s',
      (s.drawn size).handle input = .running s' → s'.picker.filter ≠ s.picker.filter →
        (s'.drawn size).offset = 0) ∧
    ∀ row : Text, (∀ c ∈ row, Unicode.isPlain c = true) →
      Screen.clip size.columns row = Text.trimEnd ' ' (row.take size.columns) := by
  intro first
  have hfirst : InStep p first := inStep_start h calls hopened
  refine ⟨?_, offset_drawn_of_first (lines_of_inStep hfirst hlines) hsize rfl, ?_,
    fun row hrow => Screen.clip_of_plain hrow size.columns⟩
  · intro i drawing hdrawing
    obtain ⟨s, hs, hframe⟩ := exists_of_frames hdrawing
    have hsettled := settled_run hlines hsize hfirst (fun _ => .inl rfl) hs
    refine ⟨s, hs, hframe, ?_⟩
    rw [hframe]
    exact shows_frame (inStep_run hfirst hs) hlines hsize hsettled
  · intro s hs input s' hs' hne
    have hstep := inStep_run hfirst hs
    have hstep' := inStep_handle (inStep_drawn hstep size) hs'
    -- The text typed is the filter, and only a new text is a new filter.
    rw [← hstep'.query, ← hstep.query] at hne
    exact offset_drawn_of_first (lines_of_inStep hstep' hlines) hsize
      (selected_of_new_query hs' hne)

/-- On a terminal with two lines for three rows, a move up from the first row brings the last two
into sight, the last one highlighted. -/
theorem shows_of_run_to_last :
    let config : Config := {
      store := some ⟨.ok ['/', 'w'], fun _ => .ok [], fun _ => .ok ()⟩
      choices := ⟨[['/', 'a'], ['/', 'b'], ['/', 'c']], [], []⟩
      home := ⟨none⟩ }
    ∃ p, (Picker.start config).picker = some p ∧
      ∃ s drawing, (start (p.after [])).run ⟨80, 3⟩ [.press ⟨.up, {}⟩] = .running s ∧
        ((start (p.after [])).frames ⟨80, 3⟩ [.press ⟨.up, {}⟩, .other])[1]? = some drawing ∧
        (s.drawn ⟨80, 3⟩).offset = 1 ∧ drawing.reversed = [2] ∧
        (s.picker.accept s.view.selected).asked = some ['/', 'c'] := by
  intro config
  obtain ⟨p, hp, hopened, hlines, s, drawing, hs, hdrawing, hselected, hworkspace, hshown⟩ : ∃ p,
      (Picker.start config).picker = some p ∧ (p.after []).state = .opened ∧
      (∀ c ∈ p.all, '\n' ∉ c.row p.home) ∧
      ∃ s drawing, (start (p.after [])).run ⟨80, 3⟩ [.press ⟨.up, {}⟩] = .running s ∧
        ((start (p.after [])).frames ⟨80, 3⟩ [.press ⟨.up, {}⟩, .other])[1]? = some drawing ∧
        s.view.selected = 2 ∧ s.picker.workspace = .outside ∧
        s.picker.shown = [⟨['/', 'a'], .pinned⟩, ⟨['/', 'b'], .pinned⟩, ⟨['/', 'c'], .pinned⟩] :=
    ⟨_, rfl, rfl, by decide +kernel, _, _, rfl, rfl, by decide +kernel, by decide +kernel,
      by decide +kernel⟩
  obtain ⟨hframes, -⟩ := shows_of_run hp [] hopened hlines
    (show 0 < Size.listHeight ⟨80, 3⟩ by decide) [.press ⟨.up, {}⟩, .other]
  obtain ⟨s', hs', -, hshows⟩ := hframes 1 drawing hdrawing
  obtain rfl := Next.running.inj (hs.symm.trans hs')
  have hrows : s.picker.size = 3 := congrArg List.length hshown
  -- The last row is in sight and the window is full, which leaves offset 1 only.
  obtain ⟨-, hlt, hreversed, c, hc, -, hasked⟩ := hshows.highlighted (by omega)
  have hfull := hshows.full (by rw [hrows]; decide)
  rw [hselected] at hlt hreversed hc
  rw [hworkspace] at hasked
  rw [hrows] at hfull
  have hoffset : (s.drawn ⟨80, 3⟩).offset = 1 := by
    have hheight : Size.listHeight ⟨80, 3⟩ = 2 := rfl
    rw [hheight] at hlt hfull
    omega
  rw [hoffset] at hreversed
  rw [hshown] at hc
  obtain rfl := Option.some.inj hc
  exact ⟨p, hp, s, drawing, hs, hdrawing, hoffset, hreversed, hasked⟩

end Session

end DirPicker
