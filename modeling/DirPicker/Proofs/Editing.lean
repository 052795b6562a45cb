import DirPicker.Proofs.Cycle
import Mathlib.Data.List.Forall2

/-!
# A new filter is asked for when the text is new

A key edits the text, moves the highlight, or leaves the view as it is. Whether an edit has made
another text is seen from the length alone (`View.edit`), which would miss a text of the same
length; but a key only adds to the end of the text or takes from it, so that one of the two texts
begins with the other, and then the length tells them apart (`View.edit_eq`). `Tells` is what an
action tells of the view behind it,

    tells_press : Tells v key (v.press key rows).1 (v.press key rows).2

and `Edits` is a run of keys all of which ask for a new filter. Typing a text is such a run, and so
is erasing it again; the rows may become more or fewer at every key, as they do under a filter.
-/

namespace DirPicker

namespace Key

/-- Whether a key types the character, whatever but Control is held down with it. -/
def Types (key : Key) (c : Char) : Prop := key.code = .char c ∧ key.modifiers.control = false

def Erases (key : Key) : Prop := key.code = .backspace

def Clears (key : Key) : Prop := key.code = .char 'u' ∧ key.modifiers.control = true

/-- `Makes key query query'`: the key makes the second text of the first. -/
inductive Makes (key : Key) (query : Text) : Text → Prop
  | typed {c} : key.Types c → Makes key query (query ++ [c])
  | erased : key.Erases → Makes key query query.dropLast
  | cleared : key.Clears → Makes key query []

/-- What a key makes of the text goes on from it, or is a beginning of it. -/
theorem Makes.extends {key : Key} {query query' : Text} (h : key.Makes query query') :
    query' <+: query ∨ query <+: query' := by
  cases h with
  | typed => exact .inr (List.prefix_append _ _)
  | erased => exact .inl (List.dropLast_prefix _)
  | cleared => exact .inl List.nil_prefix

end Key

namespace View

/-- `Tells v key action next`: what is asked for by the key tells how the view behind it differs
from the one in front of it. -/
structure Tells (v : View) (key : Key) (action : Action) (next : View) : Prop where
  /-- A new filter is asked for exactly if the text is new. -/
  changed : action = .filterChanged ↔ next.query ≠ v.query
  first : action = .filterChanged → next.selected = 0
  /-- Otherwise the highlight moves only for the keys that move it. -/
  moved : action ≠ .filterChanged → next.selected ≠ v.selected → key.MovesUp ∨ key.MovesDown
  kept : action = .accept ∨ action = .cancel → next = v

/-- `Edits v presses next`: the keys lead from the one view to the other, and each of them asks for
a new filter. With each key stands the number of rows that there are when it is pressed. -/
inductive Edits : (v : View) → (presses : List (Key × Nat)) → (next : View) → Prop
  | nil {v} : Edits v [] v
  | cons {v key rows presses next} : (v.press key rows).1 = .filterChanged →
      Edits (v.press key rows).2 presses next → Edits v ((key, rows) :: presses) next

/-! ### One key -/

section

variable {v : View} {key : Key} {query : Text}

theorem press_eq_edit (h : key.Makes v.query query) (rows : Nat) :
    v.press key rows = v.edit query := by
  cases h with
  | typed h => simp [press, h.1, h.2]
  | erased h => simp [press, show key.code = .backspace from h]
  | cleared h => simp [press, h.1, h.2]

/-- A text that is no other asks for nothing and leaves the highlight where it is. -/
theorem press_of_makes (h : key.Makes v.query query) (rows : Nat) :
    v.press key rows = if query = v.query then (.none, v) else (.filterChanged, ⟨query, 0⟩) := by
  rw [press_eq_edit h, edit_eq h.extends]

theorem press_of_new (h : key.Makes v.query query) (hnew : query ≠ v.query) (rows : Nat) :
    v.press key rows = (.filterChanged, ⟨query, 0⟩) := by
  rw [press_of_makes h, if_neg hnew]

/-- A key edits, moves the highlight, or leaves everything as it is. -/
theorem press_cases (v : View) (key : Key) (rows : Nat) :
    (∃ query, key.Makes v.query query) ∨
    ((key.MovesUp ∨ key.MovesDown) ∧
      ∃ selected, v.press key rows = (.none, ⟨v.query, selected⟩)) ∨
    ∃ action, action ≠ .filterChanged ∧ v.press key rows = (action, v) := by
  cases hcode : key.code with
  | escape => exact .inr (.inr ⟨.cancel, by simp [press, hcode]⟩)
  | enter => exact .inr (.inr ⟨.accept, by simp [press, hcode]⟩)
  | up => exact .inr (.inl ⟨.inl (.inl hcode), _, press_up (.inl hcode)⟩)
  | down => exact .inr (.inl ⟨.inr (.inl hcode), _, press_down (.inl hcode)⟩)
  | backspace => exact .inl ⟨_, .erased hcode⟩
  | other => exact .inr (.inr ⟨.none, by simp [press, hcode]⟩)
  -- With Control held down, a letter is a command or nothing at all.
  | char c =>
    cases hcontrol : key.modifiers.control with
    | false => exact .inl ⟨_, .typed ⟨hcode, hcontrol⟩⟩
    | true =>
      by_cases hp : c = 'p'
      · have hup : key.MovesUp := .inr ⟨hp ▸ hcode, hcontrol⟩
        exact .inr (.inl ⟨.inl hup, _, press_up hup⟩)
      by_cases hn : c = 'n'
      · have hdown : key.MovesDown := .inr ⟨hn ▸ hcode, hcontrol⟩
        exact .inr (.inl ⟨.inr hdown, _, press_down hdown⟩)
      by_cases hu : c = 'u'
      · exact .inl ⟨_, .cleared ⟨hu ▸ hcode, hcontrol⟩⟩
      by_cases hc : c = 'c'
      · subst hc
        exact .inr (.inr ⟨.cancel, by simp [press, hcode, hcontrol]⟩)
      · exact .inr (.inr ⟨.none, by simp [press, hcode, hcontrol]⟩)

theorem tells_still {action : Action} (h : action ≠ .filterChanged) : Tells v key action v where
  changed := by simp [h]
  first hchanged := absurd hchanged h
  moved _ hselected := absurd rfl hselected
  kept _ := rfl

/-- Whatever the key, what it asks for tells how it has changed the view. -/
theorem tells_press (v : View) (key : Key) (rows : Nat) :
    Tells v key (v.press key rows).1 (v.press key rows).2 := by
  rcases press_cases v key rows with ⟨query, hmakes⟩ | ⟨hmoves, selected, heq⟩ | ⟨action, hne, heq⟩
  -- A key that edits may leave the text as it is, as Backspace does with no text.
  · by_cases hquery : query = v.query
    · rw [press_of_makes hmakes, if_pos hquery]
      exact tells_still (by simp)
    · rw [press_of_new hmakes hquery]
      exact { changed := by simp [hquery], first := fun _ => rfl, moved := by simp, kept := by simp }
  · rw [heq]
    exact { changed := by simp, first := by simp, moved := fun _ _ => hmoves, kept := by simp }
  · rw [heq]
    exact tells_still hne

theorem query_of_clears (h : key.Clears) (v : View) (rows : Nat) :
    (v.press key rows).2.query = [] := by
  rw [press_of_makes (.cleared h)]
  split
  · next hquery => exact hquery.symm
  · rfl

end

/-! ### Runs of keys -/

section

variable {v : View} {key : Key} {rows : Nat} {presses : List (Key × Nat)} {query : Text}

/-- A run of edits that begins with a new text. -/
theorem Edits.of_makes {next : View} (h : key.Makes v.query query) (hnew : query ≠ v.query)
    (hrest : Edits ⟨query, 0⟩ presses next) : Edits v ((key, rows) :: presses) next := by
  have hpress := press_of_new h hnew rows
  apply Edits.cons
  · rw [hpress]
  · rwa [hpress]

/-- The characters typed are put behind the text in their order. -/
theorem edits_of_types {w : Text} (h : List.Forall₂ Key.Types (presses.map Prod.fst) w) (v : View) :
    ∃ next, Edits v presses next ∧ next.query = v.query ++ w := by
  induction presses generalizing v w with
  | nil =>
    obtain rfl := List.forall₂_nil_left_iff.mp h
    exact ⟨v, .nil, by simp⟩
  | cons press presses ih =>
    obtain ⟨c, w', hc, hw', rfl⟩ := List.forall₂_cons_left_iff.mp h
    obtain ⟨next, hedits, hquery⟩ := ih hw' ⟨v.query ++ [c], 0⟩
    refine ⟨next, .of_makes (.typed hc) (by simp) hedits, ?_⟩
    rw [hquery, List.append_assoc, List.singleton_append]

/-- Each time the last character goes. -/
theorem edits_of_erases {w : Text} (h : ∀ press ∈ presses, press.1.Erases)
    (hlength : presses.length = w.length) (hquery : v.query = query ++ w) :
    ∃ next, Edits v presses next ∧ next.query = query := by
  -- The first key takes away the last character of what is left of `w`.
  induction presses generalizing v w with
  | nil =>
    obtain rfl := List.length_eq_zero_iff.mp hlength.symm
    exact ⟨v, .nil, by rw [hquery, List.append_nil]⟩
  | cons press presses ih =>
    obtain ⟨hpress, hpresses⟩ := List.forall_mem_cons.mp h
    rcases List.eq_nil_or_concat w with rfl | ⟨w, c, rfl⟩
    · simp at hlength
    · have herased : v.query.dropLast = query ++ w := by
        rw [hquery, List.concat_eq_append, ← List.append_assoc, List.dropLast_concat]
      have hrest : presses.length = w.length := by simpa using hlength
      obtain ⟨next, hedits, hnext⟩ := ih hpresses (v := ⟨query ++ w, 0⟩) hrest rfl
      have hmakes : press.1.Makes v.query (query ++ w) := herased ▸ .erased hpress
      exact ⟨next, .of_makes hmakes (by simp [hquery]) hedits, hnext⟩

end

/-- Every view. What a key asks for tells whether it has made a new text, whether the highlight is
on the first row for that, and whether it may have moved otherwise. Typing a text behind the old one
asks for a new filter at each character, and so does erasing it again, which comes back to the old
text; and Control with U leaves no text. -/
theorem reports_edits (v : View) :
    (∀ key rows, Tells v key (v.press key rows).1 (v.press key rows).2) ∧
    (∀ typed w, List.Forall₂ Key.Types (typed.map Prod.fst) w →
      ∃ next, Edits v typed next ∧ next.query = v.query ++ w ∧
        ∀ erasing : List (Key × Nat), (∀ press ∈ erasing, press.1.Erases) →
          erasing.length = w.length → ∃ last, Edits next erasing last ∧ last.query = v.query) ∧
    ∀ key rows, key.Clears → (v.press key rows).2.query = [] := by
  refine ⟨tells_press v, ?_, fun key rows h => query_of_clears h v rows⟩
  intro typed w h
  obtain ⟨next, hedits, hquery⟩ := edits_of_types h v
  refine ⟨next, hedits, hquery, ?_⟩
  intro erasing herases hlength
  exact edits_of_erases herases hlength hquery

/-- Two characters behind another one, of two bytes and of one, each typed with a modifier in a list
of other rows, and erased again; and Control with U, Shift held down too. -/
theorem reports_edits_of_two_bytes :
    let v : View := ⟨['a'], 2⟩
    let typed : List (Key × Nat) :=
      [(⟨.char 'é', { alt := true }⟩, 3), (⟨.char 'b', { shift := true }⟩, 1)]
    let erasing : List (Key × Nat) :=
      [(⟨.backspace, {}⟩, 0), (⟨.backspace, { control := true }⟩, 2)]
    let clearing : Key := ⟨.char 'u', { control := true, shift := true }⟩
    List.Forall₂ Key.Types (typed.map Prod.fst) ['é', 'b'] ∧
      (∀ press ∈ erasing, press.1.Erases) ∧ clearing.Clears ∧
      ∃ next, Edits v typed next ∧ next.query = ['a', 'é', 'b'] ∧
        (∃ last, Edits next erasing last ∧ last.query = ['a']) ∧
        (next.press clearing 1).2.query = [] := by
  intro v typed erasing clearing
  have htyped : List.Forall₂ Key.Types (typed.map Prod.fst) ['é', 'b'] :=
    .cons ⟨rfl, rfl⟩ (.cons ⟨rfl, rfl⟩ .nil)
  have herases : ∀ press ∈ erasing, press.1.Erases := by simp [erasing, Key.Erases]
  have hclears : clearing.Clears := ⟨rfl, rfl⟩
  obtain ⟨-, htypes, -⟩ := reports_edits v
  obtain ⟨next, hedits, hquery, herased⟩ := htypes typed _ htyped
  obtain ⟨-, -, hcleared⟩ := reports_edits next
  exact ⟨htyped, herases, hclears, next, hedits, hquery, herased erasing herases rfl,
    hcleared clearing 1 hclears⟩

end View

end DirPicker
