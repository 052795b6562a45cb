import DirPicker.Screen
import Mathlib.Data.List.SplitBy

/-!
# Lines of printable ASCII on a terminal

What a terminal shows of a text depends on clusters, columns and cells. For printable ASCII all of
this comes to nothing: each character is a cluster, takes a column and has a cell to itself. The
main statement says that such a line is only cut where the columns end:

    clip_of_plain : Screen.clip columns line = Text.trimEnd ' ' (line.take columns)
-/

namespace DirPicker

namespace Unicode

variable {c last : Char} {t : Text} {f : Follower}

theorem isPlain_iff : isPlain c = true ↔ 0x20 ≤ c.toNat ∧ c.toNat ≤ 0x7E := by
  rw [isPlain, Bool.and_eq_true, decide_eq_true_eq, decide_eq_true_eq]
  exact Iff.rfl

/-! ### Clusters -/

theorem clustersFrom_of_plain (hlast : isPlain last = true) (h : ∀ c ∈ t, isPlain c = true) :
    clustersFrom last [] t = (last :: t).map ([·]) := by
  induction t generalizing last with
  | nil => rfl
  | cons c t ih =>
    obtain ⟨hc, ht⟩ := List.forall_mem_cons.mp h
    have hjoins : joins last [] c = false := by simp [joins, hlast, hc]
    rw [clustersFrom, hjoins, if_neg Bool.false_ne_true, ih hc ht]
    rfl

/-- Among themselves, plain characters are clusters each. -/
theorem clusters_of_plain (h : ∀ c ∈ t, isPlain c = true) : clusters t = t.map ([·]) := by
  cases t with
  | nil => rfl
  | cons c t =>
    obtain ⟨hc, ht⟩ := List.forall_mem_cons.mp h
    exact clustersFrom_of_plain hc ht

/-! ### Columns -/

theorem put_plain (h : isPlain c = true) : Follower.plain.put c = (1, .plain) := by
  obtain ⟨hlow, hhigh⟩ := isPlain_iff.mp h
  have hfeed : c ≠ '\n' := by
    rintro rfl
    cases h
  -- Plain characters are below all that depends on its neighbours.
  have hle : c.toNat ≤ 0xA0 := by omega
  simp [Follower.put, Follower.plain, hle, hfeed]

theorem foldr_put_of_plain (h : ∀ c ∈ t, isPlain c = true) :
    t.foldr (fun c (n, f) => let (m, g) := f.put c; (n + m, g)) ((0 : Int), Follower.plain) =
      ((t.length : Int), Follower.plain) := by
  induction t with
  | nil => rfl
  | cons c t ih =>
    obtain ⟨hc, ht⟩ := List.forall_mem_cons.mp h
    rw [List.foldr_cons, ih ht]
    simp only [put_plain hc, List.length_cons, Int.natCast_succ]

theorem width_of_plain (h : ∀ c ∈ t, isPlain c = true) : width t = t.length := by
  rw [width, foldr_put_of_plain h, Int.toNat_natCast]

theorem width_singleton (h : isPlain c = true) : width [c] = 1 :=
  width_of_plain (List.forall_mem_singleton.mpr h)

theorem control_of_plain (h : isPlain c = true) : control.contains c = false := by
  have hranges : control.ranges = [(0, 0x1F), (0x7F, 0x9F)] := by decide +kernel
  obtain ⟨hlow, hhigh⟩ := isPlain_iff.mp h
  simp [CharSet.contains, CharSet.hasCode, hranges]
  omega

end Unicode

namespace Terminal

open Unicode

variable {t : Text}

/-! ### Cells -/

theorem gatherFirst_of_plain (h : ∀ c ∈ t, isPlain c = true) :
    gatherFirst (t.map ([·])) = t.map ([·]) := by
  -- The first cluster has a column, so that nothing is put in front of it.
  match t with
  | [] => simp [gatherFirst]
  | [c] => simp [gatherFirst]
  | c :: d :: t =>
    have hwidth : width [c] = 1 := width_singleton (h c List.mem_cons_self)
    simp [gatherFirst, hwidth]

theorem fitting_of_plain (h : ∀ c ∈ t, isPlain c = true) (room : Nat) :
    fitting room (t.map ([·])) = (t.take room).map ([·]) := by
  induction t generalizing room with
  | nil => simp [fitting]
  | cons c t ih =>
    obtain ⟨hc, ht⟩ := List.forall_mem_cons.mp h
    rw [List.map_cons, fitting, width_singleton hc]
    cases room with
    | zero => rfl
    | succ room =>
      rw [if_pos (Nat.le_add_left 1 room), Nat.add_sub_cancel, ih ht, List.take_succ_cons,
        List.map_cons]

theorem splitBy_of_plain (h : ∀ c ∈ t, isPlain c = true) :
    ((t.map ([·])).splitBy fun _ next => width next = 0) = t.map fun c => [[c]] := by
  induction t with
  | nil => rfl
  | cons c t ih =>
    obtain ⟨-, ht⟩ := List.forall_mem_cons.mp h
    -- Each cluster takes a column, and so begins a group of its own.
    rw [List.map_cons, ← List.singleton_append, List.splitBy_append, ih ht]
    · rfl
    · intro _ _ next hnext
      obtain ⟨d, hd, rfl⟩ := List.mem_map.mp (List.mem_of_mem_head? hnext)
      simp [width_singleton (ht d hd)]

/-- Each character has a cell to itself. -/
theorem lineCells_of_plain (h : ∀ c ∈ t, isPlain c = true) (columns : Nat) :
    lineCells columns t = (t.take columns).map fun c => some [c] := by
  have htake : ∀ c ∈ t.take columns, isPlain c = true := fun c hc => h c (List.mem_of_mem_take hc)
  rw [lineCells, width_of_plain h]
  split
  · next hlength => simp [List.length_eq_zero_iff.mp hlength]
  -- One character is one cluster, one column and one cell.
  · simp only [clusters_of_plain h, gatherFirst_of_plain h, fitting_of_plain h,
      splitBy_of_plain htake, List.flatMap_map]
    rw [List.map_eq_flatMap]
    refine List.flatMap_congr fun c hc => ?_
    simp [cellsOf, width_singleton (htake c hc)]

/-! ### Showing -/

/-- A plain character fills the cell at the pen, which moves on by one. -/
theorem write_of_plain {c : Char} (h : isPlain c = true) (line : Array Text) (column : Nat) :
    Pen.write ⟨line, column⟩ c = ⟨line.setIfInBounds column [c], column + 1⟩ := by
  have hcolumns : columns c = 1 := by
    rw [columns]
    exact if_pos h
  simp [Pen.write, control_of_plain h, hcolumns]

/-- The characters are written one behind another over what stands there. -/
theorem writeCells_of_plain (h : ∀ c ∈ t, isPlain c = true) {line : Array Text}
    {before behind : List Text} (hline : line.toList = before ++ behind)
    (hlength : t.length ≤ behind.length) (follows : Bool) :
    (writeCells ⟨line, before.length⟩ follows before.length (t.map fun c => some [c])).line.toList =
      before ++ t.map ([·]) ++ behind.drop t.length := by
  induction t generalizing line before behind follows with
  | nil => simp [writeCells, hline]
  | cons c t ih =>
    obtain ⟨hc, ht⟩ := List.forall_mem_cons.mp h
    obtain ⟨cell, behind, rfl⟩ := List.exists_cons_of_length_pos (Nat.zero_lt_of_lt hlength)
    have hset : (line.setIfInBounds before.length [c]).toList = (before ++ [[c]]) ++ behind := by
      rw [Array.toList_setIfInBounds, hline, List.set_append_right _ _ (Nat.le_refl _)]
      simp
    -- The rest is written one cell further on, over one cell less.
    have hrest := ih ht hset (Nat.le_of_succ_le_succ hlength) true
    rw [List.length_append, List.length_singleton] at hrest
    have hpen : (if follows = true then (⟨line, before.length⟩ : Pen)
        else ⟨line, before.length⟩) = ⟨line, before.length⟩ := ite_self _
    simp only [List.map_cons, writeCells, List.foldl_cons, List.foldl_nil]
    rw [hpen, write_of_plain hc, hrest]
    simp

/-- Of plain characters all is seen but the blanks at the end. -/
theorem shown_of_plain (h : ∀ c ∈ t, isPlain c = true) {columns : Nat}
    (hlength : t.length ≤ columns) :
    shown columns (t.map fun c => some [c]) = Text.trimEnd ' ' t := by
  have hstart : (Pen.start columns).line.toList = [] ++ List.replicate columns [' '] :=
    Array.toList_replicate
  have hcells := writeCells_of_plain h hstart (by rwa [List.length_replicate]) false
  rw [List.nil_append, List.drop_replicate] at hcells
  have hflatten : (t.map ([·]) ++ List.replicate (columns - t.length) [' ']).flatten =
      t ++ List.replicate (columns - t.length) ' ' := by
    rw [List.flatten_append, ← List.flatMap_def, List.flatMap_singleton',
      List.flatten_replicate_singleton]
  rw [shown, ← Text.trimEnd_append_replicate ' ' t (columns - t.length), ← hflatten, ← hcells]
  rfl

end Terminal

/-- Of a line of printable ASCII, what is left of its end is shown, without the blanks there. -/
theorem Screen.clip_of_plain {line : Text} (h : ∀ c ∈ line, Unicode.isPlain c = true)
    (columns : Nat) : clip columns line = Text.trimEnd ' ' (line.take columns) := by
  have htake : ∀ c ∈ line.take columns, Unicode.isPlain c = true :=
    fun c hc => h c (List.mem_of_mem_take hc)
  rw [clip, Terminal.lineCells_of_plain h, Terminal.shown_of_plain htake (List.length_take_le ..)]

end DirPicker
