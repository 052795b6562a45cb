import DirPicker.Proofs.Exclusion

/-!
# The kind for the root

An entry recorded under a workspace begins with the kind, and the directory it stands for with the
root. `Path.Extends` tells what either has behind that. The main statement says that expanding an
entry exchanges the one for the other and keeps what is behind:

    expand_exchanges : Path.Extends w.kind rest path → w.expand path = w.root ++ rest

so that the entries recorded under the workspace and the directories at the root or below it go
together one by one, whatever the kind and the root look like. Everything else is left as it is.

What is behind the kind is found by the length of the kind. As a path is kept in UTF-8 and cut at a
byte, the statement speaks of the bytes too: behind those of the kind, the bytes of a text begin.
-/

namespace DirPicker

/-- `Extends base rest path`: the path is `base` or lies below it, and has `rest` behind it. -/
def Path.Extends (base rest path : Text) : Prop :=
  path = base ++ rest ∧ (rest = [] ∨ ∃ below, rest = '/' :: below)

/-! ### Bytes -/

/-- The bytes of a text are those of its UTF-8 form. -/
theorem Text.byteCount_eq_size (t : Text) : byteCount t = t.utf8Encode.size := by
  induction t with
  | nil => rfl
  | cons c t ih =>
    have hfirst : [c].utf8Encode.size = c.utf8Size := by
      rw [List.utf8Encode_singleton, List.size_toByteArray, String.length_utf8EncodeChar]
    rw [List.utf8Encode_cons, ByteArray.size_append, hfirst, ← ih]
    rfl

/-- The bytes behind the first part of a text are those of the second part. -/
theorem Text.extract_append (front rest : Text) :
    (front ++ rest).utf8Encode.extract (byteCount front) (front ++ rest).utf8Encode.size =
      rest.utf8Encode := by
  rw [List.utf8Encode_append]
  apply ByteArray.extract_append_eq_right
  · exact byteCount_eq_size front
  · exact ByteArray.size_append

namespace Workspace

/-! ### Entries and directories -/

section

variable {w : Workspace} {path rest : Text}

/-- The byte comparisons of `contains` ask whether the path goes on from the kind with a whole
segment. -/
theorem contains_iff_extends (hkind : w.kind ≠ []) :
    w.contains path = true ↔ ∃ rest, Path.Extends w.kind rest path := by
  rw [contains_iff, RecordedUnder, and_iff_right hkind]
  -- What follows the kind is nothing, or begins with a separator.
  constructor
  · intro h
    rcases h with hpath | ⟨below, hpath⟩
    · exact ⟨[], by rw [hpath, List.append_nil], .inl rfl⟩
    · exact ⟨'/' :: below, hpath, .inr ⟨below, rfl⟩⟩
  · rintro ⟨rest, hpath, hrest | ⟨below, hrest⟩⟩
    · rw [hrest, List.append_nil] at hpath
      exact .inl hpath
    · rw [hrest] at hpath
      exact .inr ⟨below, hpath⟩

theorem not_contains_of_kind_eq_nil (h : w.kind = []) (path : Text) : w.contains path = false := by
  rw [contains, isNone, h]
  rfl

/-- The cut by bytes takes off just the kind, and the root takes its place. -/
theorem expand_of_extends (hkind : w.kind ≠ []) (h : Path.Extends w.kind rest path) :
    w.expand path = w.root ++ rest := by
  have hcontains := (contains_iff_extends hkind).mpr ⟨rest, h⟩
  rw [expand, if_pos hcontains, h.1, List.drop_left]

/-- Different paths recorded under the workspace stay different. -/
theorem expand_injOn (hkind : w.kind ≠ []) {path' : Text} (h : w.contains path = true)
    (h' : w.contains path' = true) (heq : w.expand path = w.expand path') : path = path' := by
  obtain ⟨rest, hrest⟩ := (contains_iff_extends hkind).mp h
  obtain ⟨rest', hrest'⟩ := (contains_iff_extends hkind).mp h'
  -- Both have the root in front now, and what was behind the kind is still behind it.
  rw [expand_of_extends hkind hrest, expand_of_extends hkind hrest'] at heq
  rw [hrest.1, hrest'.1, List.append_cancel_left heq]

/-- What is recorded for a directory at the root or below it stands for that directory. -/
theorem expand_recorded (hkind : w.kind ≠ []) {dir : Text} (h : Path.Extends w.root rest dir) :
    w.contains (w.kind ++ rest) = true ∧ w.expand (w.kind ++ rest) = dir := by
  have hextends : Path.Extends w.kind rest (w.kind ++ rest) := ⟨rfl, h.2⟩
  constructor
  · exact (contains_iff_extends hkind).mpr ⟨rest, hextends⟩
  · rw [expand_of_extends hkind hextends, h.1]

end

/-- Every workspace. A path that is not recorded under it is left as it is, and none is when the
kind is empty. With another kind, the paths recorded under the workspace are those that extend the
kind; expanding puts the root in place of it, and what is behind it is the text of the bytes behind
its own; two of them never become the same; and every directory that extends the root is what its
own record expands to. -/
theorem expand_exchanges (w : Workspace) :
    (∀ path, w.contains path = false → w.expand path = path) ∧
    (w.kind = [] → ∀ path, w.contains path = false) ∧
    (w.kind ≠ [] →
      (∀ path, w.contains path = true ↔ ∃ rest, Path.Extends w.kind rest path) ∧
      (∀ path rest, Path.Extends w.kind rest path → w.expand path = w.root ++ rest ∧
        path.utf8Encode.extract (Text.byteCount w.kind) path.utf8Encode.size = rest.utf8Encode) ∧
      (∀ path path', w.contains path = true → w.contains path' = true →
        w.expand path = w.expand path' → path = path') ∧
      ∀ dir rest, Path.Extends w.root rest dir →
        w.contains (w.kind ++ rest) = true ∧ w.expand (w.kind ++ rest) = dir) := by
  refine ⟨fun path => expand_of_not_contains, not_contains_of_kind_eq_nil, fun hkind => ?_⟩
  refine ⟨fun path => contains_iff_extends hkind, ?_, ?_, ?_⟩
  · intro path rest h
    refine ⟨expand_of_extends hkind h, ?_⟩
    rw [h.1]
    exact Text.extract_append w.kind rest
  · intro path path' h h' heq
    exact expand_injOn hkind h h' heq
  · intro dir rest h
    exact expand_recorded hkind h

/-- A kind of two bytes, and a root with a separator at its end: an entry below the kind, the
directory at the root, and a path that only begins like the kind. -/
theorem expand_exchanges_of_two_bytes :
    let w : Workspace := ⟨['é'], "/r/".toList⟩
    w.expand "é/x".toList = "/r//x".toList ∧
      "é/x".toList.utf8Encode.extract 2 4 = "/x".toList.utf8Encode ∧
      w.expand ['é'] = "/r/".toList ∧ w.expand "éx".toList = "éx".toList := by
  intro w
  obtain ⟨hkeeps, -, hexchanges⟩ := expand_exchanges w
  obtain ⟨-, hexpand, -, hrecord⟩ := hexchanges (by decide)
  have hbelow : Path.Extends w.kind "/x".toList "é/x".toList := ⟨rfl, .inr ⟨['x'], rfl⟩⟩
  obtain ⟨hx, hbytes⟩ := hexpand _ _ hbelow
  have hroot : Path.Extends w.root [] "/r/".toList := ⟨rfl, .inl rfl⟩
  exact ⟨hx, hbytes, (hrecord _ _ hroot).2, hkeeps _ (by decide)⟩

end Workspace

end DirPicker
