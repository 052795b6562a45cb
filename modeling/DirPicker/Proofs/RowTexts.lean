import DirPicker.Candidates
import DirPicker.Proofs.PrefixExchange

/-!
# What the text of a row tells

A row is a score cell, a blank and a path, none of which has a width of its own. It can be read all
the same: the cell is a figure without blanks, with blanks in front of it, so that what comes first
is the figure, and what stands behind the next blank is the path as shown,

    readRow?_row : readRow? (c.row home) = some (c.score.figure, home.abbreviate c.path)

The figure tells a pinned row from a ranked one. The path as shown begins with a tilde or with a
separator, and tells which path it is as long as that begins with a separator
(`eq_of_abbreviate_eq`). Together, in the main statement, rows with the same text are rows for the
same path with the same cell.
-/

namespace DirPicker

/-! ### Figures -/

theorem Text.notMem_ofNat {c : Char} (h : c.isDigit = false) (n : Nat) : c ∉ ofNat n := by
  intro hc
  have hdigit := Nat.isDigit_of_mem_toDigits (by decide) (by decide) hc
  rw [h] at hdigit
  cases hdigit

/-- Besides digits, the sign and the letters of three words are all that a number is written with. -/
theorem Double.notMem_whole {c : Char} (hdigit : c.isDigit = false)
    (hother : c ∉ ['-', 'N', 'a', 'i', 'n', 'f']) (x : Double) : c ∉ x.whole := by
  -- Words and numbers have the same sign in front of them, or none.
  have hsign : c ∉ (if x.negative then ['-'] else [] : Text) := by
    split <;> simp_all
  unfold whole
  simp only
  -- Not a number, infinite, or finite: only the last one has digits.
  split
  · simp_all
  · split
    · exact List.not_mem_append hsign (Text.notMem_ofNat hdigit _)
    · exact List.not_mem_append hsign (by simp_all)

theorem Double.whole_ne_nil (x : Double) : x.whole ≠ [] := by
  unfold whole
  simp only
  split
  · simp
  · split
    · simp [Text.ofNat, Nat.toDigits_ne_nil]
    · simp

namespace Score

/-- What a score cell shows behind its blanks. -/
def figure : Score → Text
  | .ranked value => value.whole
  | .pinned => ['*']

theorem cell_eq_padLeft (score : Score) : score.cell = padLeft cellWidth score.figure := by
  cases score <;> rfl

theorem notMem_figure {c : Char} (hdigit : c.isDigit = false)
    (hother : c ∉ ['*', '-', 'N', 'a', 'i', 'n', 'f']) (score : Score) : c ∉ score.figure := by
  rw [List.mem_cons, not_or] at hother
  cases score with
  | ranked value => exact Double.notMem_whole hdigit hother.2 value
  | pinned => exact List.not_mem_cons_of_ne_of_not_mem hother.1 List.not_mem_nil

/-- The first blank behind a figure ends it. -/
theorem blank_notMem_figure (score : Score) : ' ' ∉ score.figure :=
  notMem_figure (by decide) (by decide) score

theorem figure_ne_nil (score : Score) : score.figure ≠ [] := by
  cases score with
  | ranked value => exact Double.whole_ne_nil value
  | pinned => simp [figure]

/-- No number looks like the mark of what is pinned. -/
theorem figure_ranked_ne_pinned (value : Double) : (ranked value).figure ≠ pinned.figure := by
  intro h
  -- No numeral and no word has a star in it.
  have hstar : '*' ∉ value.whole := Double.notMem_whole (by decide) (by decide) value
  have hpinned : value.whole = ['*'] := h
  exact hstar (hpinned ▸ List.mem_singleton_self '*')

/-- A cell is read by leaving out its blanks. -/
theorem dropWhile_cell_append (score : Score) (rest : Text) :
    (score.cell ++ rest).dropWhile (· = ' ') = score.figure ++ rest := by
  have hblanks : ∀ c ∈ List.replicate (cellWidth - score.figure.length) ' ', (c = ' ' : Bool) := by
    simp
  rw [cell_eq_padLeft, padLeft, List.append_assoc, List.dropWhile_append_of_pos hblanks]
  -- Leaving out blanks stops at the first character of the figure, because that is none.
  obtain ⟨c, figure, hfigure⟩ := List.exists_cons_of_ne_nil score.figure_ne_nil
  have hc : c ≠ ' ' := by
    rintro rfl
    exact score.blank_notMem_figure (by simp [hfigure])
  rw [hfigure, List.cons_append, List.dropWhile_cons_of_neg (by simpa using hc)]

/-- The blanks in front of a figure can be told from it. -/
theorem figure_eq_of_cell_eq {score score' : Score} (h : score.cell = score'.cell) :
    score.figure = score'.figure := by
  rw [← List.append_nil score.figure, ← List.append_nil score'.figure, ← dropWhile_cell_append,
    ← dropWhile_cell_append, h]

/-- Scores that show the same figure are of one kind and have the same cell. -/
theorem alike_of_figure_eq {score score' : Score} (h : score.figure = score'.figure) :
    score = .pinned ∧ score' = .pinned ∨
      ∃ x x', score = .ranked x ∧ score' = .ranked x' ∧ score.cell = score'.cell := by
  have hcell : score.cell = score'.cell := by rw [cell_eq_padLeft, cell_eq_padLeft, h]
  cases score with
  | pinned =>
    cases score' with
    | pinned => exact .inl ⟨rfl, rfl⟩
    | ranked x' => exact absurd h.symm (figure_ranked_ne_pinned x')
  | ranked x =>
    cases score' with
    | pinned => exact absurd h (figure_ranked_ne_pinned x)
    | ranked x' => exact .inr ⟨x, x', rfl, rfl, hcell⟩

end Score

/-! ### Paths as they are shown -/

namespace Home

/-- `Given path dir`: the path given for the home directory is `dir`, which is not empty, and
separators behind it. -/
structure Given (path : Option Text) (dir : Text) : Prop where
  ne_nil : dir ≠ []
  unended : dir.getLast? ≠ some '/'
  path_eq : ∃ n, path = some (dir ++ List.replicate n '/')

theorem dir_of_eq_some_iff {path : Option Text} {dir : Text} :
    (of path).dir = some dir ↔ Given path dir := by
  -- A home of separators only is trimmed to nothing, and counts as none.
  have hdir : (of path).dir = some dir ↔
      dir ≠ [] ∧ ∃ t, path = some t ∧ Text.trimEnd '/' t = dir := by
    simp [of, Option.filter_eq_some_iff, Option.map_eq_some_iff, and_comm]
  rw [hdir]
  constructor
  -- Trimming takes off just the separators at the end.
  · rintro ⟨hne, t, rfl, ht⟩
    obtain ⟨hlast, n, rfl⟩ := Text.trimEnd_eq_iff.mp ht
    exact ⟨hne, hlast, n, rfl⟩
  · rintro ⟨hne, hlast, n, rfl⟩
    exact ⟨hne, _, rfl, Text.trimEnd_eq_iff.mpr ⟨hlast, n, rfl⟩⟩

variable {home : Home} {path path' rest dir : Text}

/-- At the home directory and below it, a tilde takes its place. -/
theorem abbreviate_of_extends (hdir : home.dir = some dir) (h : Path.Extends dir rest path) :
    home.abbreviate path = '~' :: rest := by
  have hstart : Text.afterStart? dir path = some rest := Text.afterStart?_eq_some_iff.mpr h.1
  have hboundary : Path.atBoundary rest = true := Path.atBoundary_iff.mpr h.2
  simp [abbreviate, hdir, hstart, hboundary]

/-- A path is shown as it is, or extends the home directory and has a tilde in its place. -/
theorem abbreviate_cases (home : Home) (path : Text) :
    home.abbreviate path = path ∨ ∃ dir rest, home.dir = some dir ∧ Path.Extends dir rest path ∧
      home.abbreviate path = '~' :: rest := by
  unfold abbreviate
  -- A tilde is put in only if the home directory stands in front and a segment ends there.
  split
  · exact .inl rfl
  · next dir hdir =>
    split
    · next rest hrest =>
      split
      · next hboundary =>
        have hextends : Path.Extends dir rest path :=
          ⟨Text.afterStart?_eq_some_iff.mp hrest, Path.atBoundary_iff.mp hboundary⟩
        exact .inr ⟨dir, rest, hdir, hextends, rfl⟩
      · exact .inl rfl
    · exact .inl rfl

/-- An absolute path is told by what is shown for it. -/
theorem eq_of_abbreviate_eq (hpath : Path.isAbsolute path = true)
    (hpath' : Path.isAbsolute path' = true) (h : home.abbreviate path = home.abbreviate path') :
    path = path' := by
  obtain ⟨below, rfl⟩ := Path.isAbsolute_iff.mp hpath
  obtain ⟨below', rfl⟩ := Path.isAbsolute_iff.mp hpath'
  -- Neither begins with a tilde, so both are shown as they are or both with the tilde in front.
  rcases home.abbreviate_cases ('/' :: below) with hkept | ⟨dir, rest, hdir, hextends, htilde⟩
  · rcases home.abbreviate_cases ('/' :: below') with hkept' | ⟨dir', rest', -, -, htilde'⟩
    · rwa [hkept, hkept'] at h
    · simp [hkept, htilde'] at h
  · rcases home.abbreviate_cases ('/' :: below') with hkept' | ⟨dir', rest', hdir', hextends', htilde'⟩
    · simp [htilde, hkept'] at h
    · obtain rfl : dir = dir' := Option.some.inj (hdir.symm.trans hdir')
      rw [htilde, htilde', List.cons_inj_right] at h
      rw [hextends.1, hextends'.1, h]

end Home

/-! ### Rows -/

/-- The figure and the path that the text of a row shows: what comes first behind the blanks in
front, and what stands behind the next blank. -/
def readRow? (row : Text) : Option (Text × Text) :=
  Text.splitFirst? (· = ' ') (row.dropWhile (· = ' '))

/-- A row can be taken apart into the figure and the path as shown. -/
theorem Candidate.readRow?_row (c : Candidate) (home : Home) :
    readRow? (c.row home) = some (c.score.figure, home.abbreviate c.path) := by
  -- The first blank behind the figure is the one that ends the cell.
  have hfigure : ∀ d ∈ c.score.figure, (d = ' ' : Bool) = false := by
    intro d hd
    rw [decide_eq_false_iff_not]
    rintro rfl
    exact c.score.blank_notMem_figure hd
  rw [readRow?, row, Score.dropWhile_cell_append]
  exact Text.splitFirst?_append_cons hfigure (by decide) _

namespace CandidateList

/-- Rows of any two lists that show the same text for absolute paths show the same path, both pinned
or both ranked with the same cell. In detail: what is shown tells an absolute path; a path is changed
only if it extends the home directory, and then it has a tilde in its place; and the cell of a rank
is blanks with a figure of no blanks behind them, never the cell of a pinned row. -/
theorem eq_of_row?_eq (given : Option Text) :
    let home := Home.of given
    (∀ list list' i j c c', list[i]? = some c → list'[j]? = some c' →
      (∃ below, c.path = '/' :: below) → (∃ below, c'.path = '/' :: below) →
      row? list home i = row? list' home j →
        c.path = c'.path ∧ (c.score = .pinned ∧ c'.score = .pinned ∨
          ∃ x x', c.score = .ranked x ∧ c'.score = .ranked x' ∧ c.score.cell = c'.score.cell)) ∧
    (∀ below below', home.abbreviate ('/' :: below) = home.abbreviate ('/' :: below') →
      below = below') ∧
    (∀ path, home.abbreviate path ≠ path → ∃ dir rest, Home.Given given dir ∧
      Path.Extends dir rest path) ∧
    (∀ dir rest path, Home.Given given dir → Path.Extends dir rest path →
      home.abbreviate path = '~' :: rest) ∧
    ∀ x, (Score.ranked x).cell ≠ Score.pinned.cell ∧ ∃ n figure,
      (Score.ranked x).cell = List.replicate n ' ' ++ figure ∧ figure ≠ [] ∧ ' ' ∉ figure := by
  intro home
  refine ⟨?_, ?_, ?_, ?_, ?_⟩
  · intro list list' i j c c' hc hc' habsolute habsolute' hrow
    rw [row?, row?, hc, hc', Option.map_some, Option.map_some, Option.some_inj] at hrow
    -- The same text is read as the same figure and the same path as shown.
    have hread := congrArg readRow? hrow
    rw [c.readRow?_row, c'.readRow?_row, Option.some_inj, Prod.mk.injEq] at hread
    obtain ⟨hfigure, hpath⟩ := hread
    exact ⟨Home.eq_of_abbreviate_eq (Path.isAbsolute_iff.mpr habsolute)
      (Path.isAbsolute_iff.mpr habsolute') hpath, Score.alike_of_figure_eq hfigure⟩
  · intro below below' h
    exact (List.cons.inj (Home.eq_of_abbreviate_eq rfl rfl h)).2
  · intro path hpath
    rcases home.abbreviate_cases path with hkept | ⟨dir, rest, hdir, hextends, -⟩
    · exact absurd hkept hpath
    · exact ⟨dir, rest, Home.dir_of_eq_some_iff.mp hdir, hextends⟩
  · intro dir rest path hdir hextends
    exact Home.abbreviate_of_extends (Home.dir_of_eq_some_iff.mpr hdir) hextends
  · intro x
    constructor
    · intro h
      exact Score.figure_ranked_ne_pinned x (Score.figure_eq_of_cell_eq h)
    · exact ⟨_, x.whole, rfl, x.whole_ne_nil, (Score.ranked x).blank_notMem_figure⟩

/-- Two ranks that are shown by the same figure, behind a pinned row and first in a list, make the
same row of a directory below the home directory, which is given with a separator at its end. -/
theorem eq_of_row?_eq_of_rounded :
    let home := Home.of (some "/h/".toList)
    let list : CandidateList :=
      [⟨"/x".toList, .pinned⟩, ⟨"/h/a b".toList, .ranked ⟨0x401C000000000000⟩⟩]
    let list' : CandidateList := [⟨"/h/a b".toList, .ranked ⟨0x401D000000000000⟩⟩]
    row? list home 1 = some "  7 ~/a b".toList ∧ row? list' home 0 = some "  7 ~/a b".toList ∧
      (Score.ranked ⟨0x401C000000000000⟩).cell = (Score.ranked ⟨0x401D000000000000⟩).cell ∧
      Home.Given (some "/h/".toList) "/h".toList ∧
      home.abbreviate "/h/a b".toList = "~/a b".toList := by
  intro home list list'
  have hrow : row? list home 1 = some "  7 ~/a b".toList := by decide +kernel
  have hrow' : row? list' home 0 = some "  7 ~/a b".toList := by decide +kernel
  obtain ⟨hrows, -, -, htilde, -⟩ := eq_of_row?_eq (some "/h/".toList)
  have hgiven : Home.Given (some "/h/".toList) "/h".toList :=
    ⟨by decide +kernel, by decide +kernel, 1, by decide +kernel⟩
  have hextends : Path.Extends "/h".toList "/a b".toList "/h/a b".toList :=
    ⟨by decide +kernel, .inr ⟨"a b".toList, by decide +kernel⟩⟩
  refine ⟨hrow, hrow', ?_, hgiven, ?_⟩
  · obtain ⟨-, ⟨hpinned, -⟩ | ⟨x, x', hx, hx', hcell⟩⟩ :=
      hrows list list' 1 0 _ _ rfl rfl ⟨"h/a b".toList, by decide +kernel⟩
        ⟨"h/a b".toList, by decide +kernel⟩ (hrow.trans hrow'.symm)
    · cases hpinned
    · exact hcell
  · rw [htilde _ _ _ hgiven hextends]
    decide +kernel

end CandidateList

end DirPicker
