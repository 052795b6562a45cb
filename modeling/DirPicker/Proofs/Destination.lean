import DirPicker.Proofs.Containment
import DirPicker.Proofs.Exclusion
import DirPicker.Proofs.Lifecycle

/-!
# Where rows of the history lead

A row of the history is listed because its path is absolute or is recorded under the workspace, and
when it is accepted the path is rewritten for the same workspace. So the two go together, and as the
root of a workspace is the beginning of the working directory, each such row leads to an absolute
path. The main statement says so of every picker that has been narrowed by any filters:

    absolute_of_history_row : every row of the history asks for a path that begins with `/`, and
      a path that does not is no such row, or asks for what it stands for below the root

`isAbsolute_root` is about the workspace, `isAbsolute_expand` about the path that is asked for, and
`belongs_of_shown` about what is listed.
-/

namespace DirPicker

/-! ### Absolute paths -/

theorem Path.isAbsolute_append {path rest : Text} (h : path ≠ []) :
    isAbsolute (path ++ rest) = isAbsolute path := by
  cases path with
  | nil => exact absurd rfl h
  | cons c path => rfl

namespace Workspace

variable {w : Workspace} {path : Text}

/-- The root of a workspace is as absolute as the directory that belongs to it. -/
theorem isAbsolute_root {dir : Text} {ds : List Definition} (hdir : Path.isAbsolute dir = true)
    (h : resolve dir ds ≠ outside) : Path.isAbsolute (resolve dir ds).root = true := by
  obtain ⟨_, d, _, -, -, hroot, -⟩ := exists_of_resolve h
  -- The root is the beginning of the directory, and not empty, so that both begin alike.
  obtain ⟨rest, heq, hne, -⟩ := exists_rest_of_rootOf hroot
  rw [heq, Path.isAbsolute_append hne] at hdir
  exact hdir

/-- Below an absolute root everything is absolute. -/
theorem isAbsolute_of_standsFor {dir : Text} (h : w.StandsFor path dir)
    (hroot : Path.isAbsolute w.root = true) : Path.isAbsolute dir = true := by
  -- An empty root would be no absolute path.
  have hne : w.root ≠ [] := by
    intro hnil
    rw [hnil] at hroot
    cases hroot
  cases h with
  | root => exact hroot
  | below => rwa [Path.isAbsolute_append hne]

/-- What is listed leads to an absolute path. -/
theorem isAbsolute_expand (hroot : w ≠ outside → Path.isAbsolute w.root = true)
    (h : Path.isAbsolute path = true ∨ w.contains path = true) :
    Path.isAbsolute (w.expand path) = true := by
  cases hcontains : w.contains path with
  | false =>
    rw [expand_of_not_contains hcontains]
    simpa [hcontains] using h
  | true =>
    obtain ⟨dir, hdir⟩ := contains_iff_standsFor.mp hcontains
    -- Outside of all workspaces nothing is recorded.
    have hsome : w ≠ outside := by
      rintro rfl
      cases hcontains
    rw [expand_of_standsFor hdir]
    exact isAbsolute_of_standsFor hdir (hroot hsome)

end Workspace

namespace Picker

variable {config : Config} {store : Store} {p q : Picker} {c : Candidate} {score : Double}

/-! ### What is listed -/

/-- Narrowing a list adds nothing to it. -/
theorem mem_of_mem_narrow {candidates : CandidateList} {home : Home} {filter : Text}
    (h : c ∈ CandidateList.narrow candidates home filter) : c ∈ candidates := by
  unfold CandidateList.narrow at h
  split at h
  · exact h
  · exact (List.mem_filter.mp h).1

theorem Fresh.workspace_eq (h : Fresh config p) :
    p.workspace = (Scope.of config.choices p.store.workingDir).workspace := by
  obtain ⟨warning, hbuild⟩ := h.built
  exact Candidates.workspace_of_build hbuild

/-- In an absolute working directory the root of the workspace is absolute, since a match at the
start of the path begins with its first separator. -/
theorem Fresh.isAbsolute_root (h : Fresh config p)
    (habs : ∀ dir, p.store.workingDir = .ok dir → ∃ below, dir = '/' :: below) :
    p.workspace ≠ .outside → Path.isAbsolute p.workspace.root = true := by
  rw [h.workspace_eq]
  cases hdir : p.store.workingDir with
  | error e => exact fun houtside => absurd rfl houtside
  | ok dir => exact Workspace.isAbsolute_root (Path.isAbsolute_iff.mpr (habs dir hdir))

/-- A row of the history has an absolute path or one recorded under the workspace, whatever the
filter. -/
theorem belongs_of_shown (h : Fresh config p) (hlist : SameList p q) (hc : c ∈ q.shown)
    (hscore : c.score = .ranked score) :
    Path.isAbsolute c.path = true ∨ p.workspace.contains c.path = true := by
  obtain ⟨warning, hbuild⟩ := h.built
  rw [hlist.shown] at hc
  -- Filters only take rows away: what is shown has been listed at the start.
  have hall : (⟨c.path, .ranked score⟩ : Candidate) ∈ p.all := by
    rw [← hscore]
    exact mem_of_mem_narrow hc
  obtain ⟨-, -, -, hbelongs⟩ := (Candidates.mem_ranked_iff hbuild).mp hall
  exact Bool.or_eq_true_iff.mp hbelongs

/-- A relative path of the history that is not recorded under the workspace has no row. -/
theorem not_shown_of_relative (h : Fresh config p) (hlist : SameList p q) {path : Text}
    (hrelative : ¬ Path.isAbsolute path = true) (hcontains : p.workspace.contains path = false) :
    ∀ c ∈ q.shown, ∀ score, c.score = .ranked score → c.path ≠ path := by
  rintro c hc score hscore rfl
  obtain habsolute | htrue := belongs_of_shown h hlist hc hscore
  · exact hrelative habsolute
  · rw [hcontains] at htrue
    cases htrue

/-! ### What is asked for -/

/-- A row asks for the directory that its path stands for in the workspace. -/
theorem accept_asked (h : q.state = .opened) {i : Nat} (hc : q.shown[i]? = some c) :
    (q.accept i).asked = some (q.workspace.expand c.path) :=
  ((lawful_call q (.accept i)).asked _).mpr ⟨h, i, c, rfl, hc, rfl⟩

/-- With a working directory that is absolute, if there is one, every row of the history leads to an
absolute path, whatever filters there have been. A path that is not absolute is no row of the
history unless it is recorded under the workspace; then it leads to what it stands for below the
root, which is never the path itself. -/
theorem absolute_of_history_row (hstore : config.store = some store)
    (habs : ∀ dir, store.workingDir = .ok dir → ∃ below, dir = '/' :: below)
    (h : (start config).picker = some p) (filters : List Text)
    (hq : q = p.after (filters.map .setFilter)) :
    q.workspace = (Scope.of config.choices store.workingDir).workspace ∧
    (∀ i c score, q.shown[i]? = some c → c.score = .ranked score →
      ∃ below, (q.accept i).asked = some ('/' :: below)) ∧
    ∀ path, (¬ ∃ below, path = '/' :: below) →
      (¬ RecordedUnder q.workspace.kind path ∧
        ∀ c ∈ q.shown, ∀ score, c.score = .ranked score → c.path ≠ path) ∨
      ∃ dir, q.workspace.StandsFor path dir ∧ (∃ below, dir = '/' :: below) ∧ dir ≠ path ∧
        ∀ i score, q.shown[i]? = some ⟨path, .ranked score⟩ → (q.accept i).asked = some dir := by
  subst hq
  have hfresh := fresh_of_start h
  obtain rfl : p.store = store := Option.some.inj (hfresh.store.symm.trans hstore)
  have hlist := sameList_after hfresh.sameList (filters.map .setFilter)
  -- No filter closes the picker, and none changes what there is to choose from.
  have hopened := (after_state _ _).mpr ⟨hfresh.state, not_closes_of_filters filters⟩
  generalize p.after (filters.map .setFilter) = q at hlist hopened
  have hroot := hfresh.isAbsolute_root habs
  rw [hlist.workspace]
  refine ⟨hfresh.workspace_eq, ?_, ?_⟩
  -- What is listed is absolute or recorded, and either is expanded to an absolute path.
  · intro i c score hc hscore
    have hbelongs := belongs_of_shown hfresh hlist (List.mem_of_getElem? hc) hscore
    obtain ⟨below, hbelow⟩ := Path.isAbsolute_iff.mp (Workspace.isAbsolute_expand hroot hbelongs)
    rw [accept_asked hopened hc, hlist.workspace, hbelow]
    exact ⟨below, rfl⟩
  -- A relative path is recorded under the workspace or is no row at all.
  · intro path hrelative
    cases hcontains : p.workspace.contains path with
    | false =>
      refine .inl ⟨?_, ?_⟩
      · rw [← Workspace.contains_iff, hcontains]
        exact Bool.false_ne_true
      · rw [← Path.isAbsolute_iff] at hrelative
        exact not_shown_of_relative hfresh hlist hrelative hcontains
    | true =>
      obtain ⟨dir, hdir⟩ := Workspace.contains_iff_standsFor.mp hcontains
      have habsolute : ∃ below, dir = '/' :: below := by
        rw [← Path.isAbsolute_iff, ← Workspace.expand_of_standsFor hdir]
        exact Workspace.isAbsolute_expand hroot (.inr hcontains)
      refine .inr ⟨dir, hdir, habsolute, ?_, ?_⟩
      -- What stands below the root is absolute, and the path is not.
      · rintro rfl
        exact hrelative habsolute
      · intro i score hc
        rw [accept_asked hopened hc, hlist.workspace, Workspace.expand_of_standsFor hdir]

/-- Of two paths that are not absolute, the one recorded under another kind is no row, and the one
recorded under the workspace leads below its root. -/
theorem absolute_of_history_row_in_workspace :
    let store : Store := {
      workingDir := .ok ['/', 's', '/', 'p']
      history := fun _ =>
        .ok [⟨⟨0⟩, ['v', '/', 'x']⟩, ⟨⟨0⟩, ['w', '/', 'y']⟩, ⟨⟨0⟩, ['w', '/', 'x']⟩]
      enter := fun _ => .ok () }
    let config : Config := ⟨some store, ⟨[], [], [⟨['w'], ['/', 's']⟩]⟩, ⟨none⟩⟩
    ∃ p, (start config).picker = some p ∧
      ∃ q, q = p.after [.setFilter ['y'], .setFilter ['x']] ∧
        q.shown = [⟨['w', '/', 'x'], .ranked ⟨0⟩⟩] ∧
        (q.accept 0).asked = some ['/', 's', '/', 'x'] := by
  intro store config
  have hbuild : Candidates.build store config.choices = .ok
      ⟨[⟨['w', '/', 'y'], .ranked ⟨0⟩⟩, ⟨['w', '/', 'x'], .ranked ⟨0⟩⟩], ⟨['w'], ['/', 's']⟩,
        none⟩ := by
    decide +kernel
  obtain ⟨p, hp, hshown⟩ : ∃ p, (start config).picker = some p ∧
      (p.after [.setFilter ['y'], .setFilter ['x']]).shown = [⟨['w', '/', 'x'], .ranked ⟨0⟩⟩] := by
    rw [start]
    simp only [config, hbuild]
    exact ⟨_, rfl, by decide +kernel⟩
  have habs : ∀ dir, store.workingDir = .ok dir → ∃ below, dir = '/' :: below := by
    intro dir hdir
    obtain rfl := Except.ok.inj hdir
    exact ⟨_, rfl⟩
  obtain ⟨hworkspace, -, hpath⟩ :=
    absolute_of_history_row (show config.store = some store from rfl) habs hp [['y'], ['x']] rfl
  have hresolve : (Scope.of config.choices store.workingDir).workspace = ⟨['w'], ['/', 's']⟩ := by
    decide +kernel
  rw [hresolve] at hworkspace
  refine ⟨p, hp, _, rfl, hshown, ?_⟩
  obtain ⟨hnot, -⟩ | ⟨dir, hdir, -, -, hasked⟩ := hpath ['w', '/', 'x'] (by simp)
  · rw [hworkspace] at hnot
    exact absurd ⟨by simp, .inr ⟨['x'], rfl⟩⟩ hnot
  · have hrow := hasked 0 ⟨0⟩ (by rw [List.map_cons, List.map_singleton, hshown]; rfl)
    rw [← Workspace.expand_of_standsFor hdir, hworkspace] at hrow
    exact hrow

end Picker

end DirPicker
