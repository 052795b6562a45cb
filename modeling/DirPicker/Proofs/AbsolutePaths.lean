import DirPicker.Proofs.Destination
import DirPicker.Proofs.PrefixExchange

/-!
# Absolute paths that a workspace rewrites

An absolute path is listed as it stands, but when its row is accepted it is expanded like any other.
So it is rewritten if it is recorded under the workspace, and nothing keeps a kind from beginning with
a separator: `/a=/s` is a definition, and in `/s` the row of `/a/x` leads to `/s/x`
(`expand_changes_listed_path`). The main statement tells when a workspace leaves the absolute paths
alone,

    keepsAbsolute_iff : w.KeepsAbsolute ↔ ((∃ below, w.kind = '/' :: below) → w.root = w.kind)

which it does whenever no kind of the definitions begins with a separator, and which rows ask for the
path that they show.
-/

namespace DirPicker

namespace Workspace

/-- Expanding leaves every absolute path as it is. -/
def KeepsAbsolute (w : Workspace) : Prop := ∀ below, w.expand ('/' :: below) = '/' :: below

/-! ### Paths -/

section

variable {w : Workspace} {path : Text}

/-- A path is left as it is unless it is recorded under a workspace that has another root than its
kind. -/
theorem expand_eq_self_iff :
    w.expand path = path ↔ (RecordedUnder w.kind path → w.root = w.kind) := by
  cases hcontains : w.contains path with
  | false =>
    have hrecorded : ¬ RecordedUnder w.kind path := by
      rw [← contains_iff, hcontains]
      exact Bool.false_ne_true
    rw [expand_of_not_contains hcontains]
    exact ⟨fun _ h => absurd h hrecorded, fun _ => rfl⟩
  | true =>
    have hrecorded := contains_iff.mp hcontains
    obtain ⟨rest, hrest⟩ := (contains_iff_extends hrecorded.1).mp hcontains
    -- The root in front of what the kind stands in front of.
    rw [expand_of_extends hrecorded.1 hrest]
    constructor
    · intro h _
      exact List.append_cancel_right (h.trans hrest.1)
    · intro h
      rw [h hrecorded, ← hrest.1]

/-- Only under a kind that is absolute itself is an absolute path recorded. -/
theorem isAbsolute_kind_of_recordedUnder (h : RecordedUnder w.kind path)
    (hpath : Path.isAbsolute path = true) : Path.isAbsolute w.kind = true := by
  obtain ⟨hkind, rfl | ⟨below, rfl⟩⟩ := h
  · exact hpath
  · rwa [Path.isAbsolute_append hkind] at hpath

theorem keepsAbsolute_iff_of_kind :
    w.KeepsAbsolute ↔ ((∃ below, w.kind = '/' :: below) → w.root = w.kind) := by
  constructor
  · -- The kind itself is recorded under the workspace.
    rintro h ⟨below, hkind⟩
    have hself : w.expand w.kind = w.kind := by rw [hkind]; exact h below
    apply expand_eq_self_iff.mp hself
    exact ⟨by simp [hkind], .inl rfl⟩
  · intro h below
    apply expand_eq_self_iff.mpr
    intro hrecorded
    exact h (Path.isAbsolute_iff.mp (isAbsolute_kind_of_recordedUnder hrecorded rfl))

end

/-- The kind of a workspace is that of a definition, unless there is no workspace. -/
theorem kind_resolve (dir : Text) (ds : List Definition) :
    (resolve dir ds).kind = [] ∨ ∃ d ∈ ds, (resolve dir ds).kind = d.kind := by
  by_cases houtside : resolve dir ds = outside
  · exact .inl (by rw [houtside]; rfl)
  · obtain ⟨before, d, after, hds, -, -, hkind⟩ := exists_of_resolve houtside
    exact .inr ⟨d, by simp [hds], hkind⟩

/-- Kinds without a separator in front make no absolute path another one. -/
theorem keepsAbsolute_of_kinds {ds : List Definition}
    (h : ∀ d ∈ ds, ¬ ∃ below, d.kind = '/' :: below) (dir : Text) :
    (resolve dir ds).KeepsAbsolute := by
  apply keepsAbsolute_iff_of_kind.mpr
  rintro ⟨below, hbelow⟩
  rcases kind_resolve dir ds with hnil | ⟨d, hd, hkind⟩
  · simp [hnil] at hbelow
  · exact absurd ⟨below, hkind ▸ hbelow⟩ (h d hd)

end Workspace

namespace Picker

/-- The workspace of a picker stays the one that was found when it started. -/
theorem workspace_after {config : Config} {p : Picker} (h : (start config).picker = some p)
    {dir : Text} (hdir : p.store.workingDir = .ok dir) (calls : List Call) :
    (p.after calls).workspace = Workspace.resolve dir config.choices.workspaces := by
  have hfresh := fresh_of_start h
  rw [(sameList_after hfresh.sameList calls).workspace, hfresh.workspace_eq, hdir]
  rfl

end Picker

namespace Workspace

/-- The workspace of a directory leaves all absolute paths alone exactly when its kind is not
absolute or is its root; one of them, when that path is not recorded under it or its kind is its
root; and all of them if no definition has an absolute kind. On every picker that is started there
and is still open, the row of an absolute path, pinned or ranked, asks for the path listed exactly
when that path is left alone. -/
theorem keepsAbsolute_iff (ds : List Definition) (dir : Text) :
    let w := resolve dir ds
    (w.KeepsAbsolute ↔ ((∃ below, w.kind = '/' :: below) → w.root = w.kind)) ∧
    (∀ below, w.expand ('/' :: below) = '/' :: below ↔
      (RecordedUnder w.kind ('/' :: below) → w.root = w.kind)) ∧
    ((∀ d ∈ ds, ¬ ∃ below, d.kind = '/' :: below) → w.KeepsAbsolute) ∧
    ∀ config p, (Picker.start config).picker = some p → config.choices.workspaces = ds →
      p.store.workingDir = .ok dir → ∀ calls q, q = p.after calls → q.state = .opened →
        ∀ i c, q.shown[i]? = some c → ∀ below, c.path = '/' :: below →
          ((q.accept i).asked = some c.path ↔ w.expand ('/' :: below) = '/' :: below) := by
  intro w
  refine ⟨keepsAbsolute_iff_of_kind, fun below => expand_eq_self_iff, ?_, ?_⟩
  · intro hkinds
    exact keepsAbsolute_of_kinds hkinds dir
  · rintro config p hp rfl hdir calls q rfl hopened i c hc below hpath
    have hworkspace : (p.after calls).workspace = w := Picker.workspace_after hp hdir calls
    rw [Picker.accept_asked hopened hc, hworkspace, hpath, Option.some_inj]

/-- A kind that is absolute and is the root, too: what is recorded under it is left alone, and its
row asks for the path listed. -/
theorem keepsAbsolute_iff_of_own_root :
    let d : Definition := ⟨['/', 's'], ['/', 's']⟩
    let store : Store := {
      workingDir := .ok ['/', 's', '/', 'p']
      history := fun _ => .ok [⟨⟨0⟩, ['/', 's', '/', 'x']⟩]
      enter := fun _ => .ok () }
    Definition.parse "/s=/s".toList = .ok d ∧ (resolve ['/', 's', '/', 'p'] [d]).KeepsAbsolute ∧
      ∃ p, (Picker.start ⟨some store, ⟨[], [], [d]⟩, ⟨none⟩⟩).picker = some p ∧
        (p.accept 0).asked = some ['/', 's', '/', 'x'] := by
  intro d store
  have hresolve : resolve ['/', 's', '/', 'p'] [d] = ⟨['/', 's'], ['/', 's']⟩ := by decide +kernel
  obtain ⟨hkeeps, -, -, hrows⟩ := keepsAbsolute_iff [d] ['/', 's', '/', 'p']
  have hown : (resolve ['/', 's', '/', 'p'] [d]).KeepsAbsolute := by
    apply hkeeps.mpr
    intro _
    rw [hresolve]
  have hbuild : Candidates.build store ⟨[], [], [d]⟩ = .ok
      ⟨[⟨['/', 's', '/', 'x'], .ranked ⟨0⟩⟩], ⟨['/', 's'], ['/', 's']⟩, none⟩ := by
    decide +kernel
  have hstart : ∃ p, (Picker.start ⟨some store, ⟨[], [], [d]⟩, ⟨none⟩⟩).picker = some p ∧
      p.store = store ∧ p.state = .opened ∧
      p.shown[0]? = some ⟨['/', 's', '/', 'x'], .ranked ⟨0⟩⟩ := by
    rw [Picker.start]
    simp only [hbuild]
    exact ⟨_, rfl, rfl, rfl, rfl⟩
  obtain ⟨p, hp, hstore, hopened, hrow⟩ := hstart
  have hasks := hrows _ p hp rfl (by rw [hstore]) [] p rfl hopened 0 _ hrow ['s', '/', 'x'] rfl
  exact ⟨by decide +kernel, hown, p, hp, hasks.mpr (hown _)⟩

/-- In `/s`, under the kind `/a`, the rows of a pinned path and of a path of the history ask for other
directories than they show. -/
theorem expand_changes_listed_path :
    let d : Definition := ⟨['/', 'a'], ['/', 's']⟩
    let store := Store.ofListing (.ok ['/', 's']) (.ok "1 /a/h\n".toList) fun _ => .ok ()
    Definition.parse "/a=/s".toList = .ok d ∧ ¬ (resolve ['/', 's'] [d]).KeepsAbsolute ∧
      ∃ p, (Picker.start ⟨some store, ⟨[['/', 'a', '/', 'p']], [], [d]⟩, ⟨none⟩⟩).picker = some p ∧
        p.rows = ["  * /a/p".toList, "  1 /a/h".toList] ∧
        (p.accept 0).asked = some ['/', 's', '/', 'p'] ∧
        (p.accept 1).asked = some ['/', 's', '/', 'h'] := by
  intro d store
  have hresolve : resolve ['/', 's'] [d] = ⟨['/', 'a'], ['/', 's']⟩ := by decide +kernel
  refine ⟨by decide +kernel, ?_, ?_⟩
  · intro h
    have hkind := h ['a']
    rw [hresolve] at hkind
    revert hkind
    decide +kernel
  · have hbuild : Candidates.build store ⟨[['/', 'a', '/', 'p']], [], [d]⟩ = .ok
        ⟨[⟨['/', 'a', '/', 'p'], .pinned⟩, ⟨['/', 'a', '/', 'h'], .ranked ⟨0x3FF0000000000000⟩⟩],
          ⟨['/', 'a'], ['/', 's']⟩, none⟩ := by
      decide +kernel
    rw [Picker.start]
    simp only [hbuild]
    exact ⟨_, rfl, by decide +kernel, by decide +kernel, by decide +kernel⟩

end Workspace

end DirPicker
