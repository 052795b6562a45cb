import DirPicker.Candidates
import Mathlib.Control.Monad.Basic

/-!
# What a candidate list holds

A listing, the choices of the user and the answer about the working directory meet in one list. A
`Scope` is what the last two come to: a workspace, and the paths to leave out. The main statement
says for every listing that can be read, and for every scope, what is built:

    build_ofListing : build (Store.ofListing workingDir (.ok text) enter) choices =
      .ok ⟨pinned ++ ranked (entries.filter scope.Lists), scope.workspace, none⟩

The paths to leave out are dropped by the store, and the entries of other workspaces by `build`.
`history_ofListing` describes the first step, `belongs_iff` the second, and `ofHistory_filter` makes
one condition of the two. `Asks` tells that a store is asked for nothing but what the scope leaves.
-/

namespace DirPicker

/-- Whether a path is recorded under a kind of workspace: it is the kind, or goes on from it with a
separator. Nothing is recorded under the empty kind. -/
def RecordedUnder (kind path : Text) : Prop :=
  kind ≠ [] ∧ (path = kind ∨ ∃ below, path = kind ++ '/' :: below)

/-- What the working directory and the choices of the user come to. -/
structure Scope where
  workspace : Workspace
  leaveOut : List Text

namespace Scope

/-- The scope with the given answer about the working directory. -/
def of (choices : Choices) : Except StoreError Text → Scope
  | .ok dir => ⟨Workspace.resolve dir choices.workspaces, choices.pinned ++ choices.hidden ++ [dir]⟩
  | .error _ => ⟨⟨[], []⟩, choices.pinned ++ choices.hidden⟩

/-- Whether an entry of the history with this path is listed. -/
structure Lists (scope : Scope) (path : Text) : Prop where
  kept : path ∉ scope.leaveOut
  meant : (∃ below, path = '/' :: below) ∨ RecordedUnder scope.workspace.kind path

end Scope

/-! ### Paths -/

theorem Path.isAbsolute_iff {path : Text} :
    isAbsolute path = true ↔ ∃ below, path = '/' :: below := by
  cases path with
  | nil => simp [isAbsolute]
  | cons c rest => simp [isAbsolute]

theorem Path.atBoundary_iff {rest : Text} :
    atBoundary rest = true ↔ rest = [] ∨ ∃ below, rest = '/' :: below := by
  rw [← isAbsolute_iff]
  simp [atBoundary, isAbsolute]

/-- `contains` decides whether a path is recorded under the kind. -/
theorem Workspace.contains_iff {w : Workspace} {path : Text} :
    w.contains path = true ↔ RecordedUnder w.kind path := by
  have hkind : (!w.isNone) = true ↔ w.kind ≠ [] := by simp [isNone]
  rw [contains, Bool.and_eq_true, hkind, Path.hasPrefix_iff, RecordedUnder]
  refine and_congr_right fun _ => ?_
  constructor
  · rintro ⟨rest, rfl, hrest⟩
    obtain rfl | ⟨below, rfl⟩ := Path.atBoundary_iff.mp hrest
    · exact .inl (List.append_nil _)
    · exact .inr ⟨below, rfl⟩
  · rintro (rfl | ⟨below, rfl⟩)
    · exact ⟨[], (List.append_nil _).symm, rfl⟩
    · exact ⟨'/' :: below, rfl, rfl⟩

namespace Candidates

theorem belongs_iff {w : Workspace} {entry : Entry} :
    belongs w entry = true ↔
      (∃ below, entry.path = '/' :: below) ∨ RecordedUnder w.kind entry.path := by
  rw [belongs, Bool.or_eq_true, Path.isAbsolute_iff, Workspace.contains_iff]

instance (scope : Scope) (path : Text) : Decidable (scope.Lists path) :=
  decidable_of_iff
    (path ∉ scope.leaveOut ∧ (Path.isAbsolute path ∨ scope.workspace.contains path)) <| by
      rw [Path.isAbsolute_iff, Workspace.contains_iff]
      exact ⟨fun h => ⟨h.1, h.2⟩, fun h => ⟨h.1, h.2⟩⟩

/-- With these choices and this answer about the working directory, a store is asked to leave the
paths `asked` out of the history, and nothing else. -/
structure Asks (choices : Choices) (workingDir : Except StoreError Text) (asked : List Text) :
    Prop where
  /-- What a store would answer to anything else makes no difference. -/
  only : ∀ s t : Store, s.workingDir = workingDir → t.workingDir = workingDir →
    s.history asked = t.history asked → build s choices = build t choices
  /-- A failure of this answer comes out, as a warning when something is pinned. -/
  failure : ∀ s : Store, s.workingDir = workingDir → ∀ e, s.history asked = .error e →
    build s choices = .error e ∨ ∃ candidates, build s choices = .ok candidates ∧
      candidates.warning = some e

/-! ### The store -/

section

variable {workingDir : Except StoreError Text} {text : Text} {entries : List Entry}
variable {choices : Choices} {store : Store}

/-- A listing keeps all entries but those left out, in order. -/
theorem history_ofListing (workingDir : Except StoreError Text)
    (enter : Text → Except StoreError Unit) (h : Listing.parse text = .ok entries)
    (leaveOut : List Text) :
    (Store.ofListing workingDir (.ok text) enter).history leaveOut =
      .ok (entries.filter fun entry => entry.path ∉ leaveOut) := by
  show Store.listingHistory (.ok text) leaveOut = _
  simp [Store.listingHistory, bind, Except.bind, h]

theorem workspaceOf_eq (hs : store.workingDir = workingDir) (choices : Choices) :
    workspaceOf store choices = (Scope.of choices workingDir).workspace := by
  rw [workspaceOf, hs]
  cases workingDir <;> rfl

theorem leftOut_eq (hs : store.workingDir = workingDir) (choices : Choices) :
    leftOut store choices = (Scope.of choices workingDir).leaveOut := by
  rw [leftOut, hs]
  cases workingDir with
  | ok dir => rfl
  | error e => exact List.append_nil _

/-! ### The list -/

/-- With a history, what is pinned comes in front of what the history holds for this place. -/
theorem build_of_history (hs : store.workingDir = workingDir)
    (h : store.history (Scope.of choices workingDir).leaveOut = .ok entries) :
    build store choices =
      .ok ⟨ofPinned choices.pinned ++ ofHistory (Scope.of choices workingDir).workspace entries,
        (Scope.of choices workingDir).workspace, none⟩ := by
  rw [build, leftOut_eq hs, h, workspaceOf_eq hs]

/-- Without a history there is a warning beside what is pinned, or nothing to show at all. -/
theorem build_of_failure {e : StoreError} (hs : store.workingDir = workingDir)
    (h : store.history (Scope.of choices workingDir).leaveOut = .error e) :
    build store choices = if (ofPinned choices.pinned).isEmpty then .error e else
      .ok ⟨ofPinned choices.pinned, (Scope.of choices workingDir).workspace, some e⟩ := by
  rw [build, leftOut_eq hs, h, workspaceOf_eq hs]

theorem asks_leaveOut (choices : Choices) (workingDir : Except StoreError Text) :
    Asks choices workingDir (Scope.of choices workingDir).leaveOut where
  only s t hs ht h := by
    cases hanswer : s.history (Scope.of choices workingDir).leaveOut with
    | ok entries => rw [build_of_history hs hanswer, build_of_history ht (h ▸ hanswer)]
    | error e => rw [build_of_failure hs hanswer, build_of_failure ht (h ▸ hanswer)]
  failure s hs e h := by
    rw [build_of_failure hs h]
    split
    · exact .inl rfl
    · exact .inr ⟨_, rfl, rfl⟩

/-- Of the entries that are not left out, those meant for the workspace are the ones listed. -/
theorem ofHistory_filter (scope : Scope) (entries : List Entry) :
    ofHistory scope.workspace (entries.filter fun entry => entry.path ∉ scope.leaveOut) =
      (entries.filter fun entry => scope.Lists entry.path).map
        fun entry => ⟨entry.path, .ranked entry.score⟩ := by
  -- The store filters first and `build` second; the order makes no difference.
  rw [ofHistory, List.filter_filter]
  congr 1
  refine List.filter_congr fun entry _ => ?_
  rw [Bool.eq_iff_iff, Bool.and_eq_true, belongs_iff, decide_eq_true_iff, decide_eq_true_iff]
  exact ⟨fun h => ⟨h.2, h.1⟩, fun h => ⟨h.meant, h.kept⟩⟩

end

/-- Without a working directory nothing is recorded under the workspace. -/
theorem absolute_of_lists {choices : Choices} {e : StoreError} {path : Text}
    (h : (Scope.of choices (.error e)).Lists path) : ∃ below, path = '/' :: below := by
  -- The workspace is the one with the empty kind, under which nothing is recorded.
  obtain hroot | ⟨hkind, -⟩ := h.meant
  · exact hroot
  · exact absurd rfl hkind

/-- The candidates of a listing: each pinned path as it stands, and behind them the entries that
the scope lists, in the order of the listing and as often as they stand there, without a warning.
The paths that the scope leaves out are those that a store is asked to leave out; without a working
directory no relative entry is listed. -/
theorem build_ofListing {text : Text} {entries : List Entry}
    (h : Listing.parse text = .ok entries) (workingDir : Except StoreError Text)
    (enter : Text → Except StoreError Unit) (choices : Choices) :
    build (Store.ofListing workingDir (.ok text) enter) choices =
      .ok {
        list := (choices.pinned.map fun path => ⟨path, .pinned⟩) ++
          (entries.filter fun entry => (Scope.of choices workingDir).Lists entry.path).map
            fun entry => ⟨entry.path, .ranked entry.score⟩
        workspace := (Scope.of choices workingDir).workspace
        warning := none } ∧
    Asks choices workingDir (Scope.of choices workingDir).leaveOut ∧
    ∀ e, workingDir = .error e → ∀ path, (Scope.of choices workingDir).Lists path →
      ∃ below, path = '/' :: below := by
  refine ⟨?_, asks_leaveOut choices workingDir, ?_⟩
  · have hhistory := history_ofListing workingDir enter h (Scope.of choices workingDir).leaveOut
    have hdir : (Store.ofListing workingDir (.ok text) enter).workingDir = workingDir := rfl
    rw [build_of_history hdir hhistory, ofHistory_filter]
    rfl
  · rintro e rfl path hpath
    exact absolute_of_lists hpath

/-- A path recorded under the workspace and an absolute one are listed behind the pinned path; the
pinned path, the hidden one, and the one that only begins like the kind are not. -/
theorem build_ofListing_in_workspace :
    ∃ entries, Listing.parse "3 w/x\n2 /a\n1 wx\n2 /b\n1 /c\n".toList = .ok entries ∧
      ∃ candidates, build
        (Store.ofListing (.ok ['/', 's', '/', 'p']) (.ok "3 w/x\n2 /a\n1 wx\n2 /b\n1 /c\n".toList)
          fun _ => .ok ())
        ⟨[['/', 'a']], [['/', 'b']], [⟨['w'], ['/', 's']⟩]⟩ = .ok candidates ∧
      candidates.list.map (·.path) = [['/', 'a'], ['w', '/', 'x'], ['/', 'c']] ∧
      candidates.workspace = ⟨['w'], ['/', 's']⟩ := by
  have hparse : Listing.parse "3 w/x\n2 /a\n1 wx\n2 /b\n1 /c\n".toList = .ok
      [⟨⟨4613937818241073152⟩, ['w', '/', 'x']⟩, ⟨⟨4611686018427387904⟩, ['/', 'a']⟩,
        ⟨⟨4607182418800017408⟩, ['w', 'x']⟩, ⟨⟨4611686018427387904⟩, ['/', 'b']⟩,
        ⟨⟨4607182418800017408⟩, ['/', 'c']⟩] := by
    decide +kernel
  obtain ⟨hbuild, -⟩ := build_ofListing hparse (.ok ['/', 's', '/', 'p']) (fun _ => .ok ())
    ⟨[['/', 'a']], [['/', 'b']], [⟨['w'], ['/', 's']⟩]⟩
  exact ⟨_, hparse, _, hbuild, by decide +kernel, by decide +kernel⟩

end Candidates

end DirPicker
