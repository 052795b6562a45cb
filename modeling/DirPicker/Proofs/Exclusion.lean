import DirPicker.Proofs.CandidateList

/-!
# Where the candidates of a history lead

The pinned paths, the hidden ones and the working directory are left out of the history. They are
left out as they are recorded, whereas a candidate recorded under the workspace leads to the path it
stands for below the root (`Workspace.StandsFor`). `LeadsElsewhere` says that no candidate of the
history leads to a path left out, and the main statement tells when that is so:

    leadsElsewhere_iff : candidates.LeadsElsewhere scope.leaveOut ↔
      ∀ e ∈ entries, ∀ dir, scope.workspace.StandsFor e.path dir → dir ∉ scope.leaveOut

So only entries recorded under the workspace can lead back to what is left out, and some do:
`leads_to_all_left_out` has one that leads to a hidden path, one to a pinned path and one to the
working directory.
-/

namespace DirPicker

/-- A store that leaves out the paths it is asked to leave out. -/
def Store.LeavesOut (store : Store) : Prop :=
  ∀ leaveOut entries, store.history leaveOut = .ok entries → ∀ e ∈ entries, e.path ∉ leaveOut

/-- What a path recorded under the workspace stands for: the root for the kind, and what lies below
the root for what lies below the kind. -/
inductive Workspace.StandsFor (w : Workspace) : (path dir : Text) → Prop
  | root (hkind : w.kind ≠ []) : StandsFor w w.kind w.root
  | below (hkind : w.kind ≠ []) (rest : Text) :
      StandsFor w (w.kind ++ '/' :: rest) (w.root ++ '/' :: rest)

/-- No candidate of the history leads to one of the paths. -/
def Candidates.LeadsElsewhere (candidates : Candidates) (paths : List Text) : Prop :=
  ∀ c ∈ candidates.list, ∀ score, c.score = .ranked score →
    candidates.workspace.expand c.path ∉ paths

/-! ### Paths that a workspace rewrites -/

namespace Workspace

variable {w : Workspace} {path dir : Text}

/-- The paths recorded under the workspace are those that stand for something. -/
theorem contains_iff_standsFor : w.contains path = true ↔ ∃ dir, w.StandsFor path dir := by
  rw [contains_iff]
  constructor
  · rintro ⟨hkind, rfl | ⟨rest, rfl⟩⟩
    · exact ⟨w.root, .root hkind⟩
    · exact ⟨w.root ++ '/' :: rest, .below hkind rest⟩
  · rintro ⟨_, hkind | ⟨hkind, rest⟩⟩
    · exact ⟨hkind, .inl rfl⟩
    · exact ⟨hkind, .inr ⟨rest, rfl⟩⟩

/-- A recorded path is expanded to what it stands for. -/
theorem expand_of_standsFor (h : w.StandsFor path dir) : w.expand path = dir := by
  rw [expand, if_pos (contains_iff_standsFor.mpr ⟨dir, h⟩)]
  cases h with
  | root hkind => rw [List.drop_length, List.append_nil]
  | below hkind rest => rw [List.drop_left]

theorem expand_of_not_contains (h : w.contains path = false) : w.expand path = path := by
  rw [expand, h]
  rfl

end Workspace

namespace Candidates

/-! ### The history of a list -/

section

variable {store : Store} {choices : Choices} {candidates : Candidates}

/-- A listing leaves out every path it is asked to leave out, and no other one. -/
theorem leavesOut_ofListing (workingDir listing : Except StoreError Text)
    (enter : Text → Except StoreError Unit) : (Store.ofListing workingDir listing enter).LeavesOut := by
  intro leaveOut entries h e he
  cases listing with
  | error failure => cases h
  | ok text =>
    cases hparse : Listing.parse text with
    | error malformed =>
      simp [Store.ofListing, Store.listingHistory, bind, Except.bind, hparse] at h
    | ok all =>
      rw [history_ofListing workingDir enter hparse] at h
      obtain rfl := Except.ok.inj h
      simpa using (List.mem_filter.mp he).2

theorem workspace_of_build (h : build store choices = .ok candidates) :
    candidates.workspace = (Scope.of choices store.workingDir).workspace := by
  cases hhistory : store.history (Scope.of choices store.workingDir).leaveOut with
  | ok entries =>
    rw [build_of_history rfl hhistory] at h
    obtain rfl := Except.ok.inj h
    rfl
  | error failure =>
    rw [build_of_failure rfl hhistory] at h
    split at h
    · cases h
    · obtain rfl := Except.ok.inj h
      rfl

/-- The candidates with a score are the entries of the history that are meant for this place. -/
theorem mem_ranked_iff (h : build store choices = .ok candidates) {path : Text} {score : Double} :
    (⟨path, .ranked score⟩ : Candidate) ∈ candidates.list ↔
      ∃ entries, store.history (Scope.of choices store.workingDir).leaveOut = .ok entries ∧
        ⟨score, path⟩ ∈ entries ∧ belongs candidates.workspace ⟨score, path⟩ = true := by
  have hpinned : (⟨path, .ranked score⟩ : Candidate) ∉ ofPinned choices.pinned := by
    simp [ofPinned]
  -- Pinned rows have no score, so that a row with one comes from a history that could be read.
  cases hhistory : store.history (Scope.of choices store.workingDir).leaveOut with
  | ok entries =>
    rw [build_of_history rfl hhistory] at h
    obtain rfl := Except.ok.inj h
    simp only [List.mem_append, hpinned, false_or, ofHistory, List.mem_map, List.mem_filter]
    constructor
    · rintro ⟨e, ⟨he, hbelongs⟩, heq⟩
      obtain ⟨rfl, hscore⟩ := Candidate.mk.inj heq
      obtain rfl := Score.ranked.inj hscore
      exact ⟨entries, rfl, he, hbelongs⟩
    · rintro ⟨_, heq, he, hbelongs⟩
      obtain rfl := Except.ok.inj heq
      exact ⟨_, ⟨he, hbelongs⟩, rfl⟩
  | error failure =>
    rw [build_of_failure rfl hhistory] at h
    split at h
    · cases h
    · obtain rfl := Except.ok.inj h
      simp [hpinned]

end

/-- The candidates of the history lead elsewhere exactly when no entry recorded under the workspace
stands for a path left out. Whatever they lead to, none of them is recorded as a path left out. -/
theorem leadsElsewhere_iff {store : Store} (hstore : store.LeavesOut) {choices : Choices}
    {candidates : Candidates} (h : build store choices = .ok candidates) {scope : Scope}
    (hscope : scope = .of choices store.workingDir) :
    (candidates.LeadsElsewhere scope.leaveOut ↔
      ∀ entries, store.history scope.leaveOut = .ok entries → ∀ e ∈ entries, ∀ dir,
        scope.workspace.StandsFor e.path dir → dir ∉ scope.leaveOut) ∧
    ∀ c ∈ candidates.list, ∀ score, c.score = .ranked score → c.path ∉ scope.leaveOut := by
  subst hscope
  have hworkspace := workspace_of_build h
  have hpath : ∀ c ∈ candidates.list, ∀ score, c.score = .ranked score →
      c.path ∉ (Scope.of choices store.workingDir).leaveOut := by
    rintro ⟨path, _⟩ hc score rfl
    obtain ⟨entries, hhistory, he, -⟩ := (mem_ranked_iff h).mp hc
    exact hstore _ _ hhistory _ he
  refine ⟨⟨?_, ?_⟩, hpath⟩
  · intro hleads entries hhistory e he dir hdir
    -- An entry that stands for a directory belongs to the workspace, so that it is a candidate.
    have hcontains := Workspace.contains_iff_standsFor.mpr ⟨dir, hdir⟩
    rw [← hworkspace] at hcontains hdir
    have hbelongs : belongs candidates.workspace e = true := by simp [belongs, hcontains]
    have hmem := (mem_ranked_iff h).mpr ⟨entries, hhistory, he, hbelongs⟩
    rw [← Workspace.expand_of_standsFor hdir]
    exact hleads _ hmem e.score rfl
  · rintro hentries ⟨path, _⟩ hc score rfl
    cases hcontains : candidates.workspace.contains path with
    | false =>
      rw [Workspace.expand_of_not_contains hcontains]
      exact hpath _ hc score rfl
    | true =>
      obtain ⟨dir, hdir⟩ := Workspace.contains_iff_standsFor.mp hcontains
      obtain ⟨entries, hhistory, he, -⟩ := (mem_ranked_iff h).mp hc
      rw [Workspace.expand_of_standsFor hdir]
      exact hentries entries hhistory _ he dir (hworkspace ▸ hdir)

/-- An entry recorded under the workspace that stands for nothing left out keeps the list clear of
the hidden path and of the working directory. -/
theorem leadsElsewhere_of_sibling :
    let store := Store.ofListing (.ok ['/', 's', '/', 'p']) (.ok "2 w/y\n1 /s/x\n".toList)
      fun _ => .ok ()
    let choices : Choices := ⟨[], [['/', 's', '/', 'x']], [⟨['w'], ['/', 's']⟩]⟩
    ∃ candidates, build store choices = .ok candidates ∧
      candidates.list.map (·.path) = [['w', '/', 'y']] ∧
      candidates.LeadsElsewhere [['/', 's', '/', 'x'], ['/', 's', '/', 'p']] := by
  intro store choices
  have hbuild : build store choices = .ok
      ⟨[⟨['w', '/', 'y'], .ranked ⟨4611686018427387904⟩⟩], ⟨['w'], ['/', 's']⟩, none⟩ := by
    decide +kernel
  refine ⟨_, hbuild, rfl, ?_⟩
  have hresolve : Workspace.resolve ['/', 's', '/', 'p'] choices.workspaces =
      ⟨['w'], ['/', 's']⟩ := by
    decide +kernel
  have hscope : (⟨⟨['w'], ['/', 's']⟩, [['/', 's', '/', 'x'], ['/', 's', '/', 'p']]⟩ : Scope) =
      .of choices store.workingDir := congrArg (Scope.mk · _) hresolve.symm
  refine (leadsElsewhere_iff (leavesOut_ofListing _ _ _) hbuild hscope).1.mpr ?_
  intro entries hhistory e he dir hdir
  have hanswer : store.history [['/', 's', '/', 'x'], ['/', 's', '/', 'p']] =
      .ok [⟨⟨4611686018427387904⟩, ['w', '/', 'y']⟩] := by
    decide +kernel
  obtain rfl := Except.ok.inj (hanswer.symm.trans hhistory)
  obtain rfl := List.mem_singleton.mp he
  rw [← Workspace.expand_of_standsFor hdir]
  decide +kernel

/-- One row leads to the hidden path, one to the pinned path, and one to the working directory. -/
theorem leads_to_all_left_out :
    let store := Store.ofListing (.ok ['/', 's', '/', 'p']) (.ok "3 w/x\n2 w/q\n1 w/p\n".toList)
      fun _ => .ok ()
    let choices : Choices :=
      ⟨[['/', 's', '/', 'q']], [['/', 's', '/', 'x']], [⟨['w'], ['/', 's']⟩]⟩
    store.LeavesOut ∧ ∃ candidates, build store choices = .ok candidates ∧
      ¬ candidates.LeadsElsewhere (Scope.of choices store.workingDir).leaveOut ∧
      candidates.list.map (fun c => (c.score == .pinned, candidates.workspace.expand c.path)) =
        [(true, ['/', 's', '/', 'q']), (false, ['/', 's', '/', 'x']),
          (false, ['/', 's', '/', 'q']), (false, ['/', 's', '/', 'p'])] := by
  intro store choices
  have hbuild : build store choices = .ok
      ⟨[⟨['/', 's', '/', 'q'], .pinned⟩, ⟨['w', '/', 'x'], .ranked ⟨4613937818241073152⟩⟩,
        ⟨['w', '/', 'q'], .ranked ⟨4611686018427387904⟩⟩,
        ⟨['w', '/', 'p'], .ranked ⟨4607182418800017408⟩⟩], ⟨['w'], ['/', 's']⟩, none⟩ := by
    decide +kernel
  refine ⟨leavesOut_ofListing _ _ _, _, hbuild, ?_, by decide +kernel⟩
  intro hleads
  have hrow := hleads ⟨['w', '/', 'x'], .ranked ⟨4613937818241073152⟩⟩ (by simp) _ rfl
  exact hrow (by decide +kernel)

end Candidates

end DirPicker
