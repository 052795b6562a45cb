import DirPicker.Proofs.Destination
import DirPicker.Proofs.Selection
import DirPicker.Proofs.Outcome

/-!
# The numbers of the rows

A caller may have the rows listed, and then choose one of them by its number in a second run. The
two runs share nothing but what they find around them, so they have to come to the same rows, in the
same order. The main statement says that they do:

    asked_of_listed_row : the rows printed are those of `candidatesShown`, and choosing a number
      asks for the directory of the candidate with that number, or for nothing behind the last one

`asked_accept` is about the picker: what accepting a row asks for does not depend on the answer of
the store. `requests_of_picking` carries it to the run.
-/

namespace DirPicker

/-- An open picker asks for the directory of the row, if there is such a row. -/
theorem Picker.asked_accept {q : Picker} (h : q.state = .opened) (row : Nat) :
    (q.accept row).asked = q.target? row := by
  cases htarget : q.target? row with
  | none => rw [accept_of_none h htarget]
  | some dir =>
    cases henter : q.store.enter dir with
    | ok _ => rw [accept_of_ok h htarget henter]
    | error e => rw [accept_of_error h htarget henter]

/-- The same options for having the rows listed. -/
def Options.listing (options : Options) : Options := { options with list := true, pick := none }

/-- The same options for choosing a row. -/
def Options.picking (options : Options) (row : Nat) : Options :=
  { options with list := false, pick := some row }

namespace Program

section

variable (around : Surroundings) (options : Options)

/-- The candidates that a run has rows for: those that the query passes, and none if no picker
opens. -/
def candidatesShown : CandidateList :=
  ((Picker.start (config around options)).picker.map fun p => (narrowed options p).shown).getD []

/-- The workspace of the working directory, in which the run takes place. -/
def workspace : Workspace :=
  ((config around options).store.map fun store =>
    (Scope.of (choices around options) store.workingDir).workspace).getD .outside

/-- The directories that the store is asked to enter in a run, one after another. -/
def requests (terminal : Except SystemError Terminal) : List Text :=
  ((Picker.start (config around options)).picker.map fun p =>
    p.requests (calls options terminal p)).getD []

end

section

variable {around : Surroundings} {options : Options} {p : Picker}

/-! ### The picker of a run -/

theorem opened_narrowed (h : p.state = .opened) (options : Options) :
    (narrowed options p).state = .opened := by
  rw [narrowed_eq_after, Picker.after_state]
  exact ⟨h, not_closes_of_query options⟩

theorem sameList_narrowed (h : Picker.SameList p p) (options : Options) :
    Picker.SameList p (narrowed options p) := by
  rw [narrowed_eq_after]
  exact Picker.sameList_after h _

theorem workspace_eq (hp : (Picker.start (config around options)).picker = some p) :
    workspace around options = p.workspace := by
  have hfresh := Picker.fresh_of_start hp
  rw [workspace, hfresh.store, hfresh.workspace_eq]
  rfl

theorem candidatesShown_eq (hp : (Picker.start (config around options)).picker = some p) :
    candidatesShown around options = (narrowed options p).shown := by
  rw [candidatesShown, hp]
  rfl

/-! ### Choosing a row -/

/-- Where a row of the picker leads is where its candidate leads in the workspace of the run. -/
theorem target?_narrowed (hp : (Picker.start (config around options)).picker = some p)
    (row : Nat) : (narrowed options p).target? row =
      (candidatesShown around options)[row]?.map
        fun c => (workspace around options).expand c.path := by
  have hsame := sameList_narrowed (Picker.fresh_of_start hp).sameList options
  rw [Picker.target?, candidatesShown_eq hp, workspace_eq hp, hsame.workspace]

theorem requests_eq (hp : (Picker.start (config around options)).picker = some p)
    (terminal : Except SystemError Terminal) :
    requests around options terminal = p.requests (calls options terminal p) := by
  rw [requests, hp]
  rfl

/-- A run that chooses a row makes one request for the candidate with that number, if there is
one. -/
theorem requests_of_picking (hp : (Picker.start (config around options)).picker = some p)
    (row : Nat) (terminal : Except SystemError Terminal) :
    requests around (options.picking row) terminal =
      ((candidatesShown around options)[row]?.map
        fun c => (workspace around options).expand c.path).toList := by
  have hstart : (Picker.start (config around (options.picking row))).picker = some p := hp
  have hopened := opened_narrowed (Picker.fresh_of_start hp).state options
  have hcalls : calls (options.picking row) terminal p =
      queryCalls options ++ [.accept row] := rfl
  -- The query closes nothing, so that the request is that of the row alone.
  have hlast := (Picker.told_append (p := p) (not_closes_of_query options) [.accept row]).1
  rw [requests_eq hstart, hcalls, hlast, ← narrowed_eq_after]
  calc (narrowed options p).requests [.accept row]
      = ((narrowed options p).accept row).asked.toList := List.append_nil _
    _ = _ := by rw [Picker.asked_accept hopened, target?_narrowed hp]

/-- A run that chooses a row asks for what it makes requests for, and fails without any. -/
theorem picking_outcome (hp : (Picker.start (config around options)).picker = some p) (row : Nat)
    (faults : Faults) (terminal : Except SystemError Terminal) :
    let picked := (Course.ofOptions around (options.picking row)).finishDespite faults terminal
    picked.asked.toList = requests around (options.picking row) terminal ∧
      (picked.asked = none → picked.status = 1) := by
  intro picked
  obtain ⟨failure, hfailure, hreports, -, -, hchooses⟩ :=
    @ofOptions_outcome (options.picking row) p around hp faults terminal
  have hstart : (Picker.start (config around (options.picking row))).picker = some p := hp
  refine ⟨hreports.asked.trans (requests_eq hstart terminal).symm, ?_⟩
  intro hnone
  have hsound := failure_eq_none hfailure (.inr (Option.some_ne_none row))
  obtain ⟨hasked, -, -, -⟩ | ⟨-, -, hstatus⟩ := hchooses rfl fun _ => hsound
  · cases hnone.symm.trans hasked
  · exact hstatus

end

/-! ### The two runs -/

/-- A run that lists prints the row of each candidate shown. -/
theorem output_of_listing {around : Surroundings} {options : Options} {p : Picker}
    (hp : (Picker.start (config around options)).picker = some p) (faults : Faults)
    (terminal : Except SystemError Terminal) :
    ((Course.ofOptions around options.listing).finishDespite faults terminal).output =
      printed ((candidatesShown around options).map fun c => c.row (Home.of around.home)) := by
  obtain ⟨_, -, -, hlists, -, -⟩ := @ofOptions_outcome options.listing p around hp faults terminal
  have hfresh := Picker.fresh_of_start hp
  have hhome : (narrowed options p).home = Home.of around.home :=
    (sameList_narrowed hfresh.sameList options).home.trans hfresh.home
  have hrows : (narrowed options.listing p).rows =
      (narrowed options p).shown.map fun c => c.row (narrowed options p).home := rfl
  rw [(hlists rfl).output_eq, hrows, hhome, candidatesShown_eq hp]

/-- A run that lists the rows and one that chooses a row by its number, with everything else the
same. What the first prints are the rows of the candidates shown, each of them a score, a blank and
the path as shown. With a row of that number, the second makes one request, for the directory that
this candidate leads to; with too few rows, it makes none and fails. -/
theorem asked_of_listed_row {around : Surroundings} {options : Options}
    {listing picking : List Text} {row : Nat}
    (hlisting : CommandLine.parse listing (around.setting historyVariable) = .ok options.listing)
    (hpicking : CommandLine.parse picking (around.setting historyVariable) =
      .ok (options.picking row))
    (faults : Faults) (terminal : Except SystemError Terminal) :
    let shown := candidatesShown around options
    let listed := runDespite faults around terminal listing
    let picked := runDespite faults around terminal picking
    let home := Home.of around.home
    listed.output = printed (shown.map fun c => c.score.cell ++ ' ' :: home.abbreviate c.path) ∧
    (∀ c, shown[row]? = some c →
      let dir := (workspace around options).expand c.path
      picked.asked = some dir ∧ requests around (options.picking row) terminal = [dir]) ∧
    (shown.length ≤ row →
      picked.asked = none ∧ requests around (options.picking row) terminal = [] ∧
        picked.status = 1) := by
  intro shown listed picked home
  have hlisted : listed =
      (Course.ofOptions around options.listing).finishDespite faults terminal := by
    simp only [listed, runDespite, begin, hlisting]
  have hpicked : picked =
      (Course.ofOptions around (options.picking row)).finishDespite faults terminal := by
    simp only [picked, runDespite, begin, hpicking]
  cases hp : (Picker.start (config around options)).picker with
  -- Without a picker there is no row, and nothing to ask for.
  | none =>
    have hshown : shown = [] := by
      simp only [shown, candidatesShown, hp]
      rfl
    have hnothing : requests around (options.picking row) terminal = [] := by
      have hstart : (Picker.start (config around (options.picking row))).picker = none := hp
      rw [requests, hstart]
      rfl
    rw [hlisted, hpicked, ofOptions_of_not_started options.listing hp,
      ofOptions_of_not_started (options.picking row) hp, hshown]
    refine ⟨rfl, ?_, fun _ => ⟨rfl, hnothing, rfl⟩⟩
    intro c hc
    cases hc
  | some p =>
    obtain ⟨hrequests, hfails⟩ := picking_outcome hp row faults terminal
    have hasked := requests_of_picking hp row terminal
    rw [hlisted, hpicked]
    refine ⟨output_of_listing hp faults terminal, ?_, ?_⟩
    · intro c hc dir
      rw [hc] at hasked
      rw [hasked, Option.map_some] at hrequests
      exact ⟨Option.toList_eq_singleton_iff.mp hrequests, hasked⟩
    · intro hle
      rw [List.getElem?_eq_none hle] at hasked
      rw [hasked, Option.map_none] at hrequests
      have hnone := Option.toList_eq_nil_iff.mp hrequests
      exact ⟨hnone, hasked, hfails hnone⟩

/-- With the rows of `/p/x`, `w/x` and `/xy` left by the query, row 1 leads below the root of the
workspace, and there is no row 3. -/
theorem asked_of_listed_row_in_workspace :
    let options : Options := {
      query := some ['x'], history := some ['l'], pinned := ["/p/x".toList]
      workspaces := [⟨['w'], "/s".toList⟩] }
    let arguments := ["--history=l".toList, "--pin=/p/x".toList, "--workspace=w=/s".toList, ['x']]
    let around : Surroundings := {
      setting := fun _ => none
      store := fun _ => Store.ofListing (.ok "/s/p".toList)
        (.ok "5 w/x\n4 /b\n3 /xy\n".toList) fun _ => .ok () }
    let run (last : Text) := runDespite {} around (.error .noDevice) (arguments ++ [last])
    CommandLine.parse (arguments ++ ["--list".toList]) none = .ok options.listing ∧
      CommandLine.parse (arguments ++ ["--pick=1".toList]) none = .ok (options.picking 1) ∧
      (run "--list".toList).output = "  * /p/x\n  5 w/x\n  3 /xy\n".toList ∧
      (run "--pick=1".toList).asked = some "/s/x".toList ∧ (run "--pick=3".toList).status = 1 := by
  intro options arguments around run
  have hlisting : CommandLine.parse (arguments ++ ["--list".toList])
      (around.setting historyVariable) = .ok options.listing := rfl
  have hpicking : CommandLine.parse (arguments ++ ["--pick=1".toList])
      (around.setting historyVariable) = .ok (options.picking 1) := rfl
  have hbehind : CommandLine.parse (arguments ++ ["--pick=3".toList])
      (around.setting historyVariable) = .ok (options.picking 3) := rfl
  have hshown : candidatesShown around options = [⟨"/p/x".toList, .pinned⟩,
      ⟨"w/x".toList, .ranked ⟨0x4014000000000000⟩⟩,
      ⟨"/xy".toList, .ranked ⟨0x4008000000000000⟩⟩] := by
    decide +kernel
  have hworkspace : workspace around options = ⟨['w'], "/s".toList⟩ := by decide +kernel
  obtain ⟨hlisted, hrow, -⟩ := asked_of_listed_row hlisting hpicking {} (.error .noDevice)
  obtain ⟨-, -, hfails⟩ := asked_of_listed_row hlisting hbehind {} (.error .noDevice)
  rw [hshown] at hlisted hrow hfails
  refine ⟨hlisting, hpicking, hlisted.trans (by decide +kernel), ?_, (hfails (by decide)).2.2⟩
  rw [(hrow _ rfl).1, hworkspace]
  rfl

end Program

end DirPicker
