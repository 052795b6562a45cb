import DirPicker.Proofs.Opening
import DirPicker.Proofs.Outcome
import DirPicker.Proofs.RowTexts
import DirPicker.Proofs.SystemMessages

/-!
# One line for a note, and one for a row

Notes and rows are printed with a line feed behind each, so that one with a line feed in it would
pass for two. `Picker.SingleLines` says of a configuration that no note and no row of its picker has
one, whatever calls are made. What is read from a listing cannot bring one in: an entry is a part of
a line, and a line that is none is quoted in the note for it. Other texts are shown as they are. The
main statement tells which of them it depends on,

    singleLines_iff : SingleLines config ↔ PlainTexts config store name

namely the name of a listing that cannot be read, the pinned paths, and the directories that cannot
be entered. A line feed in one of these stays in the note or the row (`singleLines_fails`).
-/

namespace DirPicker

/-! ### Texts without line feeds -/

/-- No line has a line feed in it. -/
theorem Text.lineFeed_notMem_of_lined {t : Text} {ls : List Text} (h : Lined t ls) :
    ∀ line ∈ ls, '\n' ∉ line := by
  induction h with
  | none => simp
  | unended hline _ => simpa using hline
  | feed hline _ _ ih => exact List.forall_mem_cons.mpr ⟨hline, ih⟩
  | returnFeed hline _ ih => exact List.forall_mem_cons.mpr ⟨hline, ih⟩

theorem Score.lineFeed_notMem_cell (score : Score) : '\n' ∉ score.cell := by
  have hblanks : '\n' ∉ List.replicate (cellWidth - score.figure.length) ' ' := by
    intro hmem
    cases List.eq_of_mem_replicate hmem
  rw [cell_eq_padLeft]
  exact List.not_mem_append hblanks (notMem_figure (by decide) (by decide) score)

/-- A row is one line when its path is, as it is shown. -/
theorem Candidate.lineFeed_mem_row_iff {c : Candidate} {home : Home} :
    '\n' ∈ c.row home ↔ '\n' ∈ home.abbreviate c.path := by
  rw [row, List.mem_append, List.mem_cons, or_iff_right (Score.lineFeed_notMem_cell c.score),
    or_iff_right (by decide)]

theorem Home.lineFeed_notMem_abbreviate {path : Text} (h : '\n' ∉ path) (home : Home) :
    '\n' ∉ home.abbreviate path := by
  rcases home.abbreviate_cases path with hkept | ⟨dir, rest, -, hextends, htilde⟩
  · rwa [hkept]
  · rw [hextends.1, List.mem_append, not_or] at h
    rw [htilde]
    exact List.not_mem_cons_of_ne_of_not_mem (by decide) h.2

namespace Listing

theorem lineFeed_notMem_of_records {line : Text} {e : Entry} (h : Records line e)
    (hline : '\n' ∉ line) : '\n' ∉ e.path := by
  cases h with
  | mk =>
    -- The path is what is left of the line, so that it has nothing that the line has not.
    simp only [List.mem_append, not_or] at hline
    exact hline.2.2.2

/-- The paths in a listing have no line feeds, because each is part of a line. -/
theorem lineFeed_notMem_of_holds {lines : List Text} {entries : List Entry}
    (h : Holds lines entries) (hlines : ∀ line ∈ lines, '\n' ∉ line) :
    ∀ e ∈ entries, '\n' ∉ e.path := by
  induction h with
  | nil => simp
  | silent _ _ ih => exact ih (List.forall_mem_cons.mp hlines).2
  | entry hline _ ih =>
    obtain ⟨hfirst, hrest⟩ := List.forall_mem_cons.mp hlines
    exact List.forall_mem_cons.mpr ⟨lineFeed_notMem_of_records hline hfirst, ih hrest⟩

/-- An entry of a listing is a part of one line. -/
theorem lineFeed_notMem_of_parse {t : Text} {entries : List Entry} (h : parse t = .ok entries) :
    ∀ e ∈ entries, '\n' ∉ e.path :=
  lineFeed_notMem_of_holds (parseLines_eq_ok_iff.mp h)
    (Text.lineFeed_notMem_of_lined (Text.lined_lines t))

end Listing

/-! ### Messages -/

namespace StoreError

variable {path : Text} {cause : SystemError}

/-- Of a message about a path, what stands in front of the path and behind it is one line. -/
theorem lineFeed_mem_about_iff {front : Text} (hfront : '\n' ∉ front) (h : '\n' ∉ cause.message) :
    '\n' ∈ front ++ path ++ [':', ' '] ++ cause.message ↔ '\n' ∈ path := by
  have hcolon : '\n' ∉ [':', ' '] := by decide
  rw [List.mem_append, List.mem_append, List.mem_append, or_iff_left h, or_iff_left hcolon,
    or_iff_right hfront]

/-- The name of a listing is shown as it is, line feeds and all. -/
theorem lineFeed_mem_read_iff (h : '\n' ∉ cause.message) :
    '\n' ∈ (read path cause).message ↔ '\n' ∈ path :=
  lineFeed_mem_about_iff (by decide +kernel) h

/-- The path of a directory is shown as it is, line feeds and all. -/
theorem lineFeed_mem_enter_iff (h : '\n' ∉ cause.message) :
    '\n' ∈ (enter path cause).message ↔ '\n' ∈ path :=
  lineFeed_mem_about_iff (by decide +kernel) h

/-- What stands on a line that is no entry is quoted. -/
theorem lineFeed_notMem_malformed (line : Nat) (content : Text) :
    '\n' ∉ (malformed line content).message := by
  have hline : '\n' ∉ "line ".toList := by decide +kernel
  have hentry : '\n' ∉ ": malformed entry ".toList := by decide +kernel
  exact List.not_mem_append (List.not_mem_append (List.not_mem_append hline
    (Text.notMem_ofNat (by decide) line)) hentry) (Text.quoted_single_line content)

end StoreError

/-! ### Stores over listings -/

/-- The store has its history from a listing with the given name. The system can fail to read the
listing and to enter a directory, and has a message of one line for that. -/
structure Store.OverListing (name : Text) (store : Store) : Prop where
  history : ∃ listing, SystemError.OneLine listing ∧
    store.history = listingHistory (listing.mapError (.read name))
  enter : ∀ dir e, store.enter dir = .error e →
    ∃ cause : SystemError, '\n' ∉ cause.message ∧ e = .enter dir cause

/-- What a store answers about its history, whatever is to be left out: the listing cannot be read,
or is none, or has entries without a line feed in their paths. -/
inductive Store.Answers (name : Text) (store : Store) : Prop
  | unread {cause : SystemError} (hcause : '\n' ∉ cause.message)
      (hall : ∀ leaveOut, store.history leaveOut = .error (.read name cause)) : Answers name store
  | malformed {line content} (hall : ∀ leaveOut, store.history leaveOut =
      .error (.malformed line content)) : Answers name store
  | entries (hall : ∀ leaveOut, ∃ entries, store.history leaveOut = .ok entries ∧
      ∀ e ∈ entries, '\n' ∉ e.path) : Answers name store

theorem Store.OverListing.answers {name : Text} {store : Store} (h : store.OverListing name) :
    store.Answers name := by
  obtain ⟨listing, hcause, hhistory⟩ := h.history
  -- The listing is read before anything is left out, so that whatever goes wrong is the same each
  -- time.
  cases listing with
  | error cause =>
    apply Answers.unread (hcause cause rfl)
    intro leaveOut
    rw [hhistory]
    rfl
  | ok t =>
    cases hparse : Listing.parse t with
    | error malformed =>
      have hall : ∀ leaveOut, store.history leaveOut =
          .error (.malformed malformed.line malformed.content) := by
        intro leaveOut
        rw [hhistory]
        simp [listingHistory, Except.mapError, bind, Except.bind, hparse]
      exact .malformed hall
    | ok all =>
      apply Answers.entries
      intro leaveOut
      refine ⟨all.filter fun e => !leaveOut.contains e.path, ?_, ?_⟩
      · rw [hhistory]
        simp [listingHistory, Except.mapError, bind, Except.bind, hparse]
      · intro e he
        exact Listing.lineFeed_notMem_of_parse hparse e (List.mem_filter.mp he).1

theorem Standing.listing_eq_mapError (s : Standing) (stdin : ByteArray) (source : Source) :
    ∃ bytes : Except SystemError ByteArray, SystemError.OneLine bytes ∧
      s.listing stdin source = (bytes >>= decodeText).mapError (.read source.name) := by
  unfold listing
  cases source with
  | file path =>
    refine ⟨s.tree.readFile s.dir path, s.tree.oneLine_readFile s.dir path, ?_⟩
    -- Reading and decoding fail in the same way, and either failure is named after the source.
    dsimp only [bind]
    cases (s.tree.readFile s.dir path).bind decodeText <;> rfl
  | stdin =>
    refine ⟨.ok stdin, SystemError.oneLine_ok stdin, ?_⟩
    dsimp only [bind]
    cases (Except.ok stdin : Except SystemError ByteArray).bind decodeText <;> rfl

/-- The store over a file tree is one over a listing, for each source. -/
theorem Standing.overListing (s : Standing) (stdin : ByteArray) (source : Source) :
    (s.store stdin source).OverListing source.name where
  history := by
    obtain ⟨bytes, hbytes, hlisting⟩ := s.listing_eq_mapError stdin source
    refine ⟨_, SystemError.oneLine_bind hbytes SystemError.oneLine_decodeText, ?_⟩
    show Store.listingHistory (s.listing stdin source) = _
    rw [hlisting]
  enter dir e h := by
    cases hfound : s.tree.enter s.dir dir with
    | ok found => simp [store, Store.ofListing, enter, hfound, Except.map] at h
    | error cause =>
      refine ⟨cause, s.tree.oneLine_enter s.dir dir cause hfound, ?_⟩
      simpa [store, Store.ofListing, enter, hfound, Except.map, eq_comm] using h

namespace Picker

/-- The notes of the start, and those of a run of calls on the picker if it has opened. -/
def told (config : Config) (calls : List Call) : List Note :=
  (start config).notes ++ ((start config).picker.map (·.raised calls)).getD []

/-- No note and no row has a line feed in it, whatever calls are made on the picker that the
configuration starts. -/
structure SingleLines (config : Config) : Prop where
  notes : ∀ calls, ∀ note ∈ told config calls, '\n' ∉ note
  rows : ∀ p, (start config).picker = some p → ∀ calls, ∀ row ∈ (p.after calls).rows, '\n' ∉ row

/-- The texts that are shown as they are have no line feed in them. -/
structure PlainTexts (config : Config) (store : Store) (name : Text) : Prop where
  /-- The name of the listing, if it cannot be read. -/
  listing : ∀ leaveOut cause, store.history leaveOut = .error (.read name cause) → '\n' ∉ name
  /-- The pinned paths, as they are shown. -/
  pinned : ∀ path ∈ config.choices.pinned, '\n' ∉ config.home.abbreviate path
  /-- The directories of rows, if they cannot be entered. -/
  refused : ∀ p, (start config).picker = some p → ∀ c ∈ p.all, ∀ e,
    store.enter (p.workspace.expand c.path) = .error e → '\n' ∉ p.workspace.expand c.path

/-! ### Notes and rows of a picker -/

section

variable {config : Config} {store : Store} {name : Text} {p q : Picker} {calls : List Call}

/-- The only notes of calls are about directories of candidates that cannot be entered. -/
theorem notes_call (hlist : SameList p q) {c : Call} {note : Note} (h : note ∈ (q.call c).notes) :
    ∃ d ∈ p.all, ∃ e, p.store.enter (p.workspace.expand d.path) = .error e ∧ note = e.message := by
  have hlawful := lawful_call q c
  -- A call is quiet unless it asks for a directory and the store refuses it.
  by_cases hfails : ∃ dir e, (q.call c).asked = some dir ∧ q.store.enter dir = .error e
  · obtain ⟨dir, e, hasked, herror⟩ := hfails
    rw [hlawful.failure dir e hasked herror, List.mem_singleton] at h
    obtain ⟨-, i, d, -, hd, rfl⟩ := (hlawful.asked dir).mp hasked
    have hshown := List.mem_of_getElem? hd
    rw [hlist.shown] at hshown
    refine ⟨d, mem_of_mem_narrow hshown, e, ?_, h⟩
    rw [← hlist.store, ← hlist.workspace]
    exact herror
  · rw [hlawful.quiet fun dir e hasked herror => hfails ⟨dir, e, hasked, herror⟩] at h
    cases h

/-- Each note of a run is about the directory of a candidate that could not be entered. -/
theorem notes_raised (hlist : SameList p q) {note : Note} (h : note ∈ q.raised calls) :
    ∃ d ∈ p.all, ∃ e, p.store.enter (p.workspace.expand d.path) = .error e ∧ note = e.message := by
  induction calls generalizing q with
  | nil => cases h
  | cons c calls ih =>
    rcases List.mem_append.mp h with hc | hrest
    · exact notes_call hlist hc
    · exact ih (sameList_call hlist c) hrest

/-- The only note of a start is about a history that is not to be had. -/
theorem notes_start (hstore : config.store = some store) {note : Note} :
    note ∈ (start config).notes ↔
      ∃ e, store.history (scope config store).leaveOut = .error e ∧ note = historyNote e := by
  cases hhistory : store.history (scope config store).leaveOut with
  | ok entries => simp [start_of_history hstore hhistory]
  | error e => simp [start_of_failure hstore hhistory]

theorem mem_told_iff (hstore : config.store = some store) {note : Note} :
    note ∈ told config calls ↔
      (∃ e, store.history (scope config store).leaveOut = .error e ∧ note = historyNote e) ∨
      ∃ p, (start config).picker = some p ∧ note ∈ p.raised calls := by
  rw [told, List.mem_append, notes_start hstore]
  cases (start config).picker with
  | none => simp
  | some p => simp

/-- A directory that cannot be entered is told when its row is accepted. -/
theorem exists_told (hp : (start config).picker = some p) {d : Candidate} (hd : d ∈ p.all)
    {e : StoreError} (he : p.store.enter (p.workspace.expand d.path) = .error e) :
    ∃ calls, e.message ∈ told config calls := by
  have h := fresh_of_start hp
  -- The picker has just opened: all candidates are shown, and the number of the row is its place.
  obtain ⟨i, hi⟩ := List.mem_iff_getElem?.mp hd
  have htarget : p.target? i = some (p.workspace.expand d.path) := by
    rw [target?, h.shown, hi]
    rfl
  refine ⟨[.accept i], (mem_told_iff h.store).mpr (.inr ⟨p, hp, ?_⟩)⟩
  rw [raised, call, accept_of_error h.state htarget he]
  exact List.mem_cons_self

theorem mem_rows_start (h : Fresh config p) {d : Candidate} (hd : d ∈ p.all) :
    d.row config.home ∈ (p.after []).rows := by
  show _ ∈ CandidateList.rows p.shown p.home
  rw [CandidateList.rows, h.shown, h.home]
  exact List.mem_map_of_mem hd

/-- Whatever the filter, a row shown is that of a candidate. -/
theorem mem_rows_after (h : Fresh config p) {row : Text} (hrow : row ∈ (p.after calls).rows) :
    ∃ d ∈ p.all, row = d.row config.home := by
  have hlist := sameList_after h.sameList calls
  obtain ⟨d, hd, hrow⟩ := List.mem_map.mp hrow
  rw [hlist.shown] at hd
  refine ⟨d, mem_of_mem_narrow hd, ?_⟩
  rw [← hrow, hlist.home, h.home]

/-! ### Where a candidate comes from -/

/-- A ranked candidate is an entry of the listing. -/
theorem lineFeed_notMem_of_ranked (h : Fresh config p) (hover : p.store.OverListing name)
    {path : Text} {score : Double} (hc : ⟨path, .ranked score⟩ ∈ p.all) : '\n' ∉ path := by
  obtain ⟨warning, hbuilt⟩ := h.built
  -- A history with entries in it has been read, and neither of the failures has happened.
  obtain ⟨entries, hhistory, hentry, -⟩ := (Candidates.mem_ranked_iff hbuilt).mp hc
  cases hover.answers with
  | unread _ hall =>
    rw [hall] at hhistory
    cases hhistory
  | malformed hall =>
    rw [hall] at hhistory
    cases hhistory
  | entries hall =>
    obtain ⟨all, hok, hpaths⟩ := hall (Scope.of config.choices p.store.workingDir).leaveOut
    rw [hok] at hhistory
    obtain rfl := Except.ok.inj hhistory
    exact hpaths _ hentry

/-- A picker with pinned paths opens in any case. -/
theorem exists_picker (hstore : config.store = some store) (h : config.choices.pinned ≠ []) :
    ∃ p, (start config).picker = some p := by
  cases hhistory : store.history (scope config store).leaveOut with
  | ok entries => exact ⟨_, by rw [start_of_history hstore hhistory]⟩
  | error e => exact ⟨_, by rw [start_of_failure hstore hhistory, if_neg h]⟩

theorem pinned_mem_iff (hp : (start config).picker = some p) {path : Text} :
    ⟨path, .pinned⟩ ∈ p.all ↔ path ∈ config.choices.pinned := by
  have hstore := (fresh_of_start hp).store
  cases hhistory : p.store.history (scope config p.store).leaveOut with
  | ok entries =>
    rw [start_of_history hstore hhistory] at hp
    rw [← Option.some.inj hp]
    simp [onto, Candidates.ofPinned, Candidates.ofHistory]
  | error e =>
    rw [start_of_failure hstore hhistory] at hp
    split at hp
    · cases hp
    · rw [← Option.some.inj hp]
      simp [onto, Candidates.ofPinned]

/-! ### What the lines depend on -/

theorem lineFeed_mem_historyNote_iff {e : StoreError} :
    '\n' ∈ historyNote e ↔ '\n' ∈ e.message := by
  have hfront : '\n' ∉ "db error: ".toList := by decide +kernel
  exact List.mem_append.trans (or_iff_right hfront)

theorem plainTexts_of_singleLines (hstore : config.store = some store)
    (hover : store.OverListing name) (h : SingleLines config) : PlainTexts config store name where
  listing leaveOut cause hread := by
    -- A listing that cannot be read once can never be, and the start has a note about it.
    cases hover.answers with
    | unread hcause hall =>
      have hnote : _ ∈ told config [] := (mem_told_iff hstore).mpr (.inl ⟨_, hall _, rfl⟩)
      have hline := h.notes [] _ hnote
      rwa [lineFeed_mem_historyNote_iff, StoreError.lineFeed_mem_read_iff hcause] at hline
    | malformed hall =>
      rw [hall] at hread
      cases hread
    | entries hall =>
      obtain ⟨entries, hok, -⟩ := hall leaveOut
      rw [hok] at hread
      cases hread
  pinned path hpath := by
    -- With something pinned the picker opens even without a history, and shows the pinned row.
    obtain ⟨p, hp⟩ := exists_picker hstore (List.ne_nil_of_mem hpath)
    have hrow := mem_rows_start (fresh_of_start hp) ((pinned_mem_iff hp).mpr hpath)
    have hline := h.rows p hp [] _ hrow
    rwa [Candidate.lineFeed_mem_row_iff] at hline
  refused p hp c hc e he := by
    obtain rfl : store = p.store := Option.some.inj (hstore.symm.trans (fresh_of_start hp).store)
    -- Accepting the row brings the refusal into the notes.
    obtain ⟨calls, hnote⟩ := exists_told hp hc he
    obtain ⟨cause, hcause, rfl⟩ := hover.enter _ e he
    have hline := h.notes calls _ hnote
    rwa [StoreError.lineFeed_mem_enter_iff hcause] at hline

theorem singleLines_of_plainTexts (hstore : config.store = some store)
    (hover : store.OverListing name) (h : PlainTexts config store name) : SingleLines config where
  notes calls note hnote := by
    -- A note is that of the start or one of a call.
    rcases (mem_told_iff hstore).mp hnote with ⟨e, he, rfl⟩ | ⟨p, hp, hraised⟩
    · rw [lineFeed_mem_historyNote_iff]
      cases hover.answers with
      | unread hcause hall =>
        have hname := h.listing _ _ (hall (scope config store).leaveOut)
        rw [hall] at he
        obtain rfl := Except.error.inj he
        rwa [StoreError.lineFeed_mem_read_iff hcause]
      | malformed hall =>
        rw [hall] at he
        obtain rfl := Except.error.inj he
        exact StoreError.lineFeed_notMem_malformed _ _
      | entries hall =>
        obtain ⟨entries, hok, -⟩ := hall (scope config store).leaveOut
        rw [hok] at he
        cases he
    · have hfresh := fresh_of_start hp
      obtain rfl : store = p.store := Option.some.inj (hstore.symm.trans hfresh.store)
      obtain ⟨d, hd, e, he, rfl⟩ := notes_raised hfresh.sameList hraised
      have hdir := h.refused p hp d hd e he
      obtain ⟨cause, hcause, rfl⟩ := hover.enter _ e he
      rwa [StoreError.lineFeed_mem_enter_iff hcause]
  rows p hp calls row hrow := by
    have hfresh := fresh_of_start hp
    obtain rfl : store = p.store := Option.some.inj (hstore.symm.trans hfresh.store)
    obtain ⟨⟨path, score⟩, hd, rfl⟩ := mem_rows_after hfresh hrow
    rw [Candidate.lineFeed_mem_row_iff]
    -- Pinned paths are plain by assumption, ranked ones because they come from a listing.
    cases score with
    | pinned => exact h.pinned path ((pinned_mem_iff hp).mp hd)
    | ranked value =>
      exact Home.lineFeed_notMem_abbreviate (lineFeed_notMem_of_ranked hfresh hover hd) config.home

/-- Printed with a line feed behind each, texts without one are the lines of what is printed. -/
theorem pieces_printed {lines : List Text} (h : ∀ line ∈ lines, '\n' ∉ line) :
    Text.pieces '\n' (Program.printed lines) = lines ++ [[]] := by
  induction lines with
  | nil => rfl
  | cons line lines ih =>
    obtain ⟨hline, hlines⟩ := List.forall_mem_cons.mp h
    have hprinted : Program.printed (line :: lines) = line ++ '\n' :: Program.printed lines := by
      simp [Program.printed]
    rw [hprinted, Text.pieces_append_cons hline, ih hlines, List.cons_append]

/-- What is behind the kind of an entry is kept, so that only the root can bring a line feed in. -/
theorem lineFeed_mem_root {w : Workspace} {path : Text} (hpath : '\n' ∉ path)
    (h : '\n' ∈ w.expand path) : '\n' ∈ w.root := by
  unfold Workspace.expand at h
  split at h
  -- Behind the root stands an end of the path.
  · rcases List.mem_append.mp h with hroot | hrest
    · exact hroot
    · exact absurd (List.mem_of_mem_drop hrest) hpath
  · exact absurd h hpath

end

/-- A picker on a listing tells single lines exactly when the texts that are shown as they are have
no line feed. A line that is no entry never makes two of a note. Of an entry that is listed, the row
is one line, and the directory is one unless the root of the workspace has a line feed. Under a
configuration of single lines, what is printed has the rows for its lines, each in its place, and
what is printed for the user has the notes. -/
theorem singleLines_iff {config : Config} {store : Store} {name : Text}
    (hstore : config.store = some store) (hover : store.OverListing name) :
    (SingleLines config ↔ PlainTexts config store name) ∧
    (∀ line content, '\n' ∉ historyNote (.malformed line content)) ∧
    (∀ p, (start config).picker = some p → ∀ path score, ⟨path, .ranked score⟩ ∈ p.all →
      '\n' ∉ Candidate.row ⟨path, .ranked score⟩ p.home ∧
        ('\n' ∈ p.workspace.expand path → '\n' ∈ p.workspace.root)) ∧
    (SingleLines config → ∀ calls,
      (∀ p, (start config).picker = some p →
        Text.pieces '\n' (Program.printed (p.after calls).rows) = (p.after calls).rows ++ [[]]) ∧
      Text.pieces '\n' (Program.printed ((told config calls).map ("hcd: ".toList ++ ·))) =
        (told config calls).map ("hcd: ".toList ++ ·) ++ [[]]) := by
  refine ⟨⟨plainTexts_of_singleLines hstore hover, singleLines_of_plainTexts hstore hover⟩, ?_, ?_,
    ?_⟩
  · intro line content
    rw [lineFeed_mem_historyNote_iff]
    exact StoreError.lineFeed_notMem_malformed line content
  · intro p hp path score hc
    have hfresh := fresh_of_start hp
    obtain rfl : store = p.store := Option.some.inj (hstore.symm.trans hfresh.store)
    have hpath := lineFeed_notMem_of_ranked hfresh hover hc
    rw [Candidate.lineFeed_mem_row_iff]
    exact ⟨Home.lineFeed_notMem_abbreviate hpath p.home, lineFeed_mem_root hpath⟩
  · intro h calls
    refine ⟨fun p hp => pieces_printed (h.rows p hp calls), pieces_printed ?_⟩
    intro line hline
    obtain ⟨note, hnote, rfl⟩ := List.mem_map.mp hline
    exact List.not_mem_append (by decide +kernel) (h.notes calls note hnote)

/-- A line with a quote on it is no entry, and the pinned path has no line feed: each of the two
notes is one line. -/
theorem singleLines_iff_of_malformed :
    let s : Standing := ⟨⟨[([['h']], .file ⟨#[34, 10]⟩)]⟩, .ofPlace []⟩
    let source : Source := .file ['/', 'h']
    let config : Config := ⟨some (s.store .empty source), ⟨[['/', 'p']], [], []⟩, ⟨none⟩⟩
    SingleLines config ∧
      Text.pieces '\n' (Program.printed ((told config [.accept 0]).map ("hcd: ".toList ++ ·))) =
        ["hcd: db error: line 1: malformed entry \"\\\"\"".toList,
          "hcd: cd /p: No such file or directory (os error 2)".toList, []] := by
  intro s source config
  have hover := s.overListing .empty source
  -- The only row is the pinned one, so that no other directory can be refused.
  have hdirs : (start config).picker.map (fun p => p.all.map fun c => p.workspace.expand c.path) =
      some [['/', 'p']] := by
    decide +kernel
  have hstore : config.store = some (s.store .empty source) := rfl
  obtain ⟨hiff, -, -, hlines⟩ := singleLines_iff hstore hover
  have hplain : PlainTexts config (s.store .empty source) source.name := by
    refine ⟨fun leaveOut cause hread => by decide, by decide +kernel, ?_⟩
    intro p hp c hc e he
    rw [hp] at hdirs
    have hdir := List.mem_map_of_mem (f := fun c => p.workspace.expand c.path) hc
    have hall : p.all.map (fun c => p.workspace.expand c.path) = _ := Option.some.inj hdirs
    rw [hall, List.mem_singleton] at hdir
    rw [hdir]
    decide
  have hsingle := hiff.mpr hplain
  have htold : (told config [.accept 0]).map ("hcd: ".toList ++ ·) ++ [[]] =
      ["hcd: db error: line 1: malformed entry \"\\\"\"".toList,
        "hcd: cd /p: No such file or directory (os error 2)".toList, []] := by
    decide +kernel
  exact ⟨hsingle, (hlines hsingle [.accept 0]).2.trans htold⟩

/-- The name of a listing that is missing, and the pinned path that stands in for it: each of them
has a line feed, and none of the messages and rows about them is one line. -/
theorem singleLines_fails :
    let config : Config := {
      store := some (Standing.store ⟨⟨[]⟩, .ofPlace []⟩ .empty (.file "a\nb".toList))
      choices := ⟨["p\nq".toList], [], []⟩
      home := ⟨none⟩ }
    told config [.accept 0] =
        ["db error: cannot read a\nb: No such file or directory (os error 2)".toList,
          "cd p\nq: No such file or directory (os error 2)".toList] ∧
      (start config).picker.map (·.rows) = some ["  * p\nq".toList] ∧ ¬ SingleLines config := by
  intro config
  have htold : told config [.accept 0] =
      ["db error: cannot read a\nb: No such file or directory (os error 2)".toList,
        "cd p\nq: No such file or directory (os error 2)".toList] := by
    decide +kernel
  refine ⟨htold, by decide +kernel, ?_⟩
  intro h
  have hnotes := h.notes [.accept 0]
  rw [htold] at hnotes
  revert hnotes
  decide +kernel

end Picker

end DirPicker
