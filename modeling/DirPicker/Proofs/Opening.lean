import DirPicker.FileTree
import DirPicker.Proofs.Destination
import DirPicker.Proofs.ListingFormat

/-!
# How a picker opens

A picker needs something to show: a history that can be read, or pinned paths to fall back on. The
main statement goes through all that a store may answer:

    start_degrades : without a history and without pinned paths there is one note and no picker;
      with pinned paths alone there is one note, and a picker on them in the workspace of the
      working directory; with a history there is a picker on all candidates, and no note

`Picker.onto` is the picker that opens. What the store would answer about entering a directory makes
no difference, for nothing is entered. A store over a listing has no history when the listing is no
text (`Standing.Offers`) or has a line that is not well-formed, and it does not matter what is to be
left out.
-/

namespace DirPicker

/-! ### Listings that give no history -/

/-- What is at the source can be read, and is the text `t` in UTF-8. -/
inductive Standing.Offers (s : Standing) (stdin : ByteArray) : Source → Text → Prop
  | file {path bytes} {t : Text} : s.tree.readFile s.dir path = .ok bytes → bytes = t.utf8Encode →
      Offers s stdin (.file path) t
  | stdin {t : Text} : stdin = t.utf8Encode → Offers s stdin .stdin t

/-- Bytes decode to a text when they are its UTF-8 form. -/
theorem decodeText_eq_ok_iff {bytes : ByteArray} {t : Text} :
    decodeText bytes = .ok t ↔ bytes = t.utf8Encode := by
  unfold decodeText String.fromUTF8?
  constructor
  · intro h
    split at h
    · next str hstr =>
      obtain rfl := Except.ok.inj h
      split at hstr
      · obtain rfl := Option.some.inj hstr
        exact (String.utf8Encode_toList (b := String.fromUTF8 bytes _)).symm
      · cases hstr
    · cases h
  · rintro rfl
    rw [dif_pos ByteArray.isValidUTF8_utf8Encode]
    exact congrArg Except.ok (String.toList_ofList (l := t))

section

variable {s : Standing} {stdin : ByteArray} {source : Source} {t : Text}

theorem Standing.listing_eq_ok_iff : s.listing stdin source = .ok t ↔ s.Offers stdin source t := by
  unfold listing
  constructor
  · intro h
    cases source with
    | file path =>
      cases hread : s.tree.readFile s.dir path with
      | error cause => simp [hread, Except.bind] at h
      | ok bytes =>
        simp only [hread, Except.bind] at h
        split at h
        · next found hfound =>
          obtain rfl := Except.ok.inj h
          exact .file hread (decodeText_eq_ok_iff.mp hfound)
        · cases h
    | stdin =>
      simp only [Except.bind] at h
      split at h
      · next found hfound =>
        obtain rfl := Except.ok.inj h
        exact .stdin (decodeText_eq_ok_iff.mp hfound)
      · cases h
  · intro h
    cases h with
    | file hread hbytes => simp [hread, Except.bind, decodeText_eq_ok_iff.mpr hbytes]
    | stdin hbytes => simp [Except.bind, decodeText_eq_ok_iff.mpr hbytes]

theorem Listing.wellFormed_of_holds {lines : List Text} {entries : List Entry}
    (h : Holds lines entries) : ∀ line ∈ lines, WellFormed line := by
  induction h with
  | nil => simp
  | silent hline _ ih => exact List.forall_mem_cons.mpr ⟨.inl hline, ih⟩
  | entry hline _ ih => exact List.forall_mem_cons.mpr ⟨.inr ⟨_, hline⟩, ih⟩

/-- A text is no listing when one of its lines, wherever it stands, is not well-formed. -/
theorem Listing.exists_error_iff :
    (∃ e, parse t = .error e) ↔
      ∃ lines, Text.Lined t lines ∧ ∃ line ∈ lines, ¬ WellFormed line := by
  constructor
  · rintro ⟨e, he⟩
    -- The line that the error names is one that is not well-formed.
    obtain ⟨before, after, hlines, -, hcontent, -⟩ := parseLines_eq_error_iff.mp he
    exact ⟨_, Text.lined_lines t, e.content, by simp [hlines], hcontent⟩
  · rintro ⟨lines, hlines, line, hline, hmalformed⟩
    cases hparse : parse t with
    | error e => exact ⟨e, rfl⟩
    | ok entries =>
      -- A text that can be read has well-formed lines only.
      have hholds := parseLines_eq_ok_iff.mp hparse
      rw [Text.lines_of_lined hlines] at hholds
      exact absurd (wellFormed_of_holds hholds line hline) hmalformed

/-- The history of a listing fails when there is no text, or the text is no listing. -/
theorem Standing.exists_history_error_iff (leaveOut : List Text) :
    (∃ e, (s.store stdin source).history leaveOut = .error e) ↔
      (∀ t, ¬ s.Offers stdin source t) ∨
        ∃ t, s.Offers stdin source t ∧ ∃ e, Listing.parse t = .error e := by
  have hhistory : (s.store stdin source).history leaveOut =
      Store.listingHistory (s.listing stdin source) leaveOut := rfl
  simp only [hhistory, ← listing_eq_ok_iff]
  cases hlisting : s.listing stdin source with
  | error e => simp [Store.listingHistory, bind, Except.bind]
  | ok t =>
    cases hparse : Listing.parse t with
    | error e => simp [Store.listingHistory, bind, Except.bind, hparse]
    | ok entries => simp [Store.listingHistory, bind, Except.bind, hparse]

/-- The failure is the same whatever is to be left out. -/
theorem Standing.history_eq_error_iff (leaveOut leaveOut' : List Text) (e : StoreError) :
    (s.store stdin source).history leaveOut = .error e ↔
      (s.store stdin source).history leaveOut' = .error e := by
  show Store.listingHistory _ _ = _ ↔ Store.listingHistory _ _ = _
  -- Reading and parsing come first, and what is to be left out is asked for behind them.
  cases hlisting : s.listing stdin source with
  | error cause => simp [Store.listingHistory, bind, Except.bind]
  | ok t =>
    cases hparse : Listing.parse t <;> simp [Store.listingHistory, bind, Except.bind, hparse]

end

/-- The same configuration with other answers about entering directories. -/
def Config.entering (config : Config) (enter : Text → Except StoreError Unit) : Config :=
  { config with store := config.store.map fun store => { store with enter } }

namespace Picker

variable {config : Config} {store : Store}

/-! ### The start -/

/-- The scope that a picker on the store has. -/
def scope (config : Config) (store : Store) : Scope := .of config.choices store.workingDir

/-- The picker that opens on a store with the given candidates: all of them are shown. -/
def onto (config : Config) (store : Store) (candidates : CandidateList) : Picker where
  store := store
  home := config.home
  workspace := (scope config store).workspace
  all := candidates
  shown := candidates
  filter := []
  state := .opened

/-- With a history the picker opens, and there is nothing to say. -/
theorem start_of_history {entries : List Entry} (hstore : config.store = some store)
    (h : store.history (scope config store).leaveOut = .ok entries) :
    start config = ⟨[], some (onto config store (Candidates.ofPinned config.choices.pinned ++
      Candidates.ofHistory (scope config store).workspace entries))⟩ := by
  simp only [start, hstore, Candidates.build_of_history rfl h]
  rfl

/-- Without a history there is a note, and a picker only if something is pinned. -/
theorem start_of_failure {e : StoreError} (hstore : config.store = some store)
    (h : store.history (scope config store).leaveOut = .error e) :
    start config = ⟨[historyNote e], if config.choices.pinned = [] then none else
      some (onto config store (Candidates.ofPinned config.choices.pinned))⟩ := by
  simp only [start, hstore, Candidates.build_of_failure rfl h]
  cases hpinned : config.choices.pinned with
  | nil => rfl
  | cons path paths => rfl

/-- Starting a picker does not depend on what the store answers about entering a directory. -/
theorem start_entering (config : Config) (enter : Text → Except StoreError Unit) :
    start (config.entering enter) =
      ⟨(start config).notes,
        (start config).picker.map fun p => { p with store := { p.store with enter } }⟩ := by
  cases hstore : config.store with
  | none => simp [start, Config.entering, hstore]
  | some store =>
    have hentering : (config.entering enter).store = some { store with enter } := by
      rw [Config.entering, hstore]
      rfl
    -- The start asks for the history and the working directory, and both are the same.
    cases h : store.history (scope config store).leaveOut with
    | ok entries =>
      rw [start_of_history hstore h, start_of_history hentering h]
      rfl
    | error e =>
      rw [start_of_failure hstore h, start_of_failure hentering h]
      by_cases hpinned : config.choices.pinned = []
      · simp [Config.entering, hpinned]
      · simp [Config.entering, hpinned, onto, scope]

/-- What starting a picker has to come to. `r` tells the notes, and the picker if one opens. -/
structure Degrades (config : Config) (r : Started) : Prop where
  /-- No picker opens exactly when there is nothing to show: no store, or neither a history nor
  pinned paths. -/
  closed : r.picker = none ↔ config.store = none ∨ ∃ store e, config.store = some store ∧
    store.history (scope config store).leaveOut = .error e ∧ config.choices.pinned = []
  storeless : config.store = none → r.notes = ["no dir history store".toList]
  /-- Without a history there is one note, and the pinned paths are all there is. -/
  failed : ∀ store e, config.store = some store →
    store.history (scope config store).leaveOut = .error e →
    r.notes = ["db error: ".toList ++ e.message] ∧ (config.choices.pinned ≠ [] →
      r.picker = some (onto config store (config.choices.pinned.map fun path => ⟨path, .pinned⟩)))
  /-- With a history there is no note, whatever the answer about the working directory. -/
  whole : ∀ store entries, config.store = some store →
    store.history (scope config store).leaveOut = .ok entries →
    r.notes = [] ∧ r.picker = some (onto config store
      ((config.choices.pinned.map fun path => ⟨path, .pinned⟩) ++
        Candidates.ofHistory (scope config store).workspace entries))
  /-- The picker is open and shows everything, and its rows lead where the workspace of the working
  directory says. -/
  opened : ∀ p, r.picker = some p → p.state = .opened ∧ p.filter = [] ∧ p.shown = p.all ∧
    ∀ i c, p.all[i]? = some c →
      (p.accept i).asked = some ((scope config p.store).workspace.expand c.path)

theorem degrades_start (config : Config) : Degrades config (start config) where
  closed := by
    cases hstore : config.store with
    | none => simp [start, hstore]
    | some store =>
      -- With a history a picker opens, even if it shows nothing.
      cases h : store.history (scope config store).leaveOut with
      | ok entries => simp [start_of_history hstore h, h]
      | error e =>
        rw [start_of_failure hstore h]
        by_cases hpinned : config.choices.pinned = []
        · simp [hpinned, h]
        · simp [hpinned]
  storeless hstore := by simp [start, hstore]
  failed store e hstore h := by
    rw [start_of_failure hstore h]
    refine ⟨rfl, fun hpinned => ?_⟩
    rw [if_neg hpinned]
    rfl
  whole store entries hstore h := by
    rw [start_of_history hstore h]
    exact ⟨rfl, rfl⟩
  opened p hp := by
    have hfresh := fresh_of_start hp
    refine ⟨hfresh.state, hfresh.filter, hfresh.shown, fun i c hc => ?_⟩
    rw [accept_asked hfresh.state (hfresh.shown ▸ hc), hfresh.workspace_eq]
    rfl

/-- Every configuration, and whatever the store answers: starting a picker opens one as long as
there is anything to show, and tells once what is missing. What the store answers about entering a
directory has no part in it. The history of a listing fails exactly when the listing is no text in
UTF-8 or has a line, anywhere, that is not well-formed; and it fails in the same way whatever is to
be left out. -/
theorem start_degrades (config : Config) :
    Degrades config (start config) ∧
    (∀ enter, start (config.entering enter) = ⟨(start config).notes,
      (start config).picker.map fun p => { p with store := { p.store with enter } }⟩) ∧
    ∀ (s : Standing) (stdin : ByteArray) (source : Source) (leaveOut : List Text),
      ((∃ e, (s.store stdin source).history leaveOut = .error e) ↔
        (∀ t, ¬ s.Offers stdin source t) ∨ ∃ t lines, s.Offers stdin source t ∧
          Text.Lined t lines ∧ ∃ line ∈ lines, ¬ Listing.WellFormed line) ∧
      ∀ leaveOut' e, (s.store stdin source).history leaveOut = .error e ↔
        (s.store stdin source).history leaveOut' = .error e := by
  refine ⟨degrades_start config, start_entering config, fun s stdin source leaveOut => ⟨?_, ?_⟩⟩
  · rw [Standing.exists_history_error_iff]
    simp only [Listing.exists_error_iff, exists_and_left]
  · exact fun leaveOut' e => Standing.history_eq_error_iff leaveOut leaveOut' e

/-- The only entry of the listing is left out, and still the line behind it makes the history fail:
the picker opens on the pinned path, which leads below the root of the workspace. -/
theorem start_degrades_to_pinned :
    let t : Text := "1 /x\nb".toList
    let s : Standing := ⟨⟨[]⟩, .ofPlace [['s'], ['p']]⟩
    let config : Config := {
      store := some (s.store t.utf8Encode .stdin)
      choices := ⟨[['w', '/', 'q']], [['/', 'x']], [⟨['w'], ['/', 's']⟩]⟩
      home := ⟨none⟩ }
    ∃ p, (start config).picker = some p ∧
      (start config).notes = ["db error: ".toList ++ (StoreError.malformed 2 ['b']).message] ∧
      p.all = [⟨['w', '/', 'q'], .pinned⟩] ∧ (p.accept 0).asked = some ['/', 's', '/', 'q'] := by
  intro t s config
  obtain ⟨⟨-, -, hfailed, -, hopened⟩, -, -⟩ := start_degrades config
  have hparse : Listing.parse t = .error ⟨2, ['b']⟩ := by decide +kernel
  have hhistory : ∀ leaveOut, (s.store t.utf8Encode .stdin).history leaveOut =
      .error (.malformed 2 ['b']) := by
    intro leaveOut
    show Store.listingHistory (s.listing t.utf8Encode .stdin) _ = _
    rw [Standing.listing_eq_ok_iff.mpr (.stdin rfl)]
    simp [Store.listingHistory, bind, Except.bind, hparse]
  obtain ⟨hnotes, hpicker⟩ := hfailed _ _ rfl (hhistory _)
  have hp := hpicker (by simp [config])
  refine ⟨_, hp, hnotes, rfl, ?_⟩
  obtain ⟨-, -, -, hrows⟩ := hopened _ hp
  have hworkspace : (scope config (s.store t.utf8Encode .stdin)).workspace =
      ⟨['w'], ['/', 's']⟩ := by decide +kernel
  rw [hrows 0 ⟨['w', '/', 'q'], .pinned⟩ rfl]
  exact congrArg (fun w : Workspace => some (w.expand ['w', '/', 'q'])) hworkspace

end Picker

end DirPicker
