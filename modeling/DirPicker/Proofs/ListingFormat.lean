import DirPicker.Listing
import DirPicker.Proofs.LineEnds
import DirPicker.Proofs.Numeral

/-!
# The format of listings

What a listing may hold, without a word about how it is read. A line is `Silent` when it is blank or
a comment, and it `Records` an entry when it has the numeral of a score, white space and a path, with
white space in front or none. The main statement says of every text

* that it is read as `entries` exactly when its lines hold them in order and are silent otherwise
  (`Holds`);
* that reading fails exactly when a line is neither, with the number and the text of the first such
  line;
* that entries which have been written, each on a line of its own with silent lines anywhere among
  them (`Written`), are read again.

The lines of a text are those of `Text.Lined`, and a score is a `Double.Numeral`.
-/

namespace DirPicker.Listing

open Unicode

/-- White space and nothing else. -/
def Blank (t : Text) : Prop := ∀ c ∈ t, isSpace c = true

instance (t : Text) : Decidable (Blank t) := List.decidableBAll _ t

/-- The line says nothing: it is blank, or a comment with white space in front or none. -/
inductive Silent : Text → Prop
  | blank {line} : Blank line → Silent line
  | comment {margin} (rest : Text) : Blank margin → Silent (margin ++ '#' :: rest)

/-- The line records an entry: the numeral of a finite score, white space, and the path, which is
the rest of the line. -/
inductive Records : Text → Entry → Prop
  | mk {margin token gap path : Text} {d : Double.Decimal} : Blank margin → Double.Numeral token d →
      d.nearest.isFinite = true → Blank gap → gap ≠ [] → path ≠ [] →
      (∀ c ∈ path.head?, isSpace c = false) →
      Records (margin ++ (token ++ (gap ++ path))) ⟨d.nearest, path⟩

/-- The line is as a line of a listing should be. -/
def WellFormed (line : Text) : Prop := Silent line ∨ ∃ e, Records line e

/-- The lines hold the entries in order, one on each line that is not silent. -/
inductive Holds : List Text → List Entry → Prop
  | nil : Holds [] []
  | silent {line lines entries} : Silent line → Holds lines entries → Holds (line :: lines) entries
  | entry {line lines e entries} : Records line e → Holds lines entries →
      Holds (line :: lines) (e :: entries)

/-- The first line that is not well-formed, by its number and its text. -/
def FirstMalformed (lines : List Text) (e : Malformed) : Prop :=
  ∃ before after, lines = before ++ e.content :: after ∧ (∀ line ∈ before, WellFormed line) ∧
    ¬ WellFormed e.content ∧ e.line = before.length + 1

/-- What may end a line. -/
inductive LineEnd : Text → Prop
  | feed : LineEnd ['\n']
  | returnFeed : LineEnd ['\r', '\n']

/-- Entries written as a listing: each on a line of its own, with silent lines anywhere. A path that
ends with a carriage return would lose it to the end of the line. -/
inductive Written : List Entry → Text → Prop
  | last {line} : Silent line → '\n' ∉ line → Written [] line
  | silent {line stop entries t} : Silent line → '\n' ∉ line → LineEnd stop → Written entries t →
      Written entries (line ++ stop ++ t)
  | entry {line stop e entries t} : Records line e → '\n' ∉ line → e.path.getLast? ≠ some '\r' →
      LineEnd stop → Written entries t → Written (e :: entries) (line ++ stop ++ t)

/-! ### White space -/

section

variable {margin body : Text}

theorem blank_takeWhile (t : Text) : Blank (t.takeWhile isSpace) := by
  intro c hc
  exact List.all_eq_true.mp List.all_takeWhile c hc

theorem trimStart_append (h : Blank margin) (hbody : ∀ c ∈ body.head?, isSpace c = false) :
    trimStart (margin ++ body) = body := by
  rw [trimStart, List.dropWhile_append_of_pos h]
  cases body with
  | nil => rfl
  | cons c body => simp [hbody c rfl]

theorem trimStart_of_blank (h : Blank margin) : trimStart margin = [] := by
  have hnil : ∀ c ∈ ([] : Text).head?, isSpace c = false := by simp
  simpa using trimStart_append h hnil

/-- A text is some white space and what is left without it. -/
theorem exists_margin (t : Text) : ∃ margin, Blank margin ∧ t = margin ++ trimStart t :=
  ⟨_, blank_takeWhile t, List.takeWhile_append_dropWhile.symm⟩

theorem isSpace_head_trimStart (t : Text) : ∀ c ∈ (trimStart t).head?, isSpace c = false := by
  intro c hc
  obtain ⟨rest, hrest⟩ := List.head?_eq_some_iff.mp hc
  exact isSpace_eq_false_of_trimStart hrest

end

/-! ### Lines -/

section

variable {line : Text} {e : Entry}

theorem silent_iff : Silent line ↔ trimStart line = [] ∨ (trimStart line).head? = some '#' := by
  constructor
  · intro h
    cases h with
    | blank hblank => exact .inl (trimStart_of_blank hblank)
    | comment rest hmargin =>
      have hhash : ∀ c ∈ ('#' :: rest).head?, isSpace c = false := by
        rintro c ⟨⟩
        decide
      exact .inr (by rw [trimStart_append hmargin hhash]; rfl)
  · intro h
    obtain ⟨margin, hmargin, hline⟩ := exists_margin line
    obtain h | h := h
    · rw [h, List.append_nil] at hline
      exact hline ▸ .blank hmargin
    · obtain ⟨rest, hrest⟩ := List.head?_eq_some_iff.mp h
      rw [hrest] at hline
      exact hline ▸ .comment rest hmargin

theorem readLine_of_silent (h : Silent line) : readLine line = .silent := by
  have hbody : ((trimStart line).isEmpty || (trimStart line).head? = some '#') = true := by
    simpa using silent_iff.mp h
  simp only [readLine, hbody, if_true]

/-- Reading a line that is not silent. -/
theorem readLine_of_not_silent (h : ¬ Silent line) :
    readLine line =
      match Text.splitFirst? isSpace (trimStart line) with
      | none => .malformed
      | some (token, rest) =>
        match Double.read? token with
        | none => .malformed
        | some score =>
          if (trimStart rest).isEmpty || !score.isFinite then .malformed
          else .entry ⟨score, trimStart rest⟩ := by
  have hbody : ((trimStart line).isEmpty || (trimStart line).head? = some '#') = false := by
    simpa [silent_iff] using h
  simp only [readLine, hbody]
  rfl

/-- No white space and no hash sign stands in a numeral. -/
theorem not_isSpace_of_isNumeralChar {c : Char} (h : Double.IsNumeralChar c) :
    isSpace c = false ∧ c ≠ '#' := by
  obtain h | h := h
  · have hcode : 48 ≤ c.toNat ∧ c.toNat ≤ 57 := by
      simpa [Char.isDigit, UInt32.le_iff_toNat_le] using h
    constructor
    · simp only [isSpace, whiteSpace, CharSet.contains, CharSet.hasCode, List.any_cons,
        List.any_nil, Bool.or_false, Bool.or_eq_false_iff, Bool.and_eq_false_iff,
        decide_eq_false_iff_not]
      omega
    · rintro rfl
      simp at hcode
  · have hsigns : (['+', '-', '.', 'e', 'E'].all fun c => !isSpace c && c != '#') = true := by
      decide
    simpa using List.all_eq_true.mp hsigns c h

/-- A line that records an entry is read as this entry. -/
theorem readLine_of_records (h : Records line e) : readLine line = .entry e := by
  obtain @⟨margin, token, gap, path, d, hmargin, htoken, hfinite, hgap, hgapNe, hpath, hhead⟩ := h
  have hchars := fun c hc => not_isSpace_of_isNumeralChar (htoken.isNumeralChar c hc)
  -- The numeral comes first when the white space in front is gone.
  have htrim : trimStart (margin ++ (token ++ (gap ++ path))) = token ++ (gap ++ path) := by
    refine trimStart_append hmargin fun c hc => ?_
    obtain ⟨first, rest, rfl⟩ := List.exists_cons_of_ne_nil htoken.ne_nil
    obtain rfl := Option.some.inj hc
    exact (hchars first (by simp)).1
  have hsilent : ¬ Silent (margin ++ (token ++ (gap ++ path))) := by
    rw [silent_iff, htrim]
    obtain ⟨first, rest, rfl⟩ := List.exists_cons_of_ne_nil htoken.ne_nil
    simpa using (hchars first (by simp)).2
  -- The first white space behind it begins the gap, and the path begins where the gap ends.
  obtain ⟨space, gap, rfl⟩ := List.exists_cons_of_ne_nil hgapNe
  obtain ⟨hspace, hgap⟩ := List.forall_mem_cons.mp hgap
  have hsplit : Text.splitFirst? isSpace (token ++ space :: (gap ++ path)) =
      some (token, gap ++ path) :=
    Text.splitFirst?_append_cons (fun c hc => (hchars c hc).1) hspace _
  have hrest : trimStart (gap ++ path) = path := trimStart_append hgap hhead
  rw [readLine_of_not_silent hsilent, htrim, List.cons_append, hsplit]
  simp [(Double.read?_eq_some_iff hfinite).mpr ⟨d, htoken, rfl⟩, hrest, hpath, hfinite]

/-- What is read as an entry has been recorded as this entry. -/
theorem records_of_readLine (h : readLine line = .entry e) : Records line e := by
  have hsilent : ¬ Silent line := by
    intro hsilent
    rw [readLine_of_silent hsilent] at h
    cases h
  rw [readLine_of_not_silent hsilent] at h
  obtain ⟨margin, hmargin, hline⟩ := exists_margin line
  -- Each check that the line has passed gives a part of the record.
  split at h
  · cases h
  · next token rest hsplit =>
    split at h
    · cases h
    · next score hscore =>
      split at h
      · cases h
      · next hpath =>
        obtain rfl := Line.entry.inj h
        simp only [Bool.or_eq_true, not_or, Bool.not_eq_true, Bool.not_eq_false',
          List.isEmpty_eq_false_iff] at hpath
        obtain ⟨-, space, hspace, hbody⟩ := Text.splitFirst?_eq_some hsplit
        obtain ⟨gap, hgap, hrest⟩ := exists_margin rest
        obtain ⟨d, htoken, rfl⟩ := (Double.read?_eq_some_iff hpath.2).mp hscore
        have hgap : Blank (space :: gap) := List.forall_mem_cons.mpr ⟨hspace, hgap⟩
        have hrecords := Records.mk hmargin htoken hpath.2 hgap (by simp) hpath.1
          (isSpace_head_trimStart rest)
        rw [List.cons_append, ← hrest, ← hbody, ← hline] at hrecords
        exact hrecords

theorem readLine_silent_iff : readLine line = .silent ↔ Silent line := by
  refine ⟨fun h => ?_, readLine_of_silent⟩
  by_cases hsilent : Silent line
  · exact hsilent
  · rw [readLine_of_not_silent hsilent] at h
    repeat' split at h
    all_goals cases h

/-- A line is refused when it is not as a line of a listing should be. -/
theorem readLine_malformed_iff : readLine line = .malformed ↔ ¬ WellFormed line := by
  constructor
  · rintro h (hsilent | ⟨e, hrecords⟩)
    · simp [readLine_of_silent hsilent] at h
    · simp [readLine_of_records hrecords] at h
  · intro h
    cases hline : readLine line with
    | malformed => rfl
    | entry e => exact absurd (.inr ⟨e, records_of_readLine hline⟩) h
    | silent => exact absurd (.inl (readLine_silent_iff.mp hline)) h

end

/-! ### Texts -/

section

variable {number : Nat} {line : Text} {lines : List Text} {entries : List Entry} {e : Malformed}
variable {t : Text}

/-- Lines can be read when they hold entries, and then these are read. -/
theorem parseLines_eq_ok_iff : parseLines number lines = .ok entries ↔ Holds lines entries := by
  induction lines generalizing number entries with
  | nil =>
    constructor
    · intro h
      obtain rfl := Except.ok.inj h
      exact .nil
    · rintro ⟨⟩
      rfl
  | cons line lines ih =>
    constructor
    · intro h
      rw [parseLines] at h
      split at h
      · next hline => exact .silent (readLine_silent_iff.mp hline) (ih.mp h)
      · cases h
      · next first hline =>
        split at h
        · next rest hrest =>
          obtain rfl := Except.ok.inj h
          exact .entry (records_of_readLine hline) (ih.mp hrest)
        · cases h
    · intro h
      cases h with
      | silent hline hlines => rw [parseLines, readLine_of_silent hline]; exact ih.mpr hlines
      | entry hline hlines =>
        have hrest : parseLines (number + 1) lines = _ := ih.mpr hlines
        rw [parseLines, readLine_of_records hline]
        simp only [hrest]

/-- A well-formed line in front of others only counts. -/
theorem parseLines_cons_error (h : WellFormed line) :
    parseLines number (line :: lines) = .error e ↔ parseLines (number + 1) lines = .error e := by
  obtain hsilent | ⟨entry, hrecords⟩ := h
  · rw [parseLines, readLine_of_silent hsilent]
  · rw [parseLines, readLine_of_records hrecords]
    cases parseLines (number + 1) lines <;> simp

/-- The error names the first line that is not well-formed, with nothing wrong in front of it. -/
theorem parseLines_eq_error_iff : parseLines number lines = .error e ↔
    ∃ before after, lines = before ++ e.content :: after ∧ (∀ line ∈ before, WellFormed line) ∧
      ¬ WellFormed e.content ∧ e.line = number + before.length := by
  induction lines generalizing number with
  | nil => simp [parseLines]
  | cons line lines ih =>
    -- A well-formed line is one of those in front of the error; any other one is the error.
    by_cases hline : WellFormed line
    · rw [parseLines_cons_error hline, ih]
      constructor
      · rintro ⟨before, after, rfl, hbefore, hcontent, hnumber⟩
        refine ⟨line :: before, after, rfl, List.forall_mem_cons.mpr ⟨hline, hbefore⟩, hcontent, ?_⟩
        rw [hnumber, List.length_cons]
        omega
      · rintro ⟨before, after, heq, hbefore, hcontent, hnumber⟩
        cases before with
        | nil =>
          obtain ⟨rfl, -⟩ := List.cons.inj heq
          exact absurd hline hcontent
        | cons first before =>
          obtain ⟨rfl, rfl⟩ := List.cons.inj heq
          refine ⟨before, after, rfl, (List.forall_mem_cons.mp hbefore).2, hcontent, ?_⟩
          rw [hnumber, List.length_cons]
          omega
    · rw [parseLines, readLine_malformed_iff.mpr hline]
      constructor
      · intro h
        obtain rfl := Except.error.inj h
        exact ⟨[], lines, rfl, by simp, hline, rfl⟩
      · rintro ⟨before, after, heq, hbefore, -, hnumber⟩
        cases before with
        | nil =>
          obtain ⟨rfl, -⟩ := List.cons.inj heq
          obtain ⟨n, content⟩ := e
          obtain rfl : n = number := hnumber
          rfl
        | cons first before =>
          obtain ⟨rfl, -⟩ := List.cons.inj heq
          exact absurd (hbefore _ (by simp)) hline

/-! ### Written listings -/

theorem lines_append_end {line stop : Text} (hline : '\n' ∉ line) (hstop : LineEnd stop) (t : Text) :
    ∃ kept, Text.lines (line ++ stop ++ t) = kept :: Text.lines t ∧
      (kept = line ∨ line = kept ++ ['\r']) := by
  rw [List.append_assoc]
  cases hstop with
  | feed =>
    refine ⟨Text.dropReturn line, Text.lines_append_feed hline t, ?_⟩
    by_cases hreturn : line.getLast? = some '\r'
    · obtain ⟨shorter, rfl⟩ := List.getLast?_eq_some_iff.mp hreturn
      exact .inr (by rw [Text.dropReturn_append_return])
    · exact .inl (Text.dropReturn_of_getLast? hreturn)
  | returnFeed => exact ⟨line, Text.lines_append_returnFeed hline t, .inl rfl⟩

/-- A silent line is silent without a carriage return at its end. -/
theorem Silent.of_append_return (h : Silent (line ++ ['\r'])) : Silent line := by
  generalize hall : line ++ ['\r'] = all at h
  cases h with
  | blank hblank =>
    obtain rfl := hall
    exact .blank fun c hc => hblank c (List.mem_append_left _ hc)
  -- The carriage return is the last character of the comment, for the hash sign is none.
  | @comment margin rest hmargin =>
    obtain rfl | ⟨init, last, rfl⟩ := List.eq_nil_or_concat rest
    · have hlast := congrArg List.getLast? hall
      simp at hlast
    · have hinit : line = margin ++ '#' :: init := by
        have hdrop := congrArg List.dropLast hall
        rwa [List.concat_eq_append, ← List.cons_append, ← List.append_assoc, List.dropLast_concat,
          List.dropLast_concat] at hdrop
      exact hinit ▸ .comment init hmargin

/-- The path is the end of the line. -/
theorem getLast?_of_records {entry : Entry} (h : Records line entry) :
    line.getLast? = entry.path.getLast? := by
  obtain @⟨margin, token, gap, path, d, -, -, -, -, -, hpath, -⟩ := h
  simp only [List.getLast?_append, List.getLast?_eq_some_getLast hpath, Option.some_or]

/-- A listing that is written holds the entries written. -/
theorem holds_of_written (h : Written entries t) : Holds (Text.lines t) entries := by
  induction h with
  | @last line hsilent hline =>
    rw [Text.lines_of_notMem hline]
    split
    · exact .nil
    · exact .silent hsilent .nil
  | @silent line stop entries t hsilent hline hstop _ ih =>
    -- A line may lose a carriage return to its end, and stays silent.
    obtain ⟨kept, hlines, hkept⟩ := lines_append_end hline hstop t
    rw [hlines]
    obtain rfl | rfl := hkept
    · exact .silent hsilent ih
    · exact .silent hsilent.of_append_return ih
  | @entry line stop e entries t hrecords hline hreturn hstop _ ih =>
    obtain ⟨kept, hlines, hkept⟩ := lines_append_end hline hstop t
    rw [hlines]
    obtain rfl | rfl := hkept
    · exact .entry hrecords ih
    · rw [← getLast?_of_records hrecords] at hreturn
      simp at hreturn

end

/-- Every text: it is read as the entries that its lines hold; reading fails at the first line that
is not well-formed; and entries that have been written are read again. -/
theorem parse_format (t : Text) :
    (∀ entries, parse t = .ok entries ↔ ∃ lines, Text.Lined t lines ∧ Holds lines entries) ∧
    (∀ e, parse t = .error e ↔ ∃ lines, Text.Lined t lines ∧ FirstMalformed lines e) ∧
    ∀ entries, Written entries t → parse t = .ok entries := by
  have hok : ∀ entries, parse t = .ok entries ↔ Holds (Text.lines t) entries :=
    fun entries => parseLines_eq_ok_iff
  refine ⟨fun entries => ?_, fun e => ?_, fun entries h => (hok entries).mpr (holds_of_written h)⟩
  · rw [hok]
    exact ⟨fun h => ⟨_, Text.lined_lines t, h⟩,
      fun ⟨lines, hlines, h⟩ => Text.lines_of_lined hlines ▸ h⟩
  · have herror : parse t = .error e ↔ FirstMalformed (Text.lines t) e := by
      rw [parse, parseLines_eq_error_iff, FirstMalformed]
      simp only [Nat.add_comm 1]
    rw [herror]
    exact ⟨fun h => ⟨_, Text.lined_lines t, h⟩,
      fun ⟨lines, hlines, h⟩ => Text.lines_of_lined hlines ▸ h⟩

/-- A comment, an entry with white space at the end of its path, and a blank line without an end. -/
theorem parse_format_of_exported :
    let t : Text := "#x\r\n 2.5e1\t/a b \n ".toList
    Written [⟨⟨0x4039000000000000⟩, "/a b ".toList⟩] t ∧
      parse t = .ok [⟨⟨0x4039000000000000⟩, "/a b ".toList⟩] := by
  intro t
  have hmantissa : Double.Mantissa ['2', '.', '5'] ['2'] ['5'] :=
    @Double.Mantissa.point ['2'] ['5'] (by decide) (by decide) (by simp)
  have hexponent : Double.Exponent ['e', '1'] 1 :=
    @Double.Exponent.some 'e' [] false ['1'] (.inl rfl) .none (by decide) (by simp)
  have hnumeral : Double.Numeral ['2', '.', '5', 'e', '1'] ⟨false, 25, 0⟩ :=
    .mk .none hmantissa hexponent
  have hscore : Double.Decimal.nearest ⟨false, 25, 0⟩ = ⟨0x4039000000000000⟩ := by decide +kernel
  have hhead : ∀ c ∈ ("/a b ".toList).head?, isSpace c = false := by
    rintro c ⟨⟩
    decide
  have hentry : Records " 2.5e1\t/a b ".toList ⟨⟨0x4039000000000000⟩, "/a b ".toList⟩ :=
    hscore ▸ @Records.mk [' '] _ ['\t'] "/a b ".toList _ (by decide) hnumeral
      (by decide +kernel) (by decide) (by simp) (by simp) hhead
  have hcomment : Silent ['#', 'x'] := @Silent.comment [] ['x'] (by decide)
  have hblank : Written [] [' '] := .last (.blank (by decide)) (by simp)
  have hwritten : Written [⟨⟨0x4039000000000000⟩, "/a b ".toList⟩] t :=
    .silent hcomment (by simp) .returnFeed
      (.entry hentry (by decide +kernel) (by decide +kernel) .feed hblank)
  exact ⟨hwritten, (parse_format t).2.2 _ hwritten⟩

end DirPicker.Listing
