import DirPicker.Proofs.FilterExpression
import DirPicker.Proofs.Folding
import DirPicker.Proofs.Matching

/-!
# What a filter passes

`Filter.Begins pieces t` says without patterns what a filter asks for: the text begins with the
pieces one after another, in either case, with a separator between neighbours and no line feed
between them. The main statement is that a filter whose pattern compiles passes the paths in which
its pieces begin somewhere,

    passes_iff_begins : (Matcher.ofFilter f).passes c = true ↔
      ∃ x t, c = x ++ t ∧ Begins (Text.pieces '/' f) t

The pattern has been read as a chain of parts (`parse_texts`). Here each part gets its meaning
(`Part.Reads`), the chain takes what its parts read in order (`ofSyntax_chain`), and what the parts
between two runs read is what `Begins` asks for (`begins_iff`).
-/

namespace DirPicker.Filter

open Pattern Unicode

/-- Equal up to case, character by character. -/
def SameUpToCase (s t : Text) : Prop := t.map foldChar = s.map foldChar

instance (s t : Text) : Decidable (SameUpToCase s t) := inferInstanceAs (Decidable (_ = _))

/-- `Begins ss t`: the text `t` begins with the pieces `ss` one after another, in either case, and
has a separator between neighbours, with characters other than line feeds around it. -/
inductive Begins : List Text → Text → Prop
  | last {s s' y} : SameUpToCase s s' → Begins [s] (s' ++ y)
  | more {s s' g h p ps t} : SameUpToCase s s' → '\n' ∉ g → '\n' ∉ h → Begins (p :: ps) t →
      Begins (s :: p :: ps) (s' ++ g ++ '/' :: h ++ t)

/-! ### What parts read -/

/-- The texts that a part stands for. -/
def Part.Reads : Part → Text → Prop
  | .run, t => '\n' ∉ t
  | .char c, t => ∃ d, foldChar d = foldChar c ∧ t = [d]

def Reads : List Part → Text → Prop
  | [], t => t = []
  | p :: ps, t => ∃ u v, t = u ++ v ∧ p.Reads u ∧ Reads ps v

/-- What two lists of parts stand for falls into two texts. -/
theorem reads_append {ps qs : List Part} {t : Text} :
    Reads (ps ++ qs) t ↔ ∃ u v, t = u ++ v ∧ Reads ps u ∧ Reads qs v := by
  induction ps generalizing t with
  | nil => exact ⟨fun h => ⟨[], t, rfl, rfl, h⟩, by rintro ⟨_, v, rfl, rfl, hv⟩; exact hv⟩
  | cons p ps ih =>
    constructor
    · rintro ⟨u, _, rfl, hu, h⟩
      obtain ⟨v, w, rfl, hv, hw⟩ := ih.mp h
      exact ⟨u ++ v, w, by simp, ⟨u, v, rfl, hu, hv⟩, hw⟩
    · rintro ⟨_, w, rfl, ⟨u, v, rfl, hu, hv⟩, hw⟩
      exact ⟨u, v ++ w, by simp, hu, ih.mpr ⟨v, w, rfl, hv, hw⟩⟩

/-- Characters of the filter stand for the texts that are equal up to case. -/
theorem reads_chars {s t : Text} : Reads (s.map .char) t ↔ SameUpToCase s t := by
  induction s generalizing t with
  | nil => simp [Reads, SameUpToCase]
  | cons c s ih =>
    constructor
    · rintro ⟨_, v, rfl, ⟨d, hd, rfl⟩, hv⟩
      simpa [SameUpToCase, hd] using ih.mp hv
    · intro h
      cases t with
      | nil => simp [SameUpToCase] at h
      | cons d t =>
        obtain ⟨hd, ht⟩ : foldChar d = foldChar c ∧ t.map foldChar = s.map foldChar := by
          simpa [SameUpToCase] using h
        exact ⟨[d], t, rfl, ⟨d, hd, rfl⟩, ih.mpr ht⟩

/-- Only the separator itself passes for it. -/
theorem foldChar_eq_separator {d : Char} : foldChar d = foldChar '/' ↔ d = '/' := by
  have hself : CharSet.variantsOf '/' = .singleton '/' := by decide +kernel
  rw [← CharSet.contains_variantsOf, hself, CharSet.contains_singleton]

/-- What stands between two pieces is a separator with anything but line feeds around it. -/
theorem reads_glue {t : Text} : Reads [.run, .char '/', .run] t ↔
    ∃ g h, t = g ++ '/' :: h ∧ '\n' ∉ g ∧ '\n' ∉ h := by
  constructor
  · rintro ⟨g, _, rfl, hg, _, _, rfl, ⟨d, hd, rfl⟩, h, _, rfl, hh, rfl⟩
    obtain rfl := foldChar_eq_separator.mp hd
    exact ⟨g, h, by simp, hg, hh⟩
  · rintro ⟨g, h, rfl, hg, hh⟩
    exact ⟨g, '/' :: h, rfl, hg, ['/'], h, rfl, ⟨'/', rfl, rfl⟩, h, [], by simp, hh, rfl⟩

/-- A text begins with the pieces when the parts for them read a first part of it. -/
theorem begins_iff {ps : List Text} (hps : ps ≠ []) {t : Text} :
    Begins ps t ↔ ∃ v y, t = v ++ y ∧ Reads (partsBetween ps) v := by
  induction ps generalizing t with
  | nil => exact absurd rfl hps
  | cons s ps ih =>
    cases ps with
    | nil =>
      constructor
      · rintro ⟨hs⟩
        exact ⟨_, _, rfl, reads_chars.mpr hs⟩
      · rintro ⟨v, y, rfl, hv⟩
        exact .last (reads_chars.mp hv)
    | cons p ps =>
      have hrest : p :: ps ≠ [] := by simp
      -- The parts are those of `s`, the glue, and those of the other pieces, for which `ih` stands.
      rw [partsBetween]
      simp only [reads_append, reads_chars, reads_glue]
      constructor
      · intro hb
        cases hb with
        | @more _ s' g h _ _ t hs hg hh ht =>
          obtain ⟨v, y, rfl, hv⟩ := (ih hrest).mp ht
          exact ⟨s' ++ (g ++ '/' :: h) ++ v, y, by simp, _, v, rfl,
            ⟨s', _, rfl, hs, g, h, rfl, hg, hh⟩, hv⟩
      · rintro ⟨_, y, rfl, _, v, rfl, ⟨s', _, rfl, hs, g, h, rfl, hg, hh⟩, hv⟩
        have ht := (ih hrest).mpr ⟨v, y, rfl, hv⟩
        simpa using Begins.more hs hg hh ht

/-! ### What the pattern means -/

def Part.node (id : Nat) : Part → Node
  | .run => .rep id (.step (CharSet.singleton '\n').complement) 0 none true
  | .char c => .step (.variantsOf c)

theorem contains_notLineFeed {c : Char} :
    (CharSet.singleton '\n').complement.contains c = true ↔ c ≠ '\n' :=
  CharSet.contains_complement_singleton (by decide) c

/-- The matching tree of a part takes the texts that the part stands for. -/
theorem takes_node (p : Part) (id : Nat) : (p.node id).Takes = fun _ t _ => p.Reads t := by
  cases p with
  | run =>
    rw [Part.node, takes_star_step]
    refine Spans.ext fun l t r => ?_
    simp only [contains_notLineFeed, Part.Reads]
    exact ⟨fun h hmem => h '\n' hmem rfl, fun h c hc heq => h (heq ▸ hc)⟩
  | char c =>
    refine Spans.ext fun l t r => ?_
    simp [Part.node, Node.Takes, Part.Reads, CharSet.contains_variantsOf]

/-- The flags for filters: letters match in either case. -/
def flags : Flags := { ignoreCase := true }

theorem ofSyntax_tree (before : Node) (p : Part) (rest : Text) (now : Reading)
    (h : now.flags = flags) :
    ∃ behind : Reading, behind.flags = flags ∧
      Node.ofSyntax before (p.tree rest) now =
        .ok (before.andThen (p.node now.nextId), behind) := by
  cases p with
  | run => exact ⟨{ now with nextId := now.nextId + 1 }, h, by
      simp [Part.tree, Part.node, Node.ofSyntax, h, flags, Flags.dot, Tree.repeated, Tree.onlyEmpty,
        Tree.andThen, bind, Except.bind]⟩
  | char c => exact ⟨now, h, by simp [Part.tree, Part.node, Node.ofSyntax, h, flags, Flags.literal]⟩

/-- A chain of parts takes what the parts read. -/
theorem ofSyntax_chain (span : Span) (ps : List Part) (before : Node) (now : Reading)
    (h : now.flags = flags) :
    ∃ node behind, Node.ofSyntax before (.chain span (trees ps)) now = .ok (node, behind) ∧
      node.Takes = before.Takes.seq (fun _ t _ => Reads ps t) := by
  induction ps generalizing before now with
  | nil => exact ⟨before, now, rfl, Spans.seq_empty.symm⟩
  | cons p ps ih =>
    -- The reading goes on from `p` as from a tree that stands before the rest.
    obtain ⟨behind, hflags, hp⟩ := ofSyntax_tree before p (texts ps) now h
    obtain ⟨node, last, hnode, htakes⟩ := ih (before.andThen (p.node now.nextId)) behind hflags
    have hreads : (fun _ t _ => Reads (p :: ps) t : Spans) =
        Spans.seq (fun _ t _ => p.Reads t) (fun _ t _ => Reads ps t) := rfl
    rw [takes_andThen, takes_node, Spans.seq_assoc, ← hreads] at htakes
    refine ⟨node, last, ?_, htakes⟩
    cases ps with
    | nil => simpa [trees, Syntax.chain, hp, Node.ofSyntax] using hnode
    | cons q ps =>
      rw [trees, Syntax.chain_cons span _ (by simp [trees]), Node.ofSyntax, hp]
      exact hnode

/-- The pattern read for a filter has a meaning, which is what the parts of the expression read, and
its program is missing only when that would be too large. -/
theorem exists_node (f : Text) :
    ∃ node, (Syntax.chain (.between (texts (parts f)) []) (trees (parts f))).node flags = .ok node ∧
      node.Takes = (fun _ t _ => Reads (parts f) t) ∧
      Filter.program f = if node.fits then .ok ⟨node⟩ else .error .tooLarge := by
  obtain ⟨node, behind, hread, htakes⟩ :=
    ofSyntax_chain (.between (texts (parts f)) []) (parts f) .empty ⟨flags, 0⟩ rfl
  have hnode : (Syntax.chain (.between (texts (parts f)) []) (trees (parts f))).node flags =
      .ok node := by
    rw [Syntax.node, hread]
    rfl
  refine ⟨node, hnode, ?_, ?_⟩
  · have hstart : Node.Takes .empty = fun _ t _ => t = [] := rfl
    rwa [hstart, Spans.empty_seq] at htakes
  · rw [Filter.program, ← texts_parts, Program.compile, parse_texts]
    simp only
    rw [show ({ ignoreCase := true } : Flags) = flags from rfl, hnode]

/-- The program of a filter, if it has one, takes what the parts of its expression read. -/
theorem takes_program {f : Text} {p : Program} (h : Filter.program f = .ok p) :
    p.node.Takes = fun _ t _ => Reads (parts f) t := by
  obtain ⟨node, -, htakes, hprogram⟩ := exists_node f
  rw [hprogram] at h
  split at h
  · cases h
    exact htakes
  · cases h

/-- The runs at both ends of the expression read nothing that the text around a match could not
hold as well. -/
theorem reads_parts_iff {f c : Text} : (∃ l u r, c = l ++ u ++ r ∧ Reads (parts f) u) ↔
    ∃ x t, c = x ++ t ∧ Begins (Text.pieces '/' f) t := by
  have hpieces : Text.pieces '/' f ≠ [] := Text.pieces_ne_nil '/' f
  have hrun : ∀ {t}, Reads [.run] t ↔ '\n' ∉ t := by simp [Reads, Part.Reads]
  simp only [parts, reads_append, hrun, begins_iff hpieces]
  constructor
  · rintro ⟨l, _, r, rfl, _, g, rfl, ⟨h, v, rfl, -, hv⟩, -⟩
    exact ⟨l ++ h, v ++ (g ++ r), by simp, v, g ++ r, rfl, hv⟩
  · rintro ⟨x, _, rfl, v, y, rfl, hv⟩
    exact ⟨x, v, y, by simp, v, [], by simp, ⟨[], v, rfl, by simp, hv⟩, by simp⟩

/-- A filter that compiles passes exactly the texts in which its pieces begin somewhere. -/
theorem passes_iff_begins {f : Text} (h : Matcher.ofFilter f ≠ .nothing) (c : Text) :
    (Matcher.ofFilter f).passes c = true ↔
      ∃ x t, c = x ++ t ∧ Begins (Text.pieces '/' f) t := by
  cases hp : Filter.program f with
  | error e => simp [Matcher.ofFilter, hp] at h
  | ok p =>
    have hmatcher : Matcher.ofFilter f = .pattern p := by simp [Matcher.ofFilter, hp]
    rw [hmatcher, Matcher.passes, Program.isMatch, isMatch_iff, takes_program hp]
    exact reads_parts_iff

/-- A Kelvin sign behind a line feed passes for a `k`, and a doubled separator asks for two. -/
theorem passes_kelvin_sign : Matcher.ofFilter ['k', '/', '/', '+'] ≠ .nothing ∧
    (Matcher.ofFilter ['k', '/', '/', '+']).passes ['\n', '\u212A', '/', 'x', '/', '+'] = true := by
  have hcompiles : Matcher.ofFilter ['k', '/', '/', '+'] ≠ .nothing := by decide +kernel
  have hk : SameUpToCase ['k'] ['\u212A'] := by decide +kernel
  have hempty : SameUpToCase [] [] := rfl
  have hplus : Begins [['+']] ['+'] := Begins.last (show SameUpToCase ['+'] ['+'] from rfl)
  have hg : '\n' ∉ ([] : Text) := by simp
  have hh : '\n' ∉ ['x'] := by simp
  have hrest : Begins [[], ['+']] ['/', '+'] := Begins.more hempty hg hg hplus
  exact ⟨hcompiles, (passes_iff_begins hcompiles _).mpr
    ⟨['\n'], ['\u212A', '/', 'x', '/', '+'], rfl, Begins.more hk hg hh hrest⟩⟩

end DirPicker.Filter
