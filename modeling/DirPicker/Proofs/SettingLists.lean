import DirPicker.Program
import DirPicker.Proofs.LineEnds

/-!
# Lists in the environment

What can be given on the command line value by value can be given in a variable as well, as one
text. `Spells` says without cutting which texts stand for a list of items, and `Define` which items
stand for a list of definitions. Reading agrees with both,

    items_eq_iff : items separator value = xs ↔ Spells separator value xs
    definitions_eq_iff : definitions value = ds ↔
      ∃ xs, Spells definitionSeparator value xs ∧ Define xs ds

and the main statement draws the conclusion: whatever lists have been written into the variables, a
run without them on the command line makes the choices of a run with them. A separator too many, and
an item that defines nothing, make no difference wherever they stand.
-/

namespace DirPicker.Setting

open Workspace

/-- `Spells separator value xs`: the text holds the items in order, none of them empty, with
separators between them. More separators may stand anywhere around them. -/
inductive Spells (separator : Char) : Text → List Text → Prop
  | nothing : Spells separator [] []
  | gap {value xs} : Spells separator value xs → Spells separator (separator :: value) xs
  | last {x} : x ≠ [] → separator ∉ x → Spells separator x [x]
  | item {x value xs} : x ≠ [] → separator ∉ x → Spells separator value xs →
      Spells separator (x ++ separator :: value) (x :: xs)

/-- The item is the kind of the definition, an equals sign and the pattern. -/
inductive Defines : Text → Definition → Prop
  | mk {kind pattern} : kind ≠ [] → '=' ∉ kind → pattern ≠ [] →
      Defines (kind ++ '=' :: pattern) ⟨kind, pattern⟩

/-- The item defines nothing: it has no equals sign, or nothing in front of the first one, or
nothing behind it. -/
inductive DefinesNothing : Text → Prop
  | noSign {item} : '=' ∉ item → DefinesNothing item
  | noKind (pattern : Text) : DefinesNothing ('=' :: pattern)
  | noPattern {kind} : '=' ∉ kind → DefinesNothing (kind ++ ['='])

/-- The items define the list in order, with items among them that define nothing. -/
inductive Define : List Text → List Definition → Prop
  | nil : Define [] []
  | nothing {item items ds} : DefinesNothing item → Define items ds → Define (item :: items) ds
  | definition {item d items ds} : Defines item d → Define items ds →
      Define (item :: items) (d :: ds)

def written (d : Definition) : Text := d.kind ++ '=' :: d.pattern

/-- Whether a definition can be written as an item of a variable. -/
structure Writable (d : Definition) : Prop where
  kind_ne_nil : d.kind ≠ []
  sign_notMem : '=' ∉ d.kind
  separator_notMem_kind : definitionSeparator ∉ d.kind
  pattern_ne_nil : d.pattern ≠ []
  separator_notMem_pattern : definitionSeparator ∉ d.pattern

/-! ### Items -/

section

variable {separator : Char} {x value : Text} {xs : List Text}

theorem items_gap (separator : Char) (value : Text) :
    items separator (separator :: value) = items separator value := by
  have hpieces := Text.pieces_append_cons (List.not_mem_nil (a := separator)) value
  rw [List.nil_append] at hpieces
  rw [items, hpieces, List.filter_cons_of_neg (by simp), items]

theorem items_append_cons (hne : x ≠ []) (hx : separator ∉ x) (value : Text) :
    items separator (x ++ separator :: value) = x :: items separator value := by
  rw [items, Text.pieces_append_cons hx, List.filter_cons_of_pos (by simpa using hne), items]

theorem items_of_notMem (hne : x ≠ []) (hx : separator ∉ x) : items separator x = [x] := by
  rw [items, Text.pieces_of_notMem hx, List.filter_cons_of_pos (by simpa using hne),
    List.filter_nil]

theorem items_of_spells (h : Spells separator value xs) : items separator value = xs := by
  induction h with
  | nothing => rfl
  | gap _ ih => rw [items_gap, ih]
  | last hne hx => exact items_of_notMem hne hx
  | item hne hx _ ih => rw [items_append_cons hne hx, ih]

theorem spells_items (separator : Char) (value : Text) :
    Spells separator value (items separator value) := by
  -- What follows the first separator is shorter.
  induction hlength : value.length using Nat.strongRecOn generalizing value with
  | _ n ih =>
    by_cases hsep : separator ∈ value
    · obtain ⟨x, rest, rfl, hx⟩ := List.eq_append_cons_of_mem hsep
      have hrest : Spells separator rest (items separator rest) := by
        apply ih rest.length ?_ rest rfl
        rw [← hlength, List.length_append, List.length_cons]
        omega
      by_cases hne : x = []
      · rw [hne, List.nil_append, items_gap]
        exact .gap hrest
      · rw [items_append_cons hne hx]
        exact .item hne hx hrest
    · by_cases hne : value = []
      · rw [hne]
        exact .nothing
      · rw [items_of_notMem hne hsep]
        exact .last hne hsep

/-- The items of a text are those that it spells. -/
theorem items_eq_iff : items separator value = xs ↔ Spells separator value xs := by
  constructor
  · intro h
    rw [← h]
    exact spells_items separator value
  · exact items_of_spells

/-- Of texts written with separators between them, those that are not empty are read. -/
theorem items_joinWith (h : ∀ x ∈ xs, separator ∉ x) :
    items separator (Text.joinWith [separator] xs) = xs.filter (!·.isEmpty) := by
  induction xs with
  | nil => rfl
  | cons x xs ih =>
    obtain ⟨hx, hxs⟩ := List.forall_mem_cons.mp h
    cases xs with
    | nil => rw [Text.joinWith, items, Text.pieces_of_notMem hx]
    | cons y xs =>
      have hjoin : Text.joinWith [separator] (x :: y :: xs) =
          x ++ separator :: Text.joinWith [separator] (y :: xs) := by
        simp [Text.joinWith]
      rw [hjoin, items, Text.pieces_append_cons hx, List.filter_cons, List.filter_cons, ← ih hxs,
        items]

/-- Items written with separators between them are spelled. -/
theorem spells_joinWith (hne : ∀ x ∈ xs, x ≠ []) (h : ∀ x ∈ xs, separator ∉ x) :
    Spells separator (Text.joinWith [separator] xs) xs := by
  have hall : xs.filter (!·.isEmpty) = xs := by
    rw [List.filter_eq_self]
    simpa using hne
  rw [← items_eq_iff, items_joinWith h, hall]

end

/-! ### Definitions -/

section

variable {item value : Text} {d : Definition}

theorem splitFirst?_sign (kind pattern : Text) (h : '=' ∉ kind) :
    Text.splitFirst? (· = '=') (kind ++ '=' :: pattern) = some (kind, pattern) := by
  apply Text.splitFirst?_append_cons
  · intro c hc
    rw [decide_eq_false_iff_not]
    rintro rfl
    exact h hc
  · exact decide_eq_true rfl

theorem parse_of_defines (h : Defines value d) : Definition.parse value = .ok d := by
  obtain ⟨hkind, hsign, hpattern⟩ := h
  simp [Definition.parse, splitFirst?_sign _ _ hsign, hkind, hpattern]

theorem parse_of_definesNothing (h : DefinesNothing value) :
    Definition.parse value = .error ⟨value⟩ := by
  cases h with
  | noSign hsign =>
    cases hsplit : Text.splitFirst? (· = '=') value with
    | none => simp [Definition.parse, hsplit]
    | some cut =>
      obtain ⟨-, c, hc, heq⟩ := Text.splitFirst?_eq_some (a := cut.1) (b := cut.2) hsplit
      rw [of_decide_eq_true hc] at heq
      exact absurd (heq ▸ by simp) hsign
  | noKind pattern => rfl
  | noPattern hsign => simp [Definition.parse, splitFirst?_sign _ _ hsign]

/-- There is nothing between defining a workspace and defining nothing. -/
theorem defines_or_nothing (value : Text) : (∃ d, Defines value d) ∨ DefinesNothing value := by
  by_cases hmem : '=' ∈ value
  · obtain ⟨kind, pattern, rfl, hsign⟩ := List.eq_append_cons_of_mem hmem
    by_cases hkind : kind = []
    · rw [hkind]
      exact .inr (.noKind pattern)
    · by_cases hpattern : pattern = []
      · rw [hpattern]
        exact .inr (.noPattern hsign)
      · exact .inl ⟨_, .mk hkind hsign hpattern⟩
  · exact .inr (.noSign hmem)

/-- A definition is read from the items that define it. -/
theorem parse_eq_ok_iff : Definition.parse value = .ok d ↔ Defines value d := by
  constructor
  · intro h
    obtain ⟨d', hd'⟩ | hnothing := defines_or_nothing value
    · rw [parse_of_defines hd'] at h
      obtain rfl := Except.ok.inj h
      exact hd'
    · rw [parse_of_definesNothing hnothing] at h
      cases h
  · exact parse_of_defines

theorem definition?_of_definesNothing (h : DefinesNothing item) : definition? item = none := by
  rw [definition?, parse_of_definesNothing h]
  rfl

theorem definition?_of_defines (h : Defines item d) : definition? item = some d := by
  rw [definition?, parse_of_defines h]
  rfl

theorem filterMap_of_define {items : List Text} {ds : List Definition} (h : Define items ds) :
    items.filterMap definition? = ds := by
  induction h with
  | nil => rfl
  | nothing hitem _ ih => rw [List.filterMap_cons_none (definition?_of_definesNothing hitem), ih]
  | definition hitem _ ih => rw [List.filterMap_cons_some (definition?_of_defines hitem), ih]

theorem define_filterMap (items : List Text) : Define items (items.filterMap definition?) := by
  induction items with
  | nil => exact .nil
  | cons item items ih =>
    obtain ⟨d, hd⟩ | hnothing := defines_or_nothing item
    · rw [List.filterMap_cons_some (definition?_of_defines hd)]
      exact .definition hd ih
    · rw [List.filterMap_cons_none (definition?_of_definesNothing hnothing)]
      exact .nothing hnothing ih

/-- The definitions in a variable are those of its items, in order. -/
theorem definitions_eq_iff {ds : List Definition} : definitions value = ds ↔
    ∃ xs, Spells definitionSeparator value xs ∧ Define xs ds := by
  constructor
  · rintro rfl
    exact ⟨_, spells_items definitionSeparator value, define_filterMap _⟩
  · rintro ⟨xs, hxs, hds⟩
    rw [definitions, items_of_spells hxs, filterMap_of_define hds]

theorem definitions_joinWith {xs : List Text} (h : ∀ x ∈ xs, definitionSeparator ∉ x) :
    definitions (Text.joinWith [definitionSeparator] xs) = xs.filterMap definition? := by
  rw [definitions, items_joinWith h, List.filterMap_filter]
  congr 1
  funext x
  cases x with
  | nil => rfl
  | cons c x => rfl

/-- An item that defines nothing can be put anywhere, and taken away again. -/
theorem definitions_joinWith_insert {before after : List Text} (h : DefinesNothing item)
    (hall : ∀ x ∈ before ++ item :: after, definitionSeparator ∉ x) :
    definitions (Text.joinWith [definitionSeparator] (before ++ item :: after)) =
      definitions (Text.joinWith [definitionSeparator] (before ++ after)) := by
  -- Both joins are read back item by item, and the item put in gives nothing.
  have hrest : ∀ x ∈ before ++ after, definitionSeparator ∉ x := by
    intro x hx
    apply hall
    rcases List.mem_append.mp hx with hx | hx
    · exact List.mem_append_left _ hx
    · exact List.mem_append_right _ (List.mem_cons_of_mem _ hx)
  rw [definitions_joinWith hall, definitions_joinWith hrest, List.filterMap_append,
    List.filterMap_append, List.filterMap_cons_none (definition?_of_definesNothing h)]

theorem define_written {ds : List Definition} (h : ∀ d ∈ ds, Writable d) :
    Define (ds.map written) ds := by
  induction ds with
  | nil => exact .nil
  | cons d ds ih =>
    obtain ⟨hd, hds⟩ := List.forall_mem_cons.mp h
    exact .definition (.mk hd.kind_ne_nil hd.sign_notMem hd.pattern_ne_nil) (ih hds)

theorem separator_notMem_written (h : Writable d) : definitionSeparator ∉ written d := by
  rw [written, List.mem_append, List.mem_cons]
  rintro (hkind | hsign | hpattern)
  · exact h.separator_notMem_kind hkind
  · exact absurd hsign (by decide)
  · exact h.separator_notMem_pattern hpattern

theorem spells_written {ds : List Definition} (h : ∀ d ∈ ds, Writable d) :
    Spells definitionSeparator (Text.joinWith [definitionSeparator] (ds.map written))
      (ds.map written) := by
  apply spells_joinWith
  · intro x hx
    obtain ⟨d, -, rfl⟩ := List.mem_map.mp hx
    simp [written]
  · intro x hx
    obtain ⟨d, hd, rfl⟩ := List.mem_map.mp hx
    exact separator_notMem_written (h d hd)

end

/-! ### Choices -/

section

variable {α : Type} {values : List α} {read : Text → List α}

theorem orInherited_of_ne_nil (h : values ≠ []) (inherited : Option Text) :
    orInherited values inherited read = values := by
  rw [orInherited, if_neg (by simpa using h)]

theorem orInherited_nil (value : Text) : orInherited [] (some value) read = read value := rfl

/-- It makes no difference whether values are given or read. -/
theorem orInherited_of_read {value : Text} (h : read value = values) :
    orInherited values (some value) read = values := by
  by_cases hne : values = []
  · rw [hne, orInherited_nil, h, hne]
  · exact orInherited_of_ne_nil hne _

end

section

open Program

variable {around : Surroundings} {options : Options} {p h w : Text}

/-- The choices of a run are the same whether its lists are given or read from variables. -/
theorem choices_of_variables (hpinned : around.setting pinnedVariable = some p)
    (hhidden : around.setting hiddenVariable = some h)
    (hworkspaces : around.setting workspacesVariable = some w)
    (hp : items pathSeparator p = options.pinned) (hh : items pathSeparator h = options.hidden)
    (hw : definitions w = options.workspaces) :
    choices around { options with pinned := [], hidden := [], workspaces := [] } =
      choices around options := by
  simp only [choices, hpinned, hhidden, hworkspaces, orInherited_nil, orInherited_of_read hp,
    orInherited_of_read hh, orInherited_of_read hw, hp, hh, hw]

end

/-- Lists of values and lists of definitions, given or read. Values that are given count, whatever
the variable holds. Without them a variable gives exactly the list that it spells, and a list of
items without separators is spelled by the items with a separator between neighbours. Definitions
are read likewise from the items that define them; an item that defines nothing can stand anywhere,
an empty one among others. The texts that are read as a definition are those that define it. So a
run makes the same choices whether its lists are given or its variables spell them. -/
theorem inherited_eq_given :
    (∀ (α : Type) (values : List α) inherited read, values ≠ [] →
      orInherited values inherited read = values) ∧
    (∀ separator xs,
      (∀ value, orInherited [] (some value) (items separator) = xs ↔ Spells separator value xs) ∧
      ((∀ x ∈ xs, x ≠ [] ∧ separator ∉ x) →
        Spells separator (Text.joinWith [separator] xs) xs)) ∧
    (∀ ds,
      (∀ value, orInherited [] (some value) definitions = ds ↔
        ∃ xs, Spells definitionSeparator value xs ∧ Define xs ds) ∧
      ((∀ d ∈ ds, Writable d) → Define (ds.map written) ds ∧ Spells definitionSeparator
        (Text.joinWith [definitionSeparator] (ds.map written)) (ds.map written))) ∧
    (∀ before item after, DefinesNothing item →
      (∀ x ∈ before ++ item :: after, definitionSeparator ∉ x) →
      definitions (Text.joinWith [definitionSeparator] (before ++ item :: after)) =
        definitions (Text.joinWith [definitionSeparator] (before ++ after))) ∧
    (∀ value d, Definition.parse value = .ok d ↔ Defines value d) ∧
    ∀ (around : Surroundings) (options : Options) (p h w : Text) (xs : List Text),
      around.setting Program.pinnedVariable = some p → Spells pathSeparator p options.pinned →
      around.setting Program.hiddenVariable = some h → Spells pathSeparator h options.hidden →
      around.setting Program.workspacesVariable = some w → Spells definitionSeparator w xs →
      Define xs options.workspaces →
      Program.choices around { options with pinned := [], hidden := [], workspaces := [] } =
        Program.choices around options := by
  refine ⟨?_, ?_, ?_, ?_, fun _ _ => parse_eq_ok_iff, ?_⟩
  · intro α values inherited read hne
    exact orInherited_of_ne_nil hne inherited
  · intro separator xs
    refine ⟨fun value => items_eq_iff, fun h => ?_⟩
    exact spells_joinWith (fun x hx => (h x hx).1) (fun x hx => (h x hx).2)
  · intro ds
    exact ⟨fun value => definitions_eq_iff, fun h => ⟨define_written h, spells_written h⟩⟩
  · intro before item after hitem hall
    exact definitions_joinWith_insert hitem hall
  · intro around options p h w xs hpinned hp hhidden hh hworkspaces hw hds
    exact choices_of_variables hpinned hhidden hworkspaces (items_of_spells hp) (items_of_spells hh)
      (definitions_eq_iff.mpr ⟨xs, hw, hds⟩)

/-- Separators at the ends and in a row, items without a sign, a kind or a pattern, and an equals
sign in a pattern: the variables spell the two paths, nothing, and the two definitions. -/
theorem inherited_eq_given_of_untidy :
    let options : Options := {
      pinned := ["/a".toList, "/b".toList]
      workspaces := [⟨['p'], "/x".toList⟩, ⟨['q'], "/z=[^/]+".toList⟩] }
    let values : List (Text × Text) := [
      (Program.pinnedVariable, ":/a::/b:".toList), (Program.hiddenVariable, []),
      (Program.workspacesVariable, "p=/x;;broken;=y;q=/z=[^/]+;r=;".toList)]
    let around : Surroundings := {
      setting := fun name => (values.find? (·.1 = name)).map (·.2)
      store := fun _ => Store.ofListing (.ok ['/']) (.ok []) fun _ => .ok () }
    Program.choices around {} = ⟨options.pinned, [], options.workspaces⟩ := by
  intro options values around
  have hp : Spells pathSeparator ":/a::/b:".toList options.pinned :=
    items_eq_iff.mp (by decide +kernel)
  have hw : Spells definitionSeparator "p=/x;;broken;=y;q=/z=[^/]+;r=;".toList
      ["p=/x".toList, "broken".toList, "=y".toList, "q=/z=[^/]+".toList, "r=".toList] :=
    items_eq_iff.mp (by decide +kernel)
  have hds : Define ["p=/x".toList, "broken".toList, "=y".toList, "q=/z=[^/]+".toList, "r=".toList]
      options.workspaces := by
    have hfirst : Defines (['p'] ++ '=' :: "/x".toList) ⟨['p'], "/x".toList⟩ :=
      .mk (by decide) (by decide) (by decide)
    have hsecond : Defines (['q'] ++ '=' :: "/z=[^/]+".toList) ⟨['q'], "/z=[^/]+".toList⟩ :=
      .mk (by decide) (by decide) (by decide)
    have hlast : DefinesNothing (['r'] ++ ['=']) := .noPattern (by decide)
    apply Define.definition hfirst
    apply Define.nothing (.noSign (by decide))
    apply Define.nothing (.noKind ['y'])
    apply Define.definition hsecond
    exact .nothing hlast .nil
  obtain ⟨-, -, -, -, -, hchoices⟩ := inherited_eq_given
  exact hchoices around options _ _ _ _ (by decide +kernel) hp (by decide +kernel) .nothing
    (by decide +kernel) hw hds

end DirPicker.Setting
