import DirPicker.Pattern.Syntax
import DirPicker.Unicode.Age
import DirPicker.Unicode.Boundary
import DirPicker.Unicode.Category
import DirPicker.Unicode.Property
import DirPicker.Unicode.Script
import DirPicker.Unicode.Space

/-!
# Classes of characters by name

What a pattern can call a set of characters: by general category, by script, by a yes-or-no
property, or by a property and its value, each under its long or its short name. Names are compared
loosely: case, blanks, hyphens, underscores and an `is` in front make no difference.
-/

namespace DirPicker.Pattern

open Unicode

/-- The form of a name in which loosely equal names are equal. -/
def looseName (t : Text) : Text :=
  let lower := t.map Char.toLower
  let (hasIs, body) : Bool × Text :=
    match lower with
    | 'i' :: 's' :: rest => (true, rest)
    | _ => (false, lower)
  let name := body.filter fun c => c.toNat < 128 && c ≠ ' ' && c ≠ '_' && c ≠ '-'
  if hasIs && name = ['c'] then ['i', 's', 'c'] else name

/-- Whether one of the names is loosely `name`, which is in its loose form. -/
def isCalled (name : Text) (names : List String) : Bool :=
  names.any fun other => looseName other.toList = name

/-- General categories and their groups. The category of surrogates is not among them, because no
character has it. -/
def categories : List (List String × CharSet) := [
  (["Any"], .all),
  (["Assigned"], unassigned.complement),
  (["ASCII"], ⟨[(0, 0x7F)]⟩),
  (["C", "Other"], other),
  (["Cc", "Control", "cntrl"], control),
  (["Cf", "Format"], format),
  (["Cn", "Unassigned"], unassigned),
  (["Co", "Private_Use"], privateUse),
  (["L", "Letter"], letter),
  (["LC", "Cased_Letter"], casedLetter),
  (["Ll", "Lowercase_Letter"], lowercaseLetter),
  (["Lm", "Modifier_Letter"], modifierLetter),
  (["Lo", "Other_Letter"], otherLetter),
  (["Lt", "Titlecase_Letter"], titlecaseLetter),
  (["Lu", "Uppercase_Letter"], uppercaseLetter),
  (["M", "Mark", "Combining_Mark"], mark),
  (["Mc", "Spacing_Mark"], spacingMark),
  (["Me", "Enclosing_Mark"], enclosingMark),
  (["Mn", "Nonspacing_Mark"], nonspacingMark),
  (["N", "Number"], number),
  (["Nd", "Decimal_Number", "digit"], decimalNumber),
  (["Nl", "Letter_Number"], letterNumber),
  (["No", "Other_Number"], otherNumber),
  (["P", "Punctuation", "punct"], punctuation),
  (["Pc", "Connector_Punctuation"], connectorPunctuation),
  (["Pd", "Dash_Punctuation"], dashPunctuation),
  (["Pe", "Close_Punctuation"], closePunctuation),
  (["Pf", "Final_Punctuation"], finalPunctuation),
  (["Pi", "Initial_Punctuation"], initialPunctuation),
  (["Po", "Other_Punctuation"], otherPunctuation),
  (["Ps", "Open_Punctuation"], openPunctuation),
  (["S", "Symbol"], symbol),
  (["Sc", "Currency_Symbol"], currencySymbol),
  (["Sk", "Modifier_Symbol"], modifierSymbol),
  (["Sm", "Math_Symbol"], mathSymbol),
  (["So", "Other_Symbol"], otherSymbol),
  (["Z", "Separator"], separator),
  (["Zl", "Line_Separator"], lineSeparator),
  (["Zp", "Paragraph_Separator"], paragraphSeparator),
  (["Zs", "Space_Separator"], spaceSeparator)]

def binaryProperties : List (List String × CharSet) := [
  (["ASCII_Hex_Digit", "AHex"], asciiHexDigit),
  (["Alphabetic", "Alpha"], alphabetic),
  (["Bidi_Control", "Bidi_C"], bidiControl),
  (["Bidi_Mirrored", "Bidi_M"], bidiMirrored),
  (["Case_Ignorable", "CI"], caseIgnorable),
  (["Cased"], cased),
  (["Changes_When_Casefolded", "CWCF"], changesWhenCasefolded),
  (["Changes_When_Casemapped", "CWCM"], changesWhenCasemapped),
  (["Changes_When_Lowercased", "CWL"], changesWhenLowercased),
  (["Changes_When_Titlecased", "CWT"], changesWhenTitlecased),
  (["Changes_When_Uppercased", "CWU"], changesWhenUppercased),
  (["Dash"], dash),
  (["Default_Ignorable_Code_Point", "DI"], defaultIgnorable),
  (["Deprecated", "Dep"], deprecated),
  (["Diacritic", "Dia"], diacritic),
  (["Emoji"], emoji),
  (["Emoji_Component", "EComp"], emojiComponent),
  (["Emoji_Modifier", "EMod"], emojiModifier),
  (["Emoji_Modifier_Base", "EBase"], emojiModifierBase),
  (["Emoji_Presentation", "EPres"], emojiPresentation),
  (["Extended_Pictographic", "ExtPict"], extendedPictographic),
  (["Extender", "Ext"], extender),
  (["Grapheme_Base", "Gr_Base"], graphemeBase),
  (["Grapheme_Extend", "Gr_Ext"], graphemeExtend),
  (["Hex_Digit", "Hex"], hexDigit),
  (["IDS_Binary_Operator", "IDSB"], ideographicBinary),
  (["IDS_Trinary_Operator", "IDST"], ideographicTrinary),
  (["ID_Continue", "IDC"], identifierContinue),
  (["ID_Start", "IDS"], identifierStart),
  (["Ideographic", "Ideo"], ideographic),
  (["Join_Control", "Join_C"], joinControl),
  (["Logical_Order_Exception", "LOE"], logicalOrderException),
  (["Lowercase", "Lower"], lowercase),
  (["Math"], mathematical),
  (["Noncharacter_Code_Point", "NChar"], noncharacter),
  (["Pattern_Syntax", "Pat_Syn"], patternSyntax),
  (["Pattern_White_Space", "Pat_WS"], patternSpace),
  (["Quotation_Mark", "QMark"], quotationMark),
  (["Radical"], radical),
  (["Regional_Indicator", "RI"], regionalIndicator),
  (["Sentence_Terminal", "STerm"], sentenceTerminal),
  (["Soft_Dotted", "SD"], softDotted),
  (["Terminal_Punctuation", "Term"], terminalPunctuation),
  (["Unified_Ideograph", "UIdeo"], unifiedIdeograph),
  (["Uppercase", "Upper"], uppercase),
  (["Variation_Selector", "VS"], variationSelector),
  (["XID_Continue", "XIDC"], extendedContinue),
  (["XID_Start", "XIDS"], extendedStart),
  (["IDS_Unary_Operator", "IDSU"], ideographicUnary),
  (["Prepended_Concatenation_Mark", "PCM"], prependedMark),
  (["White_Space", "WSpace", "space"], whiteSpace),
  (["Grapheme_Link", "Gr_Link"], graphemeLink),
  (["Hyphen"], hyphen),
  (["ID_Compat_Math_Continue"], compatMathContinue),
  (["ID_Compat_Math_Start"], compatMathStart),
  (["Modifier_Combining_Mark", "MCM"], modifierCombiningMark),
  (["Other_Alphabetic", "OAlpha"], otherAlphabetic),
  (["Other_Default_Ignorable_Code_Point", "ODI"], otherDefaultIgnorable),
  (["Other_Grapheme_Extend", "OGr_Ext"], otherGraphemeExtend),
  (["Other_ID_Continue", "OIDC"], otherIdentifierContinue),
  (["Other_ID_Start", "OIDS"], otherIdentifierStart),
  (["Other_Lowercase", "OLower"], otherLowercase),
  (["Other_Math", "OMath"], otherMath),
  (["Other_Uppercase", "OUpper"], otherUppercase)]

/-- The names of properties that a pattern may speak of, but by which it cannot find characters. -/
def otherProperties : List (List String) := [
  ["Bidi_Class", "bc"], ["Bidi_Mirroring_Glyph", "bmg"], ["Bidi_Paired_Bracket", "bpb"],
  ["Bidi_Paired_Bracket_Type", "bpt"], ["Block", "blk"], ["Canonical_Combining_Class", "ccc"],
  ["Case_Folding", "cf"], ["Changes_When_NFKC_Casefolded", "CWKCF"],
  ["Composition_Exclusion", "CE"], ["Decomposition_Mapping", "dm"], ["Decomposition_Type", "dt"],
  ["East_Asian_Width", "ea"], ["Equivalent_Unified_Ideograph", "EqUIdeo"],
  ["Expands_On_NFC", "XO_NFC"], ["Expands_On_NFD", "XO_NFD"], ["Expands_On_NFKC", "XO_NFKC"],
  ["Expands_On_NFKD", "XO_NFKD"], ["FC_NFKC_Closure", "FC_NFKC"],
  ["Full_Composition_Exclusion", "Comp_Ex"], ["Hangul_Syllable_Type", "hst"],
  ["Indic_Conjunct_Break", "InCB"], ["Indic_Positional_Category", "InPC"],
  ["Indic_Syllabic_Category", "InSC"], ["ISO_Comment", "isc"], ["Jamo_Short_Name", "JSN"],
  ["Joining_Group", "jg"], ["Joining_Type", "jt"], ["Line_Break", "lb"],
  ["Lowercase_Mapping", "lc"], ["Name", "na"], ["Name_Alias"],
  ["NFC_Quick_Check", "NFC_QC"], ["NFD_Quick_Check", "NFD_QC"], ["NFKC_Casefold", "NFKC_CF"],
  ["NFKC_Quick_Check", "NFKC_QC"], ["NFKC_Simple_Casefold", "NFKC_SCF"],
  ["NFKD_Quick_Check", "NFKD_QC"], ["Numeric_Type", "nt"], ["Numeric_Value", "nv"],
  ["Simple_Case_Folding", "scf", "sfc"], ["Simple_Lowercase_Mapping", "slc"],
  ["Simple_Titlecase_Mapping", "stc"], ["Simple_Uppercase_Mapping", "suc"],
  ["Titlecase_Mapping", "tc"], ["Unicode_1_Name", "na1"], ["Uppercase_Mapping", "uc"],
  ["Vertical_Orientation", "vo"],
  ["kAccountingNumeric", "cjkAccountingNumeric"],
  ["kCompatibilityVariant", "cjkCompatibilityVariant"],
  ["kEH_Cat"], ["kEH_Desc"], ["kEH_HG"], ["kEH_IFAO"], ["kEH_JSesh"], ["kEH_NoMirror"],
  ["kEH_NoRotate"], ["kIICore", "cjkIICore"], ["kIRG_GSource", "cjkIRG_GSource"],
  ["kIRG_HSource", "cjkIRG_HSource"], ["kIRG_JSource", "cjkIRG_JSource"],
  ["kIRG_KPSource", "cjkIRG_KPSource"], ["kIRG_KSource", "cjkIRG_KSource"],
  ["kIRG_MSource", "cjkIRG_MSource"], ["kIRG_SSource", "cjkIRG_SSource"],
  ["kIRG_TSource", "cjkIRG_TSource"], ["kIRG_UKSource", "cjkIRG_UKSource"],
  ["kIRG_USource", "cjkIRG_USource"], ["kIRG_VSource", "cjkIRG_VSource"],
  ["kOtherNumeric", "cjkOtherNumeric"], ["kPrimaryNumeric", "cjkPrimaryNumeric"],
  ["kRSUnicode", "cjkRSUnicode", "Unicode_Radical_Stroke", "URS"]]

def emptyScripts : List (List String) :=
  [["Hrkt", "Katakana_Or_Hiragana"], ["Zzzz", "Unknown"]]

def surrogateCategory : List String := ["Cs", "Surrogate"]

/-! ### Looking up -/

def findCalled? (name : Text) (entries : List (List String × α)) : Option α :=
  (entries.find? fun entry => isCalled name entry.1).map (·.2)

inductive Property
  /-- Its values are general categories. -/
  | category
  /-- Its values are scripts, of which the characters are meant, or those in use with the script. -/
  | script (extended : Bool)
  /-- Its values are editions; what an edition has, all later ones have too. -/
  | age
  /-- It has a set of characters for each of its values. -/
  | valued (values : List (List String × CharSet))
  /-- It holds or does not hold. -/
  | binary (chars : CharSet)
  /-- It is known by name only. -/
  | nameOnly

def valuedProperties : List (List String × Property) := [
  (["General_Category", "gc"], .category),
  (["Script", "sc"], .script false),
  (["Script_Extensions", "scx"], .script true),
  (["Age", "age"], .age),
  (["Grapheme_Cluster_Break", "GCB"], .valued graphemeParts),
  (["Sentence_Break", "SB"], .valued sentenceParts),
  (["Word_Break", "WB"], .valued wordParts)]

def findProperty? (name : Text) : Option Property :=
  findCalled? name valuedProperties
    <|> (findCalled? name binaryProperties).map .binary
    <|> if otherProperties.any (isCalled name) then some .nameOnly else none

/-- The characters of a category. `none` means that there is no such category. -/
def categoryChars? (value : Text) : Option (Except Cause CharSet) :=
  if isCalled value surrogateCategory then some (.error .propertyValueNotFound)
  else (findCalled? value categories).map .ok

/-- The characters of a script. `none` means that there is no such script. -/
def scriptChars? (extended : Bool) (value : Text) : Option (Except Cause CharSet) :=
  if emptyScripts.any (isCalled value) then some (.error .propertyValueNotFound)
  else (scripts.find? fun script => isCalled value script.names).map fun script =>
    .ok (if extended then script.extended else script.chars)

/-- The characters that were assigned by an edition. -/
def ageChars? (value : Text) : Option CharSet :=
  (ages.findIdx? fun entry => isCalled value entry.1).map fun i =>
    anyOf ((ages.take (i + 1)).map (·.2))

def Property.charsWith (property : Property) (value : Text) : Except Cause CharSet :=
  let found : Option (Except Cause CharSet) :=
    match property with
    | .category => categoryChars? value
    | .script extended => scriptChars? extended value
    | .age => (ageChars? value).map .ok
    | .valued values => (findCalled? value values).map .ok
    | .binary _ | .nameOnly => none
  found.getD (.error .propertyValueNotFound)

/-- Short names that stand for a category although a property has them too. -/
def categoryFirst (name : Text) : Bool :=
  name = ['c', 'f'] || name = ['s', 'c'] || name = ['l', 'c']

/-- The characters that a name alone stands for: that of a property which holds or does not hold,
of a category, or of a script. The name of any other property stands for none. -/
def charsCalled (name : Text) : Except Cause CharSet :=
  match if categoryFirst name then none else findProperty? name with
  | some (.binary chars) => .ok chars
  | some _ => .error .propertyNotFound
  | none => (categoryChars? name <|> scriptChars? false name).getD (.error .propertyNotFound)

def PropertyQuery.chars : PropertyQuery → Except Cause CharSet
  | .named name => charsCalled (looseName name)
  | .valued name value =>
    match findProperty? (looseName name) with
    | some property => property.charsWith (looseName value)
    | none => .error .propertyNotFound

/-! ### Classes with short names -/

/-- Letters, marks, digits, connecting punctuation and joiners: what words are made of. -/
def wordChars : CharSet :=
  anyOf [alphabetic, mark, decimalNumber, connectorPunctuation, joinControl]

def asciiWord : CharSet := ⟨[(0x30, 0x39), (0x41, 0x5A), (0x5F, 0x5F), (0x61, 0x7A)]⟩

def Shorthand.chars (unicode : Bool) : Shorthand → CharSet
  | .digit => if unicode then decimalNumber else .range '0' '9'
  | .space => if unicode then whiteSpace else ⟨[(0x9, 0xD), (0x20, 0x20)]⟩
  | .word => if unicode then wordChars else asciiWord

def AsciiClass.chars : AsciiClass → CharSet
  | .alnum => ⟨[(0x30, 0x39), (0x41, 0x5A), (0x61, 0x7A)]⟩
  | .alpha => ⟨[(0x41, 0x5A), (0x61, 0x7A)]⟩
  | .ascii => ⟨[(0, 0x7F)]⟩
  | .blank => ⟨[(0x9, 0x9), (0x20, 0x20)]⟩
  | .cntrl => ⟨[(0, 0x1F), (0x7F, 0x7F)]⟩
  | .digit => .range '0' '9'
  | .graph => .range '!' '~'
  | .lower => .range 'a' 'z'
  | .print => .range ' ' '~'
  | .punct => ⟨[(0x21, 0x2F), (0x3A, 0x40), (0x5B, 0x60), (0x7B, 0x7E)]⟩
  | .space => ⟨[(0x9, 0xD), (0x20, 0x20)]⟩
  | .upper => .range 'A' 'Z'
  | .word => asciiWord
  | .xdigit => ⟨[(0x30, 0x39), (0x41, 0x46), (0x61, 0x66)]⟩

end DirPicker.Pattern
