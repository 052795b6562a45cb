import DirPicker.Unicode.Boundary
import DirPicker.Unicode.Property

/-!
# Grapheme clusters

What a reader takes for one character may be several: a letter with its accents, a syllable of
Hangul written in parts, a flag of two halves, a family of pictures. `clusters` divides a text into
them, and `flatten_clusters` says that nothing is lost.
-/

namespace DirPicker.Unicode

/-! ### Parts -/

/-- The characters that play a part in clusters, by its name. -/
def clusterPart (name : String) : CharSet :=
  ((graphemeParts.find? (·.1.contains name)).map (·.2)).getD .empty

/-- The character that joins what stands before it to what stands behind it. -/
def joiner : Char := '\u200d'

/-- The characters that are clusters by themselves. -/
def cutting : CharSet := anyOf [clusterPart "Control", clusterPart "CR", clusterPart "LF"]

/-- The characters that belong to whatever stands before them. -/
def trailing : CharSet :=
  anyOf [clusterPart "Extend", clusterPart "SpacingMark", .singleton joiner]

/-- Marks and joiners, which may stand between a picture and what it is joined to. -/
def extending : CharSet := clusterPart "Extend"

/-- The characters that whatever stands behind them belongs to. -/
def leading : CharSet := clusterPart "Prepend"

def flagHalves : CharSet := clusterPart "Regional_Indicator"

/-- The consonants that are written in one with a consonant before them. -/
def conjoining : CharSet := .ofTable
  ["915-939 958-95F 978-97F 995-9A8 9AA-9B0 9B2 9B6-9B9 9DC-9DD 9DF 9F0-9F1 A95-AA8 AAA-AB0",
   "AB2-AB3 AB5-AB9 AF9 B15-B28 B2A-B30 B32-B33 B35-B39 B5C-B5D B5F B71 C15-C28 C2A-C39",
   "C58-C5A D15-D3A"]

/-- The signs that two such consonants are written in one for. -/
def conjunction : CharSet := .ofTable ["94D 9CD ACD B4D C4D D4D"]

/-- What may stand between two such consonants. -/
def betweenConsonants : CharSet :=
  (anyOf [clusterPart "Extend", .singleton joiner]).diff (.singleton '\u200c')

/-- The parts of Hangul that begin a syllable, go on with it, or end it. -/
def firstJamo : CharSet := clusterPart "L"

@[inherit_doc firstJamo] def vowelJamo : CharSet := clusterPart "V"

@[inherit_doc firstJamo] def lastJamo : CharSet := clusterPart "T"

/-! ### Where clusters go on -/

/-- Whether `c` goes on with the syllable of Hangul that `last` ends or begins. -/
def continuesSyllable (last c : Char) : Bool :=
  if lastJamo.contains c then
    vowelJamo.contains last || lastJamo.contains last ||
      openSyllable.contains last || closedSyllable.contains last
  else if vowelJamo.contains c then
    firstJamo.contains last || vowelJamo.contains last || openSyllable.contains last
  else
    firstJamo.contains last &&
      (firstJamo.contains c || openSyllable.contains c || closedSyllable.contains c)

/-- Whether a text, given from its end, ends with a consonant and a sign that joins another. -/
def awaitsConsonant (before : Text) : Bool :=
  let (marks, rest) := before.span betweenConsonants.contains
  marks.any conjunction.contains && rest.head?.any conjoining.contains

/-- Whether a text, given from its end, ends with a picture and marks on it. -/
def endsInPicture (before : Text) : Bool :=
  (before.dropWhile extending.contains).head?.any extendedPictographic.contains

/-- The printable characters of ASCII, which are clusters each where they are among themselves. -/
def isPlain (c : Char) : Bool := ' ' ≤ c && c ≤ '~'

/-- Whether `c` belongs to the cluster that ends with `last`; `earlier` is what stands in front of
`last` in the cluster, from its end. -/
def joins (last : Char) (earlier : Text) (c : Char) : Bool :=
  if isPlain last && isPlain c then false
  else if cutting.contains last || cutting.contains c then last = '\r' && c = '\n'
  else
    trailing.contains c || leading.contains last || continuesSyllable last c ||
    (conjoining.contains c && awaitsConsonant (last :: earlier)) ||
    (last = joiner && extendedPictographic.contains c && endsInPicture earlier) ||
    (flagHalves.contains c && flagHalves.contains last &&
      !earlier.head?.any flagHalves.contains)

/-! ### Clusters -/

/-- The clusters of a text whose first one has begun with `last` and, from its end, `earlier`. -/
def clustersFrom (last : Char) (earlier : Text) : Text → List Text
  | [] => [(last :: earlier).reverse]
  | c :: t =>
    if joins last earlier c then clustersFrom c (last :: earlier) t
    else (last :: earlier).reverse :: clustersFrom c [] t

def clusters : Text → List Text
  | [] => []
  | c :: t => clustersFrom c [] t

/-- Clusters lose no character. -/
theorem flatten_clustersFrom (last : Char) (earlier t : Text) :
    (clustersFrom last earlier t).flatten = (last :: earlier).reverse ++ t := by
  induction t generalizing last earlier with
  | nil => simp [clustersFrom]
  | cons c t ih =>
    simp only [clustersFrom]
    split
    · simp [ih]
    · simp [ih]

/-- Clusters divide a text and lose nothing of it. -/
theorem flatten_clusters (t : Text) : (clusters t).flatten = t := by
  cases t with
  | nil => rfl
  | cons c t => simp [clusters, flatten_clustersFrom]

end DirPicker.Unicode
