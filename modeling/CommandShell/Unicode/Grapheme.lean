import CommandShell.Unicode.ClusterTable
import CommandShell.Unicode.Property

/-!
# Grapheme clusters

What a reader sees as one character may be several in a text: a letter with its marks, the
parts of a Hangul syllable, a flag of two letters, or a picture made of others.  A text is
cut into such clusters from left to right; whether a character joins the cluster before it
depends on its class, the class of the character before it, and a little memory of the
cluster.
-/

namespace CommandShell.Unicode

/-- The class of a character for cluster breaks. -/
inductive GraphemeClass where
  | other
  | carriageReturn
  | lineFeed
  | control
  | extend
  | joiner
  | prepend
  | spacingMark
  | regionalIndicator
  | leadingJamo
  | vowelJamo
  | trailingJamo
  | openSyllable
  | closedSyllable
deriving Repr, DecidableEq

/-- The classes by their names in the table. -/
def graphemeClasses : List (String × GraphemeClass) :=
  [("Control", .control), ("Extend", .extend), ("ZWJ", .joiner), ("Prepend", .prepend),
    ("SpacingMark", .spacingMark), ("Regional_Indicator", .regionalIndicator),
    ("L", .leadingJamo), ("V", .vowelJamo), ("T", .trailingJamo), ("LV", .openSyllable),
    ("LVT", .closedSyllable)]

/-- The characters of a class in clusters: those of the class in patterns, with what the later
version of the standard added and without what it took out. -/
def clusterSet (name : String) : CodeSet :=
  let earlier := (grapheme? name).getD CodeSet.empty
  let added := (tableSet? addedGraphemeTable name).getD CodeSet.empty
  let removed := (tableSet? removedGraphemeTable name).getD CodeSet.empty
  (earlier.union added).difference removed

/-- The sets of the classes. -/
def graphemeSets : List (CodeSet × GraphemeClass) :=
  graphemeClasses.map fun (name, k) => (clusterSet name, k)

/-- The class of a character.  Those of the first block are known without the table. -/
def graphemeClass (c : Char) : GraphemeClass :=
  let n := c.toNat
  if n = 13 then .carriageReturn
  else if n = 10 then .lineFeed
  else if n < 32 || n = 127 then .control
  else if n < 127 then .other
  else ((graphemeSets.find? (·.1.contains n)).map (·.2)).getD .other

/-- The characters that pictures are made of. -/
def pictographs : CodeSet :=
  (tableSet? pictographTable "Extended_Pictographic").getD CodeSet.empty

/-- The consonants of Indic conjuncts. -/
def conjunctConsonants : CodeSet :=
  (tableSet? conjunctTable "Consonant").getD CodeSet.empty

/-- The signs that join the consonants of Indic conjuncts. -/
def conjunctLinkers : CodeSet :=
  (tableSet? conjunctTable "Linker").getD CodeSet.empty

/-- The set has the character, which no character of the first block is in. -/
def isIn (s : CodeSet) (c : Char) : Bool :=
  127 < c.toNat && s.contains c.toNat

/-- The sign that keeps letters apart.  It extends a cluster, but not an Indic conjunct. -/
def nonJoiner : Char := '\u200C'

/-- What has to be remembered of a cluster. -/
structure Cluster where
  /-- The class of its last character. -/
  last : GraphemeClass
  /-- The number of letters of a flag that it ends with is odd. -/
  oddFlag : Bool
  /-- It ends with a picture and marks. -/
  picture : Bool
  /-- It ends with a picture, marks and a joiner. -/
  joined : Bool
  /-- It ends with a consonant and marks. -/
  consonant : Bool
  /-- One of the marks after the consonant joins consonants. -/
  linked : Bool
deriving Repr, DecidableEq

/-- The cluster after one more character.  `isNew` says that the character begins it. -/
def Cluster.next (old : Cluster) (isNew : Bool) (c : Char) : Cluster :=
  let k := graphemeClass c
  let isPicture := isIn pictographs c
  let isConsonant := isIn conjunctConsonants c
  let isLinker := isIn conjunctLinkers c
  let isMark := (k = .extend && c ≠ nonJoiner) || k = .joiner
  { last := k
    oddFlag := k = .regionalIndicator && (isNew || !old.oddFlag)
    picture := isPicture || (!isNew && old.picture && k = .extend)
    joined := !isNew && old.picture && k = .joiner
    consonant := isConsonant || (!isNew && old.consonant && isMark)
    linked := !isConsonant && !isNew && old.consonant && isMark && (old.linked || isLinker) }

/-- A character joins the cluster before it. -/
def Cluster.joins (old : Cluster) (c : Char) : Bool :=
  let k := graphemeClass c
  let isBreak (k : GraphemeClass) : Bool :=
    k = .control || k = .carriageReturn || k = .lineFeed
  if old.last = .carriageReturn && k = .lineFeed then true
  else if isBreak old.last || isBreak k then false
  else match old.last, k with
    | .leadingJamo, .leadingJamo | .leadingJamo, .vowelJamo => true
    | .leadingJamo, .openSyllable | .leadingJamo, .closedSyllable => true
    | .openSyllable, .vowelJamo | .openSyllable, .trailingJamo => true
    | .vowelJamo, .vowelJamo | .vowelJamo, .trailingJamo => true
    | .closedSyllable, .trailingJamo | .trailingJamo, .trailingJamo => true
    | _, .extend | _, .joiner | _, .spacingMark => true
    | .prepend, _ => true
    | .regionalIndicator, .regionalIndicator => old.oddFlag
    | _, _ =>
      (old.consonant && old.linked && isIn conjunctConsonants c) ||
        (old.joined && isIn pictographs c)

/-- Before any character. -/
def Cluster.initial : Cluster :=
  ⟨.control, false, false, false, false, false⟩

/-- The clusters of a text after one that is given by what is remembered of it.  The first
text of the result continues that cluster. -/
def clustersFrom (old : Cluster) : Text → Text × List Text
  | [] => ([], [])
  | c :: rest =>
    if old.joins c then
      let (t, ts) := clustersFrom (old.next false c) rest
      (c :: t, ts)
    else
      let (t, ts) := clustersFrom (old.next true c) rest
      ([], (c :: t) :: ts)

/-- The grapheme clusters of a text. -/
def clusters (t : Text) : List Text :=
  (clustersFrom Cluster.initial t).2

end CommandShell.Unicode
