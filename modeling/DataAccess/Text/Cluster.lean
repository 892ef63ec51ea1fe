import DataAccess.Text.ClusterTable

/-!
Grapheme clusters: the units of text that a reader takes for one character, such as a letter
with its accents or a chain of joined pictographs. A text is its clusters in order.
-/
set_option autoImplicit false

namespace DataAccess.Text

/-- How a character behaves at the borders of a cluster. -/
inductive ClusterClass where
  | carriageReturn
  | lineFeed
  | control
  | extend
  | joiner
  | spacingMark
  | prepend
  | leadingJamo
  | vowelJamo
  | trailingJamo
  | openSyllable
  | closedSyllable
  | regional
  | pictograph
  | other
deriving DecidableEq

def clusterClass (c : Char) : ClusterClass :=
  let code := c.toNat
  if code < 128 then
    if code = 13 then .carriageReturn
    else if code = 10 then .lineFeed
    else if code < 32 || code == 127 then .control
    else .other
  else if code = 0x200D then .joiner
  else if inRanges extendRanges code || inRanges [(0x1F3FB, 0x1F3FF)] code then .extend
  else if inRanges spacingMarkRanges code then .spacingMark
  else if inRanges prependRanges code then .prepend
  else if inRanges controlRanges code then .control
  else if inRanges [(0x1100, 0x115F), (0xA960, 0xA97C)] code then .leadingJamo
  else if inRanges [(0x1160, 0x11A7), (0xD7B0, 0xD7C6)] code then .vowelJamo
  else if inRanges [(0x11A8, 0x11FF), (0xD7CB, 0xD7FB)] code then .trailingJamo
  else if inRanges [(0xAC00, 0xD7A3)] code then
    if (code - 0xAC00) % 28 = 0 then .openSyllable else .closedSyllable
  else if inRanges [(0x1F1E6, 0x1F1FF)] code then .regional
  else if inRanges pictographRanges code then .pictograph
  else .other

/-- How far a conjunct has been read. -/
inductive Conjunct where
  | none
  | consonant
  | linked
deriving DecidableEq

/-- What the cluster read so far ends in: the class of its last character, whether it is an
odd run of regional indicators, whether it is a pictograph with marks, and its conjunct. -/
structure ClusterEnd where
  last : ClusterClass
  oddRegional : Bool
  afterPictograph : Bool
  conjunct : Conjunct

def ClusterEnd.start (c : Char) : ClusterEnd where
  last := clusterClass c
  oddRegional := clusterClass c = .regional
  afterPictograph := clusterClass c = .pictograph
  conjunct := if inRanges consonantRanges c.toNat then .consonant else .none

def ClusterEnd.push (before : ClusterEnd) (c : Char) : ClusterEnd where
  last := clusterClass c
  oddRegional := clusterClass c = .regional && !before.oddRegional
  afterPictograph := clusterClass c = .pictograph ||
    before.afterPictograph && before.last != .joiner &&
      (clusterClass c = .extend || clusterClass c = .joiner)
  conjunct :=
    if inRanges consonantRanges c.toNat then .consonant
    else if before.conjunct = .none then .none
    else if inRanges linkerRanges c.toNat then .linked
    else if clusterClass c = .joiner || clusterClass c = .extend && c.toNat != 0x200C then
      before.conjunct
    else .none

/-- Whether no border lies between what was read and the next character. -/
def ClusterEnd.joins (before : ClusterEnd) (c : Char) : Bool :=
  match before.last, clusterClass c with
  | .carriageReturn, .lineFeed => true
  | .carriageReturn, _ | .lineFeed, _ | .control, _ => false
  | _, .carriageReturn | _, .lineFeed | _, .control => false
  | _, .extend | _, .joiner | _, .spacingMark => true
  | .prepend, _ => true
  | .leadingJamo, .leadingJamo | .leadingJamo, .vowelJamo => true
  | .leadingJamo, .openSyllable | .leadingJamo, .closedSyllable => true
  | .openSyllable, .vowelJamo | .openSyllable, .trailingJamo => true
  | .vowelJamo, .vowelJamo | .vowelJamo, .trailingJamo => true
  | .closedSyllable, .trailingJamo | .trailingJamo, .trailingJamo => true
  | .joiner, .pictograph => before.afterPictograph
  | .regional, .regional => before.oddRegional
  | _, _ => before.conjunct = .linked && inRanges consonantRanges c.toNat

/-- The clusters of a text that continues a cluster ending in `before`; the first is what
continues that cluster and may be empty. -/
def clustersAfter : (before : ClusterEnd) → List Char → List Char × List (List Char)
  | _, [] => ([], [])
  | before, c :: rest =>
    if before.joins c then
      let next := clustersAfter (before.push c) rest
      (c :: next.1, next.2)
    else
      let next := clustersAfter (.start c) rest
      ([], (c :: next.1) :: next.2)

/-- The grapheme clusters of a text. -/
def clusters : List Char → List (List Char)
  | [] => []
  | c :: rest =>
    let next := clustersAfter (.start c) rest
    (c :: next.1) :: next.2

theorem flatten_clustersAfter (before : ClusterEnd) (text : List Char) :
    (clustersAfter before text).1 ++ (clustersAfter before text).2.flatten = text := by
  induction text generalizing before with
  | nil => rfl
  | cons c rest ih =>
    simp only [clustersAfter]
    split <;> simp [ih]

theorem flatten_clusters (text : List Char) : (clusters text).flatten = text := by
  cases text with
  | nil => rfl
  | cons c rest => simp [clusters, flatten_clustersAfter]

end DataAccess.Text
