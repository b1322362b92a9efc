/-
Clusters.

A cluster is what a reader takes for one character: a letter with its accents, a flag, a
picture that is put together from several.  The rules are those of the Unicode standard for
extended grapheme clusters.

* `joins` — whether a character belongs to the cluster in front of it;
* `clusters` — the clusters of a text;
* `clusters_flatten` — nothing is lost or moved when a text is cut into clusters.

Design notes.  A rule may look back over the marks behind a pictograph or a consonant, or over
the flags in a row, but never out of the cluster that is being read: all that it looks at has
joined already.  So a cluster is read with its last character first.
-/
import Calculator.Text.ClusterBreak

namespace Calculator.Text

namespace ClusterBreak

/-- Characters that stand apart from everything but a line feed behind a carriage return. -/
def isControl : ClusterBreak → Bool
  | carriageReturn | lineFeed | control => true
  | _ => false

/-- Marks without a width of their own, other than the joiner. -/
def isExtender : ClusterBreak → Bool
  | extend | linker | nonJoiner => true
  | _ => false

/-- Marks that may stand between the consonants of a conjunct. -/
def isConjunctMark : ClusterBreak → Bool
  | extend | linker | joiner => true
  | _ => false

/-- Whether a picture ends the cluster, with marks behind it at most. -/
def endsInPictograph (cluster : List ClusterBreak) : Bool :=
  (cluster.dropWhile isExtender).head? = some .pictograph

/-- Whether a consonant with a linker behind it ends the cluster, with other marks behind it at
most. -/
def endsInLinkedConsonant (cluster : List ClusterBreak) : Bool :=
  (cluster.takeWhile isConjunctMark).contains .linker &&
    (cluster.dropWhile isConjunctMark).head? = some .consonant

/-- Whether a flag is half read at the end of the cluster. -/
def endsInHalfFlag (cluster : List ClusterBreak) : Bool :=
  (cluster.takeWhile (· = .regional)).length % 2 = 1

/-- Whether a character belongs to the cluster in front of it, which is given with its last
character first. -/
def joins (cluster : List ClusterBreak) (next : ClusterBreak) : Bool :=
  match cluster, next with
  | [], _ => false
  | .carriageReturn :: _, .lineFeed => true
  | last :: before, next =>
    if last.isControl || next.isControl then false
    else match last, next with
      | _, .extend | _, .linker | _, .nonJoiner | _, .joiner | _, .spacing => true
      | .prepended, _ => true
      | .leading, .leading | .leading, .vowel => true
      | .leading, .openSyllable | .leading, .closedSyllable => true
      | .openSyllable, .vowel | .openSyllable, .trailing => true
      | .vowel, .vowel | .vowel, .trailing => true
      | .closedSyllable, .trailing | .trailing, .trailing => true
      | .joiner, .pictograph => endsInPictograph before
      | .regional, .regional => endsInHalfFlag (last :: before)
      | _, .consonant => endsInLinkedConsonant (last :: before)
      | _, _ => false

end ClusterBreak

/-- The clusters of a text that continues a cluster.  The cluster and the parts of its
characters are given with the last one first. -/
def clustersFrom (cluster : List Char) (parts : List ClusterBreak) :
    List Char → List (List Char)
  | [] => [cluster.reverse]
  | c :: rest =>
    if ClusterBreak.joins parts (clusterBreak c) then
      clustersFrom (c :: cluster) (clusterBreak c :: parts) rest
    else cluster.reverse :: clustersFrom [c] [clusterBreak c] rest

/-- The clusters of a text, from left to right. -/
def clusters : List Char → List (List Char)
  | [] => []
  | c :: rest => clustersFrom [c] [clusterBreak c] rest

/-- A text that continues a cluster is cut into pieces that make up both. -/
theorem clustersFrom_flatten (cluster : List Char) (parts : List ClusterBreak)
    (text : List Char) :
    (clustersFrom cluster parts text).flatten = cluster.reverse ++ text := by
  induction text generalizing cluster parts with
  | nil => simp [clustersFrom]
  | cons c rest ih =>
    rw [clustersFrom]
    split
    · rw [ih]; simp
    · rw [List.flatten_cons, ih]; simp

/-- The clusters of a text make it up. -/
@[simp] theorem clusters_flatten (text : List Char) : (clusters text).flatten = text := by
  cases text with
  | nil => rfl
  | cons c rest => simp [clusters, clustersFrom_flatten]

end Calculator.Text
