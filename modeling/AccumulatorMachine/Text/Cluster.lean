import AccumulatorMachine.Text.Blank
import AccumulatorMachine.Text.ClusterBreak

/-!
# Clusters

A text falls into clusters, the extended grapheme clusters of Unicode: each is
what a reader takes for one character.  Whether two neighbours belong together is
decided by their classes, and for conjuncts, pictographs and flags by what stands
before them.
-/

namespace AccumulatorMachine
namespace Text

/-- A sign that links a consonant to the next. -/
def isLinker (c : Char) : Bool :=
  linkerCodePoints.contains c

/-- The zero-width non-joiner, which keeps consonants apart. -/
def nonJoiner : Char := '\u200c'

/-- A sign that may stand between the consonants of a conjunct. -/
def isConjunctSign (c : Char) : Bool :=
  c != nonJoiner &&
    (ClusterBreak.ofChar c == .extending || ClusterBreak.ofChar c == .joiner)

/-- Whether a text, given backwards, ends with a consonant and signs of which at
least one links it to what follows. -/
def endsLinked (before : Text) : Bool :=
  (before.takeWhile isConjunctSign).any isLinker &&
    ((before.dropWhile isConjunctSign).head?.map ClusterBreak.ofChar) == some .consonant

/-- Whether a text, given backwards, ends with a pictograph, its marks and a
joiner. -/
def endsJoined : Text → Bool
  | [] => false
  | last :: before =>
      ClusterBreak.ofChar last == .joiner &&
        (before.dropWhile fun c => ClusterBreak.ofChar c == .extending).head?.map
          ClusterBreak.ofChar == some .pictographic

/-- Whether a text, given backwards, ends with the first half of a flag. -/
def endsHalved (before : Text) : Bool :=
  (before.takeWhile regionalCodePoints.contains).length % 2 == 1

/-- Whether a character belongs to the cluster that the text before it, given
backwards, ends with. -/
def continuesCluster (before : Text) (next : Char) : Bool :=
  match before with
  | [] => false
  | last :: _ =>
      (ClusterBreak.ofChar last).joins (ClusterBreak.ofChar next) ||
        match ClusterBreak.ofChar next with
        | .consonant => endsLinked before
        | .pictographic => endsJoined before
        | .regional => endsHalved before
        | _ => false

/-- The clusters from some place on, given backwards the text before that place
and the cluster it ends with. -/
def clustersFrom (before cluster : Text) : Text → List Text
  | [] => [cluster.reverse]
  | c :: rest =>
      if continuesCluster before c then
        clustersFrom (c :: before) (c :: cluster) rest
      else
        cluster.reverse :: clustersFrom (c :: before) [c] rest

/-- The clusters of a text. -/
def clusters : Text → List Text
  | [] => []
  | c :: rest => clustersFrom [c] [c] rest

end Text
end AccumulatorMachine
