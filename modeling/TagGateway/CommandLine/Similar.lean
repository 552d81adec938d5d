/-!
# Similar words

What was meant by a word that is not known: the known words that have most of their characters in
common with it, in runs that stand in the same order.

* `common` counts the characters in common, `alike` is the least share of them that is worth a
  mention.
* `similar` is the choice of known words.
-/

namespace TagGateway.CommandLine

/-- How many characters two texts have in common at their start. -/
def sharedStart : List Char → List Char → Nat
  | a :: as, b :: bs => if a == b then sharedStart as bs + 1 else 0
  | _, _ => 0

/-- A run of characters that two texts share: where it begins in either, and its length. -/
structure SharedRun where
  left : Nat
  right : Nat
  length : Nat
deriving DecidableEq, Repr

/-- All pairs of places in two texts, with the run that begins there. -/
def sharedRuns (as bs : List Char) : List SharedRun :=
  (List.range as.length).flatMap fun i =>
    (List.range bs.length).map fun j => ⟨i, j, sharedStart (as.drop i) (bs.drop j)⟩

/-- The longest run that two texts share; of several the first. -/
def longestRun (as bs : List Char) : SharedRun :=
  (sharedRuns as bs).foldl (fun best r => if best.length < r.length then r else best) ⟨0, 0, 0⟩

/-- How many characters two texts have in common: those of the longest run that they share, and
those in common before and after it. Every round takes a character of the first text, so that a
round for each is enough. -/
def commonIn : Nat → List Char → List Char → Nat
  | 0, _, _ => 0
  | rounds + 1, as, bs =>
    let r := longestRun as bs
    if r.length = 0 then 0
    else
      r.length + commonIn rounds (as.take r.left) (bs.take r.right) +
        commonIn rounds (as.drop (r.left + r.length)) (bs.drop (r.right + r.length))

/-- How many characters two texts have in common. -/
def common (a b : String) : Nat := commonIn a.length a.toList b.toList

/-- Two texts that have three in five characters in common, for which the shorter one has to be
long enough. -/
def alike (a b : String) : Bool :=
  let enough := 3 * (a.length + b.length)
  enough ≤ 10 * min a.length b.length && enough ≤ 10 * common a b

/-- Whether the first of two known words is nearer to a word: by the share of characters in
common, and of two with the same share the later one in the alphabet. -/
def nearer (word a b : String) : Bool :=
  let left := common a word * (b.length + word.length)
  let right := common b word * (a.length + word.length)
  right < left || (left == right && b ≤ a)

/-- The known words that may have been meant by a word, three at most, in alphabetical order. -/
def similar (known : List String) (word : String) : List String :=
  (((known.filter (alike · word)).mergeSort (nearer word)).take 3).mergeSort (· ≤ ·)

end TagGateway.CommandLine
