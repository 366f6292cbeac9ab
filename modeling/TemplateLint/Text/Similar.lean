import TemplateLint.Value

/-!
# Similar words

The likeness of two words is twice the number of characters they share, over the sum of their
lengths.  Shared characters are counted in the longest common stretch and, in turn, in what lies left
and right of it.  In a long reference word a character that makes up more than a hundredth of it does
not start a stretch, but a stretch may grow over it.  A candidate that is no text is never alike, and
most of them are faults.
-/
namespace TemplateLint
namespace Likeness

/-- A stretch that two words have in common. -/
structure Stretch where
  first : Nat
  second : Nat
  size : Nat

/-- The characters of a reference word that are too frequent to start a stretch. -/
def frequent (reference : Text) (c : Char) : Bool :=
  200 ≤ reference.length && reference.length / 100 + 1 < reference.count c

/-- For every place of the reference, the length of the common stretch that ends there and at the
given character, from the lengths for the character before it. -/
def nextRow (skip : Char → Bool) (c : Char) (reference : Text) (row : List Nat) : List Nat :=
  if skip c then reference.map fun _ => 0
  else List.zipWith (fun d size => if c = d then size + 1 else 0) reference (0 :: row)

/-- The longer of the best stretch and those that end in a row; the best one wins a tie. -/
def bestInRow (index : Nat) : Nat → List Nat → Stretch → Stretch
  | _, [], best => best
  | at_, size :: row, best =>
    bestInRow index (at_ + 1) row
      (if best.size < size then ⟨index + 1 - size, at_ + 1 - size, size⟩ else best)

/-- The first of the longest common stretches. -/
def longestFrom (skip : Char → Bool) (reference : Text) :
    Nat → Text → List Nat → Stretch → Stretch
  | _, [], _, best => best
  | index, c :: word, row, best =>
    let row := nextRow skip c reference row
    longestFrom skip reference (index + 1) word row (bestInRow index 0 row best)

/-- The number of equal characters at the start of two words. -/
def commonStart : Text → Text → Nat
  | a :: s, b :: t => if a = b then commonStart s t + 1 else 0
  | _, _ => 0

/-- A stretch grown to the left and to the right as far as the words agree. -/
def grow (word reference : Text) (s : Stretch) : Stretch :=
  let left := commonStart (word.take s.first).reverse (reference.take s.second).reverse
  let right := commonStart (word.drop (s.first + s.size)) (reference.drop (s.second + s.size))
  ⟨s.first - left, s.second - left, left + s.size + right⟩

/-- The first of the longest common stretches, grown. -/
def longest (skip : Char → Bool) (word reference : Text) : Stretch :=
  grow word reference
    (longestFrom skip reference 0 word (reference.map fun _ => 0) ⟨0, 0, 0⟩)

/-- The number of shared characters; each step works on shorter words, so the length of the word is
enough fuel. -/
def sharedWithin (skip : Char → Bool) : Nat → Text → Text → Nat
  | 0, _, _ => 0
  | fuel + 1, word, reference =>
    let s := longest skip word reference
    if s.size = 0 then 0
    else
      sharedWithin skip fuel (word.take s.first) (reference.take s.second) + s.size +
        sharedWithin skip fuel (word.drop (s.first + s.size)) (reference.drop (s.second + s.size))

/-- The number of characters that a word shares with a reference word. -/
def shared (word reference : Text) : Nat :=
  sharedWithin (frequent reference) (word.length + 1) word reference

/-- A candidate with its likeness as a quotient. -/
structure Candidate where
  word : Text
  shared : Nat
  total : Nat

/-- A word seen as a candidate for a reference word. -/
def candidate (reference word : Text) : Candidate :=
  ⟨word, 2 * shared word reference, word.length + reference.length⟩

namespace Candidate

/-- The likeness is at least three fifths; two empty words are alike. -/
def isClose (c : Candidate) : Bool :=
  c.total == 0 || 3 * c.total ≤ 5 * c.shared

/-- The likeness as a quotient with a positive denominator. -/
def quotient (c : Candidate) : Nat × Nat :=
  if c.total = 0 then (1, 1) else (c.shared, c.total)

/-- A candidate comes before another if it is more alike, or as alike and later in the order of
words. -/
def before (c d : Candidate) : Bool :=
  let (a, m) := c.quotient
  let (b, n) := d.quotient
  if a * n = b * m then Text.le d.word c.word else b * m < a * n

end Candidate

/-- Two lengths are near enough for a likeness of at least three fifths. -/
def lengthsNear (m n : Nat) : Bool := 3 * (m + n) ≤ 10 * min m n

/-- The fault of a value that stands among the candidates for a reference word.  What is no text must
have a length, and if the length is near that of the word, its entries must be keys. -/
def candidateFault? (reference : Text) : Value → Option Fault
  | .text _ | .table _ => none
  | .list values =>
    if lengthsNear values.length reference.length then values.findSome? Value.keyFault? else none
  | v => some (.noLength v.kind)

end Likeness

open Likeness in
/-- The words closest to a reference word, the most alike first, at most `limit` of them. -/
def closeWords (limit : Nat) (reference : Text) (words : List Text) : List Text :=
  (((words.map (candidate reference)).filter Candidate.isClose).mergeSort Candidate.before
    |>.take limit).map (·.word)

end TemplateLint
