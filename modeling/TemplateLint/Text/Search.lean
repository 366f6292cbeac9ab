import TemplateLint.Text.Pattern

/-!
# Searching

The first place at which a pattern can be read, and all places from left to right, each search going
on behind the previous match.
-/
namespace TemplateLint

/-- A stretch of text that a pattern has read. -/
structure Match where
  start : Nat
  stop : Nat
  text : Text
  groups : List (Nat × Text)
deriving DecidableEq

namespace Match

/-- What a group has read; nothing if it took no part. -/
def group (m : Match) (index : Nat) : Text := (m.groups.lookup index).getD []

end Match

namespace Pattern

/-- The match of a pattern at a place. -/
def matchAt? (pattern : Pattern) (spot : Spot) : Option Match :=
  pattern.run ⟨spot, []⟩ fun p =>
    some
      { start := spot.passed
        stop := p.spot.passed
        text := spot.rest.take (p.spot.passed - spot.passed)
        groups := p.groups.map fun c => (c.index, c.text) }

/-- The first match at or behind a place. -/
def firstFrom? (pattern : Pattern) : Nat → Option Char → Text → Option Match
  | passed, last, [] => pattern.matchAt? ⟨passed, last, []⟩
  | passed, last, c :: rest =>
    match pattern.matchAt? ⟨passed, last, c :: rest⟩ with
    | some m => some m
    | none => firstFrom? pattern (passed + 1) (some c) rest

/-- The matches at or behind a place, none of them starting before `resume`. -/
def allFrom (pattern : Pattern) (resume : Nat) : Nat → Option Char → Text → List Match
  | passed, last, [] =>
    if resume ≤ passed then (pattern.matchAt? ⟨passed, last, []⟩).toList else []
  | passed, last, c :: rest =>
    match if resume ≤ passed then pattern.matchAt? ⟨passed, last, c :: rest⟩ else none with
    | some m => m :: allFrom pattern (max m.stop (passed + 1)) (passed + 1) (some c) rest
    | none => allFrom pattern resume (passed + 1) (some c) rest

/-- The first match in a text. -/
def find? (pattern : Pattern) (text : Text) : Option Match :=
  pattern.firstFrom? 0 none text

/-- The matches in a text from left to right, each starting where the previous one has ended or
later. -/
def findAll (pattern : Pattern) (text : Text) : List Match :=
  pattern.allFrom 0 0 none text

/-- The pattern can be read somewhere in the text. -/
def occursIn (pattern : Pattern) (text : Text) : Bool :=
  (pattern.find? text).isSome

/-- A text from an offset on with the given matches replaced. -/
def replaceFrom (replacement : Match → Text) : Nat → List Match → Text → Text
  | _, [], text => text
  | offset, m :: more, text =>
    text.take (m.start - offset) ++ replacement m ++
      replaceFrom replacement m.stop more (text.drop (m.stop - offset))

/-- A text with every match replaced. -/
def replaceAll (pattern : Pattern) (replacement : Match → Text) (text : Text) : Text :=
  replaceFrom replacement 0 (pattern.findAll text) text

/-- The number of matches in a text. -/
def countIn (pattern : Pattern) (text : Text) : Nat :=
  (pattern.findAll text).length

end Pattern

end TemplateLint
