import TemplateLint.Block.Pairing

/-!
# Loops

The loops of a document in the order in which they start, and the nests they form: an outermost loop
with every loop inside it.
-/
namespace TemplateLint

/-- The names of the loops of a dialect. -/
def loopNames : Dialect → List Text
  | .blade => ["foreach", "forelse", "for", "while"]
  | _ => ["collection", "taxonomy", "foreach"]

/-- The loops of a document. -/
def loopsOf (dialect : Dialect) (text : Text) : List Block :=
  (Pairing.ofTokens
    ((BlockToken.scan dialect text).filter fun t => t.name ∈ loopNames dialect)).blocks

/-- An outermost loop with the loops inside it. -/
structure LoopNest where
  outer : Block
  inner : List Block
  /-- The deepest level, two for a loop inside a loop. -/
  depth : Nat
deriving DecidableEq

namespace LoopNest

/-- The number of loops around a loop. -/
def around (loops : List Block) (b : Block) : Nat := loops.countP (·.contains b)

/-- The nest of a loop, unless it lies inside another loop or has none inside. -/
def ofLoop? (loops : List Block) (outer : Block) : Option LoopNest :=
  if loops.any (·.contains outer) then none
  else
    match loops.filter (outer.contains ·) with
    | [] => none
    | inner => some ⟨outer, inner, 1 + (inner.map (around loops)).foldl max 0⟩

/-- The nests of some loops. -/
def ofLoops (loops : List Block) : List LoopNest := loops.filterMap (ofLoop? loops)

end LoopNest

/-- The pieces of a text from `cursor` up to `stop` that lie in none of some loops. -/
def cutLoops (text : Text) (stop : Nat) : Nat → List Block → Text
  | cursor, [] => Text.slice text cursor stop
  | cursor, b :: more =>
    if b.start < cursor then cutLoops text stop cursor more
    else Text.slice text cursor b.start ++ cutLoops text stop b.stop more

/-- The body of a loop without the loops of the given names inside it. -/
def directBody (text : Text) (loops : List Block) (names : List Text) (b : Block) : Text :=
  cutLoops text b.closer.start b.opener.stop
    (loops.filter fun inner => b.contains inner && decide (inner.name ∈ names))

end TemplateLint
