import TemplateLint.Analysis.Context
import TemplateLint.Number.Reading
import TemplateLint.Rule.Structure

/-!
# Loop detectors

Loops that load a relationship once per item, queries inside loops, nested loops, and loops over many
items without pagination.
-/
namespace TemplateLint
namespace LoopDetectors

open Pattern

/-- The loops whose items may have relationships. -/
def itemLoops : Dialect → List Text
  | .blade => ["foreach", "forelse"]
  | .antlers => ["collection", "taxonomy"]
  | .unknown => []

/-- The use of a relationship. -/
def relationshipPattern (dialect : Dialect) (names : List Text) : Pattern :=
  let name := group 1 (oneOf (names.map lit))
  if dialect = .blade then chain [lit "$", many 1 isWord, lit "->", name, edge]
  else
    chain
      [Dialect.tagStart, name, oneOf [one (among ".:"), seq blanks (lit closeBraces)]]

/-- The spellings of some names. -/
def spellings : List Value → Except Fault (List Text)
  | [] => .ok []
  | .text name :: rest => (spellings rest).map (name :: ·)
  | v :: _ => .error (.notSpelled v.kind)

/-- The opener holds one of some markers. -/
def hasMarker (opener : Text) : List Value → Except Fault Bool
  | [] => .ok false
  | .text marker :: rest =>
    if Text.contains opener marker then .ok true else hasMarker opener rest
  | v :: _ => .error (.notSearchable v.kind)

/-- The advice on a relationship. -/
def eagerAdvice (dialect : Dialect) : Text :=
  if dialect = .antlers then "Use eager loading with the with=\"...\" parameter"
  else "Eager load the relationship in the controller with ->with()"

/-- The finding about a loop in which a relationship is used. -/
def relationshipFinding (ctx : AnalysisContext) (b : Block) (name : Text) : Finding :=
  ctx.finding "n_plus_one" .performance .critical b.start
    ("Potential N+1 query detected in loop: '" ++ name ++ "' is loaded once per item")
    (some (Text.shorten 100 (Text.slice ctx.text b.start b.stop)))
    (some (eagerAdvice ctx.dialect))
    [("relationship", .text name)]

/-- The finding about a loop, if one of the named relationships is used in what only this loop
repeats. -/
def relationshipIn (ctx : AnalysisContext) (names : List Text) (b : Block) :
    Except Fault (List Finding) := do
  if b.name ∉ itemLoops ctx.dialect then pure []
  else if ← hasMarker b.opener.text ctx.heuristics.eagerLoadMarkers then pure []
  else
    let body := directBody ctx.text ctx.loops (itemLoops ctx.dialect) b
    match (relationshipPattern ctx.dialect names).find? body with
    | none => pure []
    | some m => pure [relationshipFinding ctx b (m.group 1)]

/-- Loops that load a relationship once per item.  The names of the relationships are spelled out even
if there is no loop. -/
def relationships (ctx : AnalysisContext) : Except Fault (List Finding) := do
  if itemLoops ctx.dialect = [] then pure []
  else
    let names ← spellings ctx.heuristics.relationshipNames
    gather (relationshipIn ctx names) ctx.loops

/-- A query in a directive template. -/
def bladeQuery : Pattern :=
  chain
    [edge,
      oneOf
        [lit "Entry", lit "Collection", lit "User", lit "Asset", lit "Term", lit "Taxonomy"],
      lit "::", oneOf [lit "query", lit "all", lit "find", lit "where"], many 0 isWord, blanks,
      lit "("]

/-- A query in a tag template. -/
def antlersQuery : Pattern :=
  chain
    [Dialect.tagStart,
      oneOf [lit "collection", lit "entries", lit "taxonomy", lit "assets", lit "users"], lit ":"]

/-- The query of a dialect. -/
def query? : Dialect → Option Pattern
  | .blade => some bladeQuery
  | .antlers => some antlersQuery
  | .unknown => none

/-- An offset lies in the body of a loop. -/
def inSomeBody (loops : List Block) (offset : Nat) : Bool :=
  loops.any fun b => b.opener.stop ≤ offset && offset < b.closer.start

/-- Queries inside loops; each counts once, whatever the number of loops around it. -/
def queries (ctx : AnalysisContext) : List Finding :=
  match query? ctx.dialect with
  | none => []
  | some pattern =>
    ((pattern.findAll ctx.text).filter fun m => inSomeBody ctx.loops m.start).map fun m =>
      ctx.finding "query_in_loop" .performance .critical m.start
        "Database query inside loop detected" (some (Text.shorten 100 m.text))
        (some "Move the query outside the loop or use eager loading") []

/-- Nests of loops. -/
def nests (ctx : AnalysisContext) : List Finding :=
  (StructureRules.nestedLoops ctx.dialect ctx.text).map fun f => { f with template := some ctx.path }

/-- A cap on the items of a loop in a directive template. -/
def bladeCap : Pattern :=
  chain
    [lit "->", oneOf [lit "take", lit "limit"], lit "(", blanks, group 1 (many 1 isDecimal), blanks,
      lit ")"]

/-- A cap on the items of a loop in a tag template. -/
def antlersCap : Pattern :=
  chain
    [edge, lit "limit=", one (among "\"'"), group 1 (many 1 isDecimal), one (among "\"'")]

/-- The cap on the items of a loop, read from its opener. -/
def itemCap (dialect : Dialect) (opener : Text) : Except Fault (Option Nat) :=
  match (if dialect = .blade then bladeCap else antlersCap).find? opener with
  | none => .ok none
  | some m => (readDigits (m.group 1)).map some

/-- The sign of pagination. -/
def pagination : Pattern := oneOf [caselessLit "paginate", caselessLit "->links("]

/-- The finding about a loop with a cap. -/
def cappedFinding (ctx : AnalysisContext) (b : Block) (cap : Nat) : Finding :=
  ctx.finding "unpaginated_loop" .performance .warning b.start
    ("Loop renders up to " ++ Text.ofNat cap ++ " items without pagination")
    (some (Text.shorten 100 b.opener.text))
    (some "Add pagination (paginate=\"10\") to reduce the items rendered per page")
    [("limit", .count cap)]

/-- The finding about a loop, if its cap exceeds the threshold and nothing in it paginates. -/
def unpaginatedIn (ctx : AnalysisContext) (b : Block) : Except Fault (List Finding) := do
  match ← itemCap ctx.dialect b.opener.text with
  | none => pure []
  | some cap =>
    if ← exceeds cap ctx.heuristics.paginationThreshold then
      if pagination.occursIn (Text.slice ctx.text b.start b.stop) then pure []
      else pure [cappedFinding ctx b cap]
    else pure []

/-- Loops over many items without pagination. -/
def unpaginated (ctx : AnalysisContext) : Except Fault (List Finding) :=
  gather (unpaginatedIn ctx) ctx.loops

end LoopDetectors

end TemplateLint
