import TemplateLint.Block.Loop
import TemplateLint.Rule.Context

/-!
# Structure rules

Rules about the shape of a document: blocks that are not closed or not opened, tags without an end,
names of components, and loops that nest or read many properties.
-/
namespace TemplateLint
namespace StructureRules

open Pattern

/-- A tag with the given text between its braces. -/
def braced (inner : Text) : Text := "\x7b\x7b " ++ inner ++ " \x7d\x7d"

/-- The opener of a construct as a message shows it. -/
def openerText (dialect : Dialect) (name : Text) : Text :=
  if dialect = .blade then "@" ++ name else braced name

/-- The closer of a construct as a message shows it. -/
def closerText (dialect : Dialect) (name : Text) : Text :=
  if dialect = .blade then "@end" ++ name else braced ("/" ++ name)

/-- The error about one end of a construct. -/
def balanceError (rule : Text) (token : BlockToken) (message evidence : Text) : Finding where
  rule := rule
  category := .maintainability
  severity := .error
  line := token.position.line
  message := message
  column := some token.position.column
  evidence := some evidence

/-- The error about a closer without an opener. -/
def unmatchedError (dialect : Dialect) (token : BlockToken) : Finding :=
  balanceError "unmatched_directive" token
    (token.text.strip ++ " has no matching " ++ openerText dialect token.name) token.text

/-- The error about an opener that is never closed. -/
def unclosedError (dialect : Dialect) (token : BlockToken) : Finding :=
  balanceError "unclosed_directive" token
    (openerText dialect token.name ++ " is never closed with " ++ closerText dialect token.name)
    (token.text.take 100)

/-- The pairing of all block tokens of a document. -/
def pairingOf (ctx : RuleContext) : Pairing :=
  Pairing.ofTokens (BlockToken.scan ctx.dialect ctx.text)

/-- Every opener needs a closer of its name, and every closer an opener. -/
def blockBalance (ctx : RuleContext) : List Finding :=
  (pairingOf ctx).unmatched.map (unmatchedError ctx.dialect) ++
    (pairingOf ctx).unclosed.map (unclosedError ctx.dialect)

/-- The braces that open a tag or a comment. -/
def tagOpenPattern : Pattern :=
  chain [notAfter (· == '@'), lit openBraces, notAhead (one (· == '\x7b'))]

/-- The openings that the next opening, or the end, follows without closing braces between.  Each
opening comes with the offset of the next one. -/
def unterminated (text : Text) : List Nat → List Nat
  | [] => []
  | start :: rest =>
    let limit := rest.headD text.length
    if Text.contains (Text.slice text (start + 2) limit) closeBraces then unterminated text rest
    else start :: unterminated text rest

/-- An opening whose closing braces do not come before the next opening. -/
def unterminatedTag (ctx : RuleContext) : List Finding :=
  let openings := (tagOpenPattern.findAll ctx.text).map (·.start)
  (unterminated ctx.text openings).map fun start =>
    ctx.findingAt "unterminated_tag" .maintainability .error start
      "Unclosed Antlers tag: '\x7b\x7b' without a matching '\x7d\x7d'"
      ((Text.slice ctx.text start (start + 40)).takeWhile (· != '\n')) none

/-- A character of a component name. -/
def isComponentChar (c : Char) : Bool := c.isAlphanum || among "-_." c

/-- The tag of a component. -/
def componentPattern : Pattern := seq (lit "<x-") (group 1 (many 1 isComponentChar))

/-- A name in small letters, with digits, dashes and dots behind the first letter. -/
def isKebab : Text → Bool
  | [] => false
  | c :: rest => c.isLower && rest.all fun d => d.isLower || d.isDigit || among "-." d

/-- Names of components are written in small letters. -/
def componentNaming (ctx : RuleContext) : List Finding :=
  ((componentPattern.findAll ctx.text).filter fun m => !isKebab (m.group 1)).map fun m =>
    ctx.findingAt "component_naming" .maintainability .warning m.start
      ("Component name 'x-" ++ m.group 1 ++ "' should use kebab-case") m.text none

/-- The finding about a nest of loops. -/
def nestFinding (nest : LoopNest) : Finding where
  rule := "nested_loops"
  category := .performance
  severity := .warning
  line := nest.outer.line
  message :=
    "Nested loops detected (" ++ Text.ofNat nest.inner.length ++ " inside this loop, depth " ++
      Text.ofNat nest.depth ++ "). Consider flattening the data or moving the grouping into the " ++
      "controller."
  column := some nest.outer.opener.position.column
  evidence := some (nest.outer.opener.text.take 100)
  suggestion := some "Consider optimizing with collection methods or eager loading"
  details := [("nested_count", .count nest.inner.length), ("nesting_depth", .count nest.depth)]

/-- One finding for every outermost loop that has loops inside. -/
def nestedLoops (dialect : Dialect) (text : Text) : List Finding :=
  (LoopNest.ofLoops (loopsOf dialect text)).map nestFinding

/-- An access to a property of a variable. -/
def propertyAccess : Pattern := chain [lit "$", many 1 isWord, lit "->"]

/-- The finding about a loop that accesses many properties. -/
def accessFinding (b : Block) (accesses : Nat) : Finding where
  rule := "n_plus_one"
  category := .performance
  severity := .warning
  line := b.line
  message :=
    "Potential N+1 query: " ++ Text.ofNat accesses ++ " property accesses inside a loop"
  evidence := some (b.opener.text.take 100)
  suggestion := some "Use eager loading in the controller"
  details := [("property_accesses", .count accesses)]

/-- The loops over items. -/
def itemLoops (ctx : RuleContext) : List Block :=
  (loopsOf ctx.dialect ctx.text).filter fun b => b.name = String.toList "foreach"

/-- The number of properties that a loop accesses. -/
def accessesIn (ctx : RuleContext) (b : Block) : Nat := propertyAccess.countIn (b.body ctx.text)

/-- Loops over items that access more properties than the threshold. -/
def loopPropertyAccess (ctx : RuleContext) : List Finding :=
  (itemLoops ctx).filterMap fun b =>
    let accesses := accessesIn ctx b
    match ctx.heuristics.propertyAccessThreshold.isExceededBy (.int accesses) with
    | .ok true => some (accessFinding b accesses)
    | _ => none

/-- The fault that there is a loop but the threshold is no number. -/
def thresholdFault? (ctx : RuleContext) : Option Fault :=
  if ctx.heuristics.propertyAccessThreshold.isNumber then none
  else
    (itemLoops ctx).head?.map fun b =>
      Value.unordered "<=" (.int (accessesIn ctx b)) ctx.heuristics.propertyAccessThreshold

end StructureRules

end TemplateLint
