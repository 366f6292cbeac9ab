import TemplateLint.Antlers.Tag
import TemplateLint.Block.Arguments
import TemplateLint.Text.Position

/-!
# Block tokens

Both dialects come down to a stream of tokens that open or close a construct of some name.
-/
namespace TemplateLint

open Pattern

/-- The opener or the closer of a construct. -/
structure BlockToken where
  name : Text
  isCloser : Bool
  start : Nat
  /-- The offset behind the token, an argument list included. -/
  stop : Nat
  position : Position
  /-- The token as written. -/
  text : Text
deriving DecidableEq

namespace BlockToken

/-- The directives that open a block. -/
def directives : List Text :=
  ["if", "unless", "foreach", "forelse", "for", "while", "switch", "section", "push", "component"]

/-- A directive that opens or closes a block. -/
def directivePattern : Pattern :=
  chain
    [notAfter (fun c => c == '@' || isWord c), lit "@", maybe (group 1 (lit "end")),
      group 2 (oneOf (directives.map lit)), edge]

/-- An argument list whose first argument is quoted and followed by another. -/
def inlinePattern : Pattern :=
  chain
    [blanks, lit "(", blanks, group 1 (one (among "'\"")), many 0 (except "'\""), same 1 id, blanks,
      lit ","]

/-- The directive closes itself: a section or a push with a second argument. -/
def isInline (name : Text) (text : Text) (offset : Nat) : Bool :=
  decide (name ∈ (["section", "push"] : List Text)) &&
    (inlinePattern.matchAt? (Spot.ofOffset text offset)).isSome

/-- The token of a directive, unless the directive closes itself. -/
def ofDirective? (text : Text) (m : Match) : Option BlockToken :=
  let name := m.group 2
  let isCloser := (m.groups.lookup 1).isSome
  if !isCloser && isInline name text m.stop then none
  else
    let stop := if isCloser then m.stop else Arguments.stop text m.stop
    some
      { name := name
        isCloser := isCloser
        start := m.start
        stop := stop
        position := Position.ofOffset text m.start
        text := Text.slice text m.start stop }

/-- The tokens of a directive template. -/
def ofBlade (text : Text) : List BlockToken :=
  (directivePattern.findAll text).filterMap (ofDirective? text)

/-- The tags that always open a block. -/
def blockTags : List Text := ["collection", "taxonomy", "nav", "if", "unless", "foreach"]

/-- The name a tag pairs under: the namespace of a block tag, else the whole head. -/
def pairName (t : Tag) : Text :=
  match t.space with
  | some space => if space ∈ blockTags then space else t.head
  | none => t.head

/-- The role of a tag among the names that are closed somewhere in the document: the name it pairs
under and whether it closes; none if it takes no part. -/
def role? (closed : List Text) (t : Tag) : Option (Text × Bool) :=
  if t.selfClosing then none
  else if t.isClosing then some (pairName t, true)
  else if t.head = String.toList "endif" ∨ t.head = String.toList "endunless" then
    some (t.head.drop 3, true)
  else if t.space.any (· ∈ blockTags) then
    if t.method = some (String.toList "count") then none else some (pairName t, false)
  else if t.space = none ∧ t.head ∈ blockTags then some (pairName t, false)
  else if t.isAssignment then none
  else if pairName t ∈ closed then some (pairName t, false)
  else
    match t.space with
    | some space => if space ∈ closed then some (space, false) else none
    | none => none

/-- The token of a tag, unless it takes no part. -/
def ofTag? (text : Text) (closed : List Text) (t : Tag) : Option BlockToken :=
  (role? closed t).map fun role =>
    { name := role.1
      isCloser := role.2
      start := t.start
      stop := t.stop
      position := Position.ofOffset text t.start
      text := t.raw }

/-- The names that some tags close. -/
def closedNames (tags : List Tag) : List Text :=
  (tags.filter (·.isClosing)).map pairName

/-- The tokens of a tag template. -/
def ofAntlers (text : Text) : List BlockToken :=
  let tags := Tag.scan text
  tags.filterMap (ofTag? text (closedNames tags))

/-- The tokens of a template; an unknown dialect has none. -/
def scan (dialect : Dialect) (text : Text) : List BlockToken :=
  match dialect with
  | .blade => ofBlade text
  | .antlers => ofAntlers text
  | .unknown => []

end BlockToken

end TemplateLint
