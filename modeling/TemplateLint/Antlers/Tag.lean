import TemplateLint.Dialect
import TemplateLint.Entries

/-!
# Tags

A tag stands between double braces.  It starts where the braces are not escaped by an at-sign, do not
follow or precede another brace and do not open a comment, and it ends at the first closing braces.
The text between is cut into a head, parameters and modifiers.
-/
namespace TemplateLint

open Pattern

/-- A tag of the tag dialect. -/
structure Tag where
  /-- The tag as written. -/
  raw : Text
  /-- The text between the braces, without blanks around it. -/
  inner : Text
  start : Nat
  stop : Nat
  /-- The first word, without a leading slash. -/
  head : Text
  /-- What follows the head, up to the modifiers. -/
  rest : Text
  isClosing : Bool
  /-- The part of the head before its first colon. -/
  space : Option Text
  /-- The part of the head behind its first colon. -/
  method : Option Text
  params : Entries Text
  modifiers : List Text
  selfClosing : Bool
deriving DecidableEq

namespace Tag

/-- The words that control the flow of a template. -/
def controlWords : List Text :=
  ["if", "unless", "elseif", "else", "endif", "endunless", "foreach"]

/-- The name that pairs a tag with its closing tag. -/
def blockName (t : Tag) : Text :=
  match t.space with
  | some space => if space.isEmpty then t.head else space
  | none => t.head

/-- The tag assigns a value to its head: a single equals sign follows. -/
def isAssignment (t : Tag) : Bool :=
  match t.rest with
  | '=' :: '=' :: _ => false
  | '=' :: _ => true
  | _ => false

/-- A tag that is neither closing nor empty. -/
def isOpening (t : Tag) : Bool := !t.isClosing && !t.head.isEmpty

/-- The pieces between single pipes; a pipe next to another one does not separate. -/
def splitPipes : Option Char → Text → List Text
  | _, [] => [[]]
  | last, c :: rest =>
    if c = '|' ∧ last ≠ some '|' ∧ rest.head? ≠ some '|' then [] :: splitPipes (some c) rest
    else
      match splitPipes (some c) rest with
      | [] => [[c]]
      | piece :: pieces => (c :: piece) :: pieces

/-- The name of a modifier: what comes before a blank, a colon or a parenthesis. -/
def modifierName (piece : Text) : Text :=
  piece.strip.takeWhile fun c => !isBlank c && c != ':' && c != '('

/-- A character of a parameter name. -/
def isParamChar (c : Char) : Bool := isWord c || c == ':' || c == '-'

/-- A parameter: a name, an equals sign and a value in quotes or without. -/
def paramPattern : Pattern :=
  chain
    [group 1 (many 1 isParamChar), blanks, lit "=", blanks,
      oneOf
        [chain [lit "\"", group 2 (many 0 (except "\"")), lit "\""],
          chain [lit "'", group 2 (many 0 (except "'")), lit "'"],
          group 2 (many 1 fun c => !isBlank c && except "\"'|" c)]]

/-- The parameters in a text; of two with one name the later value counts. -/
def readParams (text : Text) : Entries Text :=
  (paramPattern.findAll text).foldl (fun params m => params.put (m.group 1) (m.group 2)) []

/-- The namespace and the method of a head: its parts around the first colon, unless it starts with
one. -/
def splitHead (head : Text) : Option Text × Option Text :=
  if head.head? = some ':' then (none, none)
  else
    match Text.cutAt ':' head with
    | (_, none) => (none, none)
    | (space, some method) => (some space, some method)

/-- The tag that is written `raw`, with the given text between its braces. -/
def parse (inner : Text) (start : Nat) (raw : Text) : Tag :=
  let content := inner.strip
  let selfClosing := content.getLast? == some '/' && content.head? != some '/'
  let content := if selfClosing then Text.stripRight content.dropLast else content
  let isClosing := content.head? == some '/'
  let content := if isClosing then Text.stripLeft (content.drop 1) else content
  let pieces := splitPipes none content
  let word := Text.strip (pieces.headD [])
  let (head, rest) := Text.cutAt ' ' word
  let rest := rest.getD []
  let (space, method) := splitHead head
  { raw := raw
    inner := inner.strip
    start := start
    stop := start + raw.length
    head := head
    rest := rest.strip
    isClosing := isClosing
    space := space
    method := method
    params := readParams rest
    modifiers := ((pieces.drop 1).map modifierName).filter (!·.isEmpty)
    selfClosing := selfClosing }

/-- A tag as it stands in a text. -/
def pattern : Pattern :=
  chain
    [notAfter (· == '@'), notAfter (· == '\x7b'), lit openBraces, notAhead (one (· == '\x7b')),
      notAhead (one (· == '#')), group 1 (upTo closeBraces id), lit closeBraces]

/-- The tags of a text from left to right. -/
def scan (text : Text) : List Tag :=
  (pattern.findAll text).map fun m => parse (m.group 1) m.start m.text

/-- Output between triple braces. -/
def rawOutputPattern : Pattern :=
  chain
    [lit "\x7b\x7b\x7b", group 1 (upTo "\x7d\x7d\x7d" id), lit "\x7d\x7d\x7d"]

/-- The outputs between triple braces. -/
def scanRawOutput (text : Text) : List Match := rawOutputPattern.findAll text

end Tag

end TemplateLint
