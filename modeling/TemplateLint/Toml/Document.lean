import TemplateLint.Toml.Scalar
import TemplateLint.Toml.Tree

/-!
# Documents

A document is a list of statements, one on a line: an entry, a header or nothing, each with a comment
behind it or not.  Every statement is read and then added to the tree, so the first flaw in the order
of the document is the one that is reported.
-/
namespace TemplateLint
namespace Toml

/-- What must not fail to be added. -/
def orMalformed {α : Type} : Option α → Except Flaw α
  | some value => .ok value
  | none => .error .malformed

/-- Reads past a comment, if one starts here, up to the end of the line. -/
def skipComment : Text → Except Flaw Text
  | '#' :: rest =>
    if (rest.takeWhile (· != '\n')).any isControl then .error .malformed
    else .ok (rest.dropWhile (· != '\n'))
  | text => .ok text

/-- Reads past spaces, line ends and comments; `limit` bounds the number of comments. -/
def skipFiller : Nat → Text → Except Flaw Text
  | 0, _ => .error .malformed
  | limit + 1, text =>
    match text.dropWhile isSpaceOrLineEnd with
    | '#' :: rest => do skipFiller limit (← skipComment ('#' :: rest))
    | rest => .ok rest

/-- Reads past the filler at the start of a text. -/
def dropFiller (text : Text) : Except Flaw Text := skipFiller (text.length + 1) text

/-- The room that is left behind one more open bracket. -/
def openBracket : Nat → Except Flaw Nat
  | 0 => .error .tooDeep
  | room + 1 => .ok room

mutual

/-- Reads a value; `limit` bounds the steps, and `room` the brackets that are open at once. -/
def readValue : Nat → Nat → Text → Except Flaw (Value × Text)
  | 0, _, _ => .error .malformed
  | limit + 1, room, text =>
    match readQuoted? text with
    | some reading => reading.map fun (content, rest) => (.text content, rest)
    | none =>
      match text with
      | '[' :: rest => do
        let room ← openBracket room
        match ← dropFiller rest with
        | ']' :: rest => pure (.list [], rest)
        | rest =>
          let (values, rest) ← readItems limit room rest
          pure (.list values, rest)
      | '\x7b' :: rest => do
        let room ← openBracket room
        match dropSpaces rest with
        | '\x7d' :: rest => pure (.table [], rest)
        | rest =>
          let (entries, rest) ← readEntries limit room [] rest
          pure (.table (entriesOf entries), rest)
      | text => readPlain text

/-- Reads the values of a list up to its closing bracket. -/
def readItems : Nat → Nat → Text → Except Flaw (List Value × Text)
  | 0, _, _ => .error .malformed
  | limit + 1, room, text => do
    let (value, rest) ← readValue limit room text
    match ← dropFiller rest with
    | ']' :: rest => pure ([value], rest)
    | ',' :: rest =>
      match ← dropFiller rest with
      | ']' :: rest => pure ([value], rest)
      | rest => do
        let (values, rest) ← readItems limit room rest
        pure (value :: values, rest)
    | _ => throw .malformed

/-- Reads the entries of a table within a line up to its closing brace. -/
def readEntries : Nat → Nat → Nodes → Text → Except Flaw (Nodes × Text)
  | 0, _, _, _ => .error .malformed
  | limit + 1, room, nodes, text => do
    let ((first, more), rest) ← readKey text
    let rest ← orMalformed (behind? '=' rest)
    let (value, rest) ← readValue limit room (dropSpaces rest)
    let nodes ← orMalformed (nodes.insert 0 first more value)
    match dropSpaces rest with
    | '\x7d' :: rest => pure (nodes, rest)
    | ',' :: rest => readEntries limit room nodes (dropSpaces rest)
    | _ => throw .malformed

end

/-- A document under way: its tree, the keys of the current header and the number of headers. -/
structure Draft where
  nodes : Nodes
  header : List Text
  sections : Nat

namespace Draft

/-- The document before its first statement. -/
def empty : Draft := ⟨[], [], 0⟩

/-- The document with an entry read from a text. -/
def addEntry (room : Nat) (d : Draft) (text : Text) : Except Flaw (Draft × Text) := do
  let ((first, more), rest) ← readKey text
  let rest ← orMalformed (behind? '=' rest)
  let rest := dropSpaces rest
  let (value, rest) ← readValue (2 * rest.length + 2) room rest
  let nodes ← orMalformed (d.nodes.below (·.insert d.sections first more value) d.header)
  pure ({ d with nodes := nodes }, rest)

/-- The document with a header for a table read from a text. -/
def addTable (d : Draft) (text : Text) : Except Flaw (Draft × Text) := do
  let ((first, more), rest) ← readKey (dropSpaces text)
  let nodes ← orMalformed (d.nodes.declare first more)
  let rest ← orMalformed (behind? ']' rest)
  pure (⟨nodes, first :: more, d.sections + 1⟩, rest)

/-- The document with a header for another table of a list read from a text. -/
def addToTables (d : Draft) (text : Text) : Except Flaw (Draft × Text) := do
  let ((first, more), rest) ← readKey (dropSpaces text)
  let nodes ← orMalformed (d.nodes.append first more)
  let rest ← orMalformed ((behind? ']' rest).bind (behind? ']'))
  pure (⟨nodes, first :: more, d.sections + 1⟩, rest)

/-- A character that starts a key. -/
def startsKey (c : Char) : Bool := isBare c || c == '"' || c == '\''

/-- The document with one statement read from a text. -/
def addStatement (room : Nat) (d : Draft) : Text → Except Flaw (Draft × Text)
  | '[' :: '[' :: rest => d.addToTables rest
  | '[' :: rest => d.addTable rest
  | c :: rest => if startsKey c then d.addEntry room (c :: rest) else .ok (d, c :: rest)
  | [] => .ok (d, [])

/-- The document with the statements of a text; `limit` bounds their number. -/
def addAll (room : Nat) : Nat → Draft → Text → Except Flaw Draft
  | 0, _, _ => .error .malformed
  | limit + 1, d, text => do
    let (d, rest) ← d.addStatement room (dropSpaces text)
    match ← skipComment (dropSpaces rest) with
    | [] => pure d
    | '\n' :: rest => addAll room limit d rest
    | _ => throw .malformed

end Draft

/-- A text in which every pair of carriage return and line feed is a line feed. -/
def joinLineEnds : Text → Text
  | '\r' :: '\n' :: rest => '\n' :: joinLineEnds rest
  | c :: rest => c :: joinLineEnds rest
  | [] => []

/-- The entries of a document; `room` bounds the brackets that are open at once. -/
def read (room : Nat) (text : Text) : Except Flaw (List (Text × Value)) := do
  let text := joinLineEnds text
  let d ← Draft.addAll room (text.length + 1) .empty text
  pure (entriesOf d.nodes)

end Toml

end TemplateLint
