import TemplateLint.Number.Basic

/-!
# Quoted texts and keys

A literal text stands between single quotes and holds what is written.  A basic text stands between
double quotes and may hold escapes.  Three quotes let a text go on over several lines.  Every reader
gives what it has read together with the text that follows.
-/
namespace TemplateLint
namespace Toml

/-- Why a document cannot be read. -/
inductive Flaw where
  | malformed
  | tooManyDigits (fault : Fault)
  /-- More brackets are open at once than there is room for. -/
  | tooDeep
deriving DecidableEq

/-- A space or a tab. -/
def isSpace (c : Char) : Bool := c == ' ' || c == '\t'

/-- A space, a tab or a line end. -/
def isSpaceOrLineEnd (c : Char) : Bool := isSpace c || c == '\n'

/-- The text without the spaces at its start. -/
def dropSpaces (text : Text) : Text := text.dropWhile isSpace

/-- A control character other than the tab. -/
def isControl (c : Char) : Bool := (c.toNat < 32 && c != '\t') || c.toNat = 127

/-- A control character that a text of several lines must not hold. -/
def isForbidden (severalLines : Bool) (c : Char) : Bool :=
  isControl c && !(severalLines && c == '\n')

/-- Reads a literal text behind its first quote. -/
def readLiteral (text : Text) : Except Flaw (Text × Text) :=
  match Text.cutAt '\'' text with
  | (_, none) => .error .malformed
  | (content, some rest) =>
    if content.any (isForbidden false) then .error .malformed else .ok (content, rest)

/-- At most two more quotes at the end of a text of several lines belong to it. -/
def takeMoreQuotes (quote : Char) (content rest : Text) : Text × Text :=
  match rest with
  | a :: b :: more =>
    if a = quote then
      if b = quote then (content ++ [a, b], more) else (content ++ [a], b :: more)
    else (content, rest)
  | [a] => if a = quote then (content ++ [a], []) else (content, rest)
  | [] => (content, [])

/-- A line end directly behind the opening quotes does not belong to the text. -/
def dropFirstLineEnd : Text → Text
  | '\n' :: rest => rest
  | rest => rest

/-- Reads a literal text of several lines behind its first quotes. -/
def readLongLiteral (text : Text) : Except Flaw (Text × Text) :=
  let text := dropFirstLineEnd text
  match Text.indexOf? "'''" text with
  | none => .error .malformed
  | some offset =>
    let content := text.take offset
    if content.any (isForbidden true) then .error .malformed
    else .ok (takeMoreQuotes '\'' content (text.drop (offset + 3)))

/-- The value of a hexadecimal digit. -/
def hexValue? (c : Char) : Option Nat :=
  if '0' ≤ c ∧ c ≤ '9' then some (c.toNat - 48)
  else if 'a' ≤ c ∧ c ≤ 'f' then some (c.toNat - 87)
  else if 'A' ≤ c ∧ c ≤ 'F' then some (c.toNat - 55)
  else none

/-- The character with the given hexadecimal number. -/
def numbered? (digits : Text) : Option Char := do
  let n ← digits.foldlM (fun n c => (hexValue? c).map (n * 16 + ·)) 0
  if n.isValidChar then some (Char.ofNat n) else none

/-- The character that a letter behind a backslash stands for. -/
def escaped? : Char → Option Char
  | 'b' => some (Char.ofNat 8)
  | 't' => some '\t'
  | 'n' => some '\n'
  | 'f' => some (Char.ofNat 12)
  | 'r' => some '\r'
  | '"' => some '"'
  | '\\' => some '\\'
  | _ => none

/-- Where the reading of a basic text stands. -/
inductive BasicState where
  | inside
  /-- Behind a backslash and spaces, before the line end that must follow. -/
  | beforeLineEnd
  /-- Behind a backslash and a line end; spaces and line ends do not count. -/
  | trimming
deriving DecidableEq

/-- What a basic text goes on with. -/
inductive BasicStep where
  | character (c : Char) (length : Nat)
  | turn (state : BasicState) (length : Nat)
  | close (length : Nat)
  | flaw

/-- What the escape behind a backslash means. -/
def escapeStep (severalLines : Bool) : Text → BasicStep
  | [] => .flaw
  | c :: rest =>
    if severalLines ∧ isSpace c then .turn .beforeLineEnd 2
    else if severalLines ∧ c = '\n' then .turn .trimming 2
    else if c = 'u' ∨ c = 'U' then
      let width := if c = 'u' then 4 else 8
      let digits := rest.take width
      if digits.length = width then
        match numbered? digits with
        | some d => .character d (width + 2)
        | none => .flaw
      else .flaw
    else
      match escaped? c with
      | some d => .character d 2
      | none => .flaw

/-- What a basic text goes on with at a character. -/
def basicStep (severalLines : Bool) (state : BasicState) (c : Char) (rest : Text) : BasicStep :=
  if state = .beforeLineEnd then
    if isSpace c then .turn .beforeLineEnd 1
    else if c = '\n' then .turn .trimming 1
    else .flaw
  else if state = .trimming ∧ isSpaceOrLineEnd c then .turn .trimming 1
  else if c = '"' then
    if !severalLines then .close 1
    else if ['"', '"'].isPrefixOf rest then .close 3
    else .character c 1
  else if c = '\\' then escapeStep severalLines rest
  else if isForbidden severalLines c then .flaw
  else .character c 1

/-- Reads a basic text behind its first quotes; `skip` characters were read already. -/
def readBasicFrom (severalLines : Bool) : Nat → BasicState → Text → Except Flaw (Text × Text)
  | 0, _, [] => .error .malformed
  | _ + 1, _, [] => .error .malformed
  | skip + 1, state, _ :: rest => readBasicFrom severalLines skip state rest
  | 0, state, c :: rest =>
    match basicStep severalLines state c rest with
    | .character d length => do
      let (content, rest) ← readBasicFrom severalLines (length - 1) .inside rest
      pure (d :: content, rest)
    | .turn state length => readBasicFrom severalLines (length - 1) state rest
    | .close length => .ok ([], rest.drop (length - 1))
    | .flaw => .error .malformed

/-- Reads a basic text behind its first quote. -/
def readBasic (text : Text) : Except Flaw (Text × Text) := readBasicFrom false 0 .inside text

/-- Reads a basic text of several lines behind its first quotes. -/
def readLongBasic (text : Text) : Except Flaw (Text × Text) := do
  let (content, rest) ← readBasicFrom true 0 .inside (dropFirstLineEnd text)
  pure (takeMoreQuotes '"' content rest)

/-- Reads a quoted text, if one starts here. -/
def readQuoted? : Text → Option (Except Flaw (Text × Text))
  | '"' :: '"' :: '"' :: rest => some (readLongBasic rest)
  | '"' :: rest => some (readBasic rest)
  | '\'' :: '\'' :: '\'' :: rest => some (readLongLiteral rest)
  | '\'' :: rest => some (readLiteral rest)
  | _ => none

/-- A character of a key without quotes. -/
def isBare (c : Char) : Bool := c.isAlphanum || c == '-' || c == '_'

/-- Reads one part of a key. -/
def readKeyPart : Text → Except Flaw (Text × Text)
  | [] => .error .malformed
  | c :: rest =>
    if c = '"' then readBasic rest
    else if c = '\'' then readLiteral rest
    else if isBare c then
      .ok (c :: rest.takeWhile isBare, rest.dropWhile isBare)
    else .error .malformed

/-- Reads the parts of a key behind the first; `limit` bounds their number. -/
def readKeyParts : Nat → Text → Except Flaw (List Text × Text)
  | 0, _ => .error .malformed
  | limit + 1, text =>
    match dropSpaces text with
    | '.' :: rest => do
      let (part, rest) ← readKeyPart (dropSpaces rest)
      let (parts, rest) ← readKeyParts limit rest
      pure (part :: parts, rest)
    | rest => .ok ([], rest)

/-- Reads a key: its first part, the other parts, and what follows the spaces behind it. -/
def readKey (text : Text) : Except Flaw ((Text × List Text) × Text) := do
  let (part, rest) ← readKeyPart text
  let (parts, rest) ← readKeyParts (rest.length + 1) rest
  pure ((part, parts), rest)

end Toml

end TemplateLint
