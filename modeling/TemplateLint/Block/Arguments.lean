import TemplateLint.Fault

/-!
# Argument lists

An argument list is a pair of parentheses with items between them: other argument lists, texts in
quotes in which a backslash takes the next character, and any other characters.
-/
namespace TemplateLint
namespace Arguments

/-- The number of characters up to and including the parenthesis that closes the list.  `depth` is the
number of parentheses that are open and `quote` the quote that is. -/
def close? : Nat → Option Char → Text → Option Nat
  | _, _, [] => none
  | depth, some quote, c :: rest =>
    if c = '\\' then
      match rest with
      | [] => none
      | _ :: rest => (close? depth (some quote) rest).map (· + 2)
    else if c = quote then (close? depth none rest).map (· + 1)
    else (close? depth (some quote) rest).map (· + 1)
  | depth, none, c :: rest =>
    if c = '\'' ∨ c = '"' then (close? depth (some c) rest).map (· + 1)
    else if c = '(' then (close? (depth + 1) none rest).map (· + 1)
    else if c = ')' then
      if depth ≤ 1 then some 1 else (close? (depth - 1) none rest).map (· + 1)
    else (close? depth none rest).map (· + 1)

/-- The length of the blanks and the argument list at the start of a text; zero without a list. -/
def span (text : Text) : Nat :=
  let gap := text.takeWhile fun c => c == ' ' || c == '\t'
  match text.drop gap.length with
  | '(' :: rest =>
    match close? 1 none rest with
    | some size => gap.length + 1 + size
    | none => 0
  | _ => 0

/-- The offset behind the argument list at an offset; the offset itself without a list. -/
def stop (text : Text) (offset : Nat) : Nat := offset + span (text.drop offset)

/-- The offset behind the argument list at an offset, which may be counted back from the end of the text
by a negative number.  From there on the text is read to its end, and then once more as a whole. -/
def stopFrom (text : Text) : Int → Except Fault Int
  | .ofNat offset => .ok (stop text offset)
  | .negSucc back =>
    if text.length < back + 1 then .error .offsetOutOfRange
    else .ok (span (text.drop (text.length - (back + 1)) ++ text) - (back + 1 : Int))

end Arguments

end TemplateLint
