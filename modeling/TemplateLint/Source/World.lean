import TemplateLint.Entries
import TemplateLint.Halt
import TemplateLint.Room
import TemplateLint.Source.FileTree
import TemplateLint.Source.Template
import TemplateLint.Text.Blank

/-!
# The world around a run

The files that a run can read and the variables of its environment.  The system may refuse to look for
a path; what it finds there may be read, with everything below it, and the working folder is there.  A
file is read leniently: what is not well-formed becomes U+FFFD, and every line end becomes a line feed.
-/
namespace TemplateLint

/-- The files and the environment of a run. -/
structure World where
  /-- Everything that can be read. -/
  tree : FileTree
  /-- The absolute path of the working folder. -/
  here : Path
  /-- The path of the folder that the user's account has, if it has one. -/
  home : Option Path
  environment : Entries Text
  room : Room := .usual
  /-- The run may not look for what is at this absolute path. -/
  refuses : Path → Bool := fun _ => false

namespace World

/-- The variable that names the user's own folder. -/
def homeVariable : Text := "HOME"

/-- The path of the user's own folder: the one in the variable, or else that of the account.  Slashes at
its end do not count, and nothing else is the outermost folder.  A path that starts with a tilde names
another folder that would have to be found first, so it is none. -/
def homeFolder? (w : World) : Option Path :=
  match (w.environment.get? homeVariable).or (w.home.map Path.toText) with
  | none => none
  | some told =>
    match Text.trimRight (· = '/') told with
    | [] => some (.ofText "/")
    | '~' :: _ => none
    | folder => some (.ofText folder)

/-- The number of bytes that a path may have. -/
def pathLimit : Nat := 4095

/-- What a path leads to; a path that is not absolute starts at the working folder. -/
def find (w : World) (path : Path) : Except PathFault FileTree :=
  if Path.terminator ∈ path.toText then .error .missing
  else if pathLimit < Utf8.size path.toText then .error .nameTooLong
  else if w.refuses (w.here.under path) then .error .denied
  else FileTree.follow [] w.tree (w.here.under path).parts

/-- The path leads to something. -/
def has (w : World) (path : Path) : Bool := (w.find path).isOk

/-- The bytes of the file that a path leads to. -/
def bytesOf (w : World) (path : Path) : Except PathFault (List UInt8) := do
  match ← w.find path with
  | .file bytes => pure bytes
  | .folder _ => throw .isFolder

/-- The template in the bytes of a file. -/
def templateOf (path : Path) (type : Option Text) (bytes : List UInt8) :
    Except Failure TemplateSource := do
  let text := (Utf8.decode bytes).unifyLineEnds
  let dialect ← Dialect.classify (some path.toText) text type
  pure ⟨path.toText, dialect, text, bytes.length⟩

/-- The template in the file that a path leads to. -/
def readTemplate (w : World) (path : Path) (type : Option Text) : Except Halt TemplateSource :=
  if Path.terminator ∈ path.toText then .error (.fault .nullInPath)
  else
    match w.bytesOf path with
    | .ok bytes => templateOf path type bytes
    | .error fault => .error (.failure (.unreadable path.toText (fault.describe path)))

end World

end TemplateLint
