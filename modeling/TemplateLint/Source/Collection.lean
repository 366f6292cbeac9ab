import TemplateLint.Source.World
import TemplateLint.Text.Lowercase
import TemplateLint.Value

/-!
# Collections

The templates that a path leads to.  A file is taken as it is.  Of a folder every file is taken whose
name has one of the suffixes and that lies in no skipped folder, in the order of the names on its
path; a file that is too large is noted as skipped.
-/
namespace TemplateLint

/-- Which files of a folder are templates. -/
structure CollectOptions where
  suffixes : List Text
  skippedFolders : List Text
  /-- The largest size, a number; it stays as it was given, because it is told like that. -/
  maxSizeMb : Value
  /-- The folder in which relative paths are looked up if they lead nowhere. -/
  viewsRoot : Value
deriving DecidableEq

/-- The templates that were found and the files that were left out. -/
structure Collection where
  sources : List TemplateSource
  skipped : List SkippedFile
deriving DecidableEq

namespace CollectOptions

/-- The options that hold unless others are given. -/
def default : CollectOptions where
  suffixes := [".blade.php", ".antlers.html", ".antlers.php", ".html", ".php"]
  skippedFolders := ["node_modules", "vendor", ".git", "storage", "cache"]
  maxSizeMb := Number.real (Binary64.ofDecimal false 5 0)
  viewsRoot := .null

/-- The largest number of bytes that a template may have. -/
def maxSize (o : CollectOptions) : Except Fault Int := do
  (← (← (o.maxSizeMb.toNumber?.getD 0).mul 1024).mul 1024).toInt

/-- The file with these names below the folder is a template. -/
def isEligible (o : CollectOptions) (names : List Text) : Bool :=
  o.suffixes.any (·.isSuffixOf (lowercase (names.getLastD []))) &&
    !names.dropLast.any (· ∈ o.skippedFolders)

/-- The files of a tree that are templates, in the order of their names. -/
def eligible (o : CollectOptions) (tree : FileTree) : List (List Text × List UInt8) :=
  (tree.files.filter fun f => o.isEligible f.1).mergeSort fun f g => Path.partsLe f.1 g.1

end CollectOptions

namespace Collection

/-- The collection without anything. -/
def empty : Collection := ⟨[], []⟩

/-- The path that leads to something: the given one, or the one below the base. -/
def resolve (w : World) (base : Value) (given : Text) : Except Halt Path :=
  let path := Path.ofText given
  let missing : Except Halt Path := .error (.failure (.templateNotFound given))
  if w.has path then .ok path
  else if path.isAbsolute then missing
  else
    match base with
    | .null => missing
    | .text folder =>
      let below := (Path.ofText folder).under path
      if w.has below then .ok below else missing
    | v => .error (.fault (.notAPath v.shortKind))

/-- The collection with a file put in front of it. -/
def visit (o : CollectOptions) (type : Option Text) (path : Path) (bytes : List UInt8)
    (later : Except Halt Collection) : Except Halt Collection := do
  let limit ← o.maxSize
  if limit < bytes.length then
    let rest ← later
    let reason := "larger than " ++ o.maxSizeMb.shown ++ " MB"
    pure { rest with skipped := ⟨path.toText, reason⟩ :: rest.skipped }
  else
    let source ← World.templateOf path type bytes
    let rest ← later
    pure { rest with sources := source :: rest.sources }

/-- The collection of some files, each with its names below a folder. -/
def ofFiles (o : CollectOptions) (type : Option Text) (root : Path) :
    List (List Text × List UInt8) → Except Halt Collection
  | [] => .ok empty
  | (names, bytes) :: rest =>
    visit o type ⟨root.anchor, root.parts ++ names⟩ bytes (ofFiles o type root rest)

/-- The templates that a path leads to.  A base that is given stands in for the one of the options. -/
def ofPath (w : World) (o : CollectOptions) (type : Option Text) (base : Value)
    (given : Text) : Except Halt Collection := do
  let root ← resolve w (if base = .null then o.viewsRoot else base) given
  match w.find root with
  | .ok (.file bytes) => ofFiles o type root [([], bytes)]
  | .ok (.folder entries) => ofFiles o type root (o.eligible (.folder entries))
  | .error _ => pure empty

end Collection

end TemplateLint
