import TemplateLint.Source.Path
import TemplateLint.Text.Quoted
import TemplateLint.Text.Utf8

/-!
# File trees

A folder with everything in it.  `follow` goes along the names of a path and `files` lists every file
with the names that lead to it.
-/
namespace TemplateLint

/-- A file, or a folder with named entries. -/
inductive FileTree where
  | file (bytes : List UInt8)
  | folder (entries : List (Text × FileTree))

/-- Why a path does not lead to a file. -/
inductive PathFault where
  /-- Nothing has this name. -/
  | missing
  /-- A name below a file. -/
  | underFile
  /-- A folder stands where a file is wanted. -/
  | isFolder
  /-- A name, or the whole path, has too many bytes. -/
  | nameTooLong
  /-- The system does not let the run look. -/
  | denied
deriving DecidableEq

namespace PathFault

/-- The fault only tells that nothing is there. -/
def isAbsence : PathFault → Bool
  | missing | underFile => true
  | isFolder | nameTooLong | denied => false

/-- The wording of a fault about a path. -/
def describe (fault : PathFault) (path : Path) : Text :=
  (match fault with
    | missing => String.toList "[Errno 2] No such file or directory: "
    | underFile => String.toList "[Errno 20] Not a directory: "
    | isFolder => String.toList "[Errno 21] Is a directory: "
    | nameTooLong => String.toList "[Errno 36] File name too long: "
    | denied => String.toList "[Errno 13] Permission denied: ") ++ path.toText.quoted

end PathFault

namespace FileTree

/-- The tree without anything. -/
def empty : FileTree := folder []

/-- The name that leads back to the folder around. -/
def parentName : Text := ['.', '.']

/-- The number of bytes that a name may have. -/
def nameLimit : Nat := 255

/-- Where some names lead from a tree; `above` holds the folders that were left, the nearest first.  The
outermost folder is its own parent. -/
def follow : List FileTree → FileTree → List Text → Except PathFault FileTree
  | _, tree, [] => .ok tree
  | _, file _, _ :: _ => .error .underFile
  | above, folder entries, name :: names =>
    if name = parentName then
      match above with
      | [] => follow [] (folder entries) names
      | outer :: further => follow further outer names
    else if nameLimit < Utf8.size name then .error .nameTooLong
    else
      match entries.lookup name with
      | none => .error .missing
      | some tree => follow (folder entries :: above) tree names

mutual

/-- Every file with the names that lead to it, in the order of the entries. -/
def files : FileTree → List (List Text × List UInt8)
  | file bytes => [([], bytes)]
  | folder entries => filesIn entries

/-- Every file below some entries. -/
def filesIn : List (Text × FileTree) → List (List Text × List UInt8)
  | [] => []
  | (name, tree) :: rest => (files tree).map (fun f => (name :: f.1, f.2)) ++ filesIn rest

end

/-- The entries with one of them changed; a new name comes last. -/
def alter (name : Text) (change : Option FileTree → FileTree) :
    List (Text × FileTree) → List (Text × FileTree)
  | [] => [(name, change none)]
  | (key, tree) :: rest =>
    if key = name then (key, change (some tree)) :: rest else (key, tree) :: alter name change rest

/-- The entries of a folder; a file has none. -/
def entries : FileTree → List (Text × FileTree)
  | file _ => []
  | folder entries => entries

/-- The tree with another one placed where some names lead; the folders on the way are made. -/
def place : List Text → FileTree → FileTree → FileTree
  | [], placed, _ => placed
  | name :: names, placed, tree =>
    folder (alter name (fun old => place names placed (old.getD empty)) tree.entries)

/-- The tree with a folder where some names lead; a folder that is there stays. -/
def makeFolder : List Text → FileTree → FileTree
  | [], tree => folder tree.entries
  | name :: names, tree =>
    folder (alter name (fun old => makeFolder names (old.getD empty)) tree.entries)

end FileTree

end TemplateLint
