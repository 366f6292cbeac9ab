import TemplateLint.Command.Basic
import TemplateLint.Format.Plain

/-!
# The program

Reads what the arguments may refer to, runs the command, and prints its answer.
-/
namespace TemplateLint
namespace Program

/-- The text of a string of the outer world. -/
def textOf (s : String) : Text := s.toList

/-- The string that a text stands for in the outer world. -/
def stringOf (t : Text) : String := String.ofList t

/-- What a directory entry holds, with its name; a link is followed to files only. -/
partial def readEntry (entry : IO.FS.DirEntry) : IO (List (Text × FileTree)) := do
  let name := textOf entry.fileName
  let link := (← entry.path.symlinkMetadata).type == .symlink
  if ← entry.path.isDir then
    if link then return []
    let inner ← (← entry.path.readDir).toList.mapM readEntry
    return [(name, .folder inner.flatten)]
  else if ← entry.path.pathExists then
    return [(name, .file (← IO.FS.readBinFile entry.path).toList)]
  else return []

/-- The tree with everything at an absolute path read into it.  The folders on the way to it are made
if they are there, so that two dots lead back through them. -/
def readInto (tree : FileTree) (path : Path) : IO FileTree := do
  let base ← IO.currentDir
  let mut tree := tree
  for count in List.range path.parts.length do
    let outer : Path := ⟨path.anchor, path.parts.take count⟩
    if ← (base / stringOf outer.toText).isDir then
      tree := FileTree.makeFolder outer.collapse.parts tree
  let place := base / stringOf path.toText
  if ← place.isDir then
    let inner ← (← place.readDir).toList.mapM readEntry
    return FileTree.place path.collapse.parts (.folder inner.flatten) tree
  else if ← place.pathExists then
    return FileTree.place path.collapse.parts (.file (← IO.FS.readBinFile place).toList) tree
  else return tree

/-- The variables of the environment that settings are read from, and the one for the user's own
folder. -/
def readVariables : IO (Entries Text) := do
  let named (start : Text) (s : Schema) : List Text := s.fields.map (·.variableName start)
  let names := World.homeVariable ::
    named "VIEWLINT_" .general ++ named "VIEWLINT_POLICY_" .policy ++
      named "VIEWLINT_HEURISTICS_" .heuristics
  let found ← names.mapM fun name => do
    return (← IO.getEnv (stringOf name)).map fun value => (name, textOf value)
  return found.filterMap id

/-- The paths that some arguments may refer to: the arguments themselves, and what follows an equals
sign or the letter of a short option. -/
def mentioned (args : List Text) : List Path :=
  let values := args.filterMap fun arg => (Text.cutAt '=' arg).2
  let attached := (args.filter OptionSpec.isOption).map (·.drop 2)
  ((args ++ values ++ attached).filter fun arg => '\n' ∉ arg).map Path.ofText

/-- The folders in which the configurations look up relative paths. -/
def viewsRoots (w : World) (paths : List Path) : List Path :=
  (none :: paths.map some).filterMap fun file =>
    match Configuration.load w file [] none none with
    | .ok c => c.settings.collect.viewsRoot.toText?.map .ofText
    | .error _ => none

/-- The world around a run with some arguments: what they may refer to, and the configuration. -/
def readWorld (args : List Text) : IO World := do
  let here := Path.ofText (textOf (← IO.currentDir).toString)
  let paths := mentioned args
  let mut tree := FileTree.makeFolder here.parts .empty
  -- what folder the account has is not known here, so the outermost one stands for it
  let w : World :=
    { tree := tree, here := here, home := some (.ofText "/"), environment := ← readVariables }
  let standing := Configuration.projectPath w :: (Configuration.homePath w).toOption.toList
  for path in standing ++ paths do
    tree ← readInto tree (here.under path)
  let w := { w with tree := tree }
  for root in viewsRoots w paths do
    for path in paths do
      tree ← readInto tree (here.under (root.under path))
  return { w with tree := tree }

/-- Prints an answer. -/
def print (a : Answer) : IO Unit := do
  let out ← IO.getStdout
  let err ← IO.getStderr
  out.putStr (stringOf a.text)
  for line in a.displays.flatMap (·.lines) do
    out.putStrLn (stringOf line)
  for line in a.errors do
    err.putStrLn (stringOf (Markup.plain line))
  for cause in a.cause.toList do
    err.putStrLn (stringOf cause.message)
  if a.showsUsage then
    for line in Command.usageLines do
      (if a.status = 0 then out else err).putStrLn (stringOf line)

end Program

end TemplateLint

/-- Runs the command that the arguments ask for. -/
def main (args : List String) : IO UInt32 := do
  let args := args.map String.toList
  let w ← TemplateLint.Program.readWorld args
  let answer := TemplateLint.Command.run w args
  TemplateLint.Program.print answer
  return answer.status.toUInt32
