import TemplateLint.Settings.Basic
import TemplateLint.Settings.Environment
import TemplateLint.Toml.Document

/-!
# Loading a configuration

A configuration is merged from several sources, a later one winning: the file in the user's own
folder, the file in the working folder, the file that was asked for, the environment, and overrides.
The policy and the heuristics are merged entry by entry, everything else is replaced.
-/
namespace TemplateLint

/-- Why a configuration cannot be loaded. -/
inductive LoadError where
  /-- The user's own folder cannot be told. -/
  | homeless
  | missingFile (path : Path)
  /-- The system does not tell whether a file is there. -/
  | lookup (fault : PathFault) (path : Path)
  | malformedFile (path : Path)
  /-- A section is not a table in one of the sources. -/
  | notATable (name origin : Text)
  | badVariable (name : Text) (reason : VariableError)
  | invalid (reason : Refusal)
  | notUtf8 (defect : Utf8.Defect)
  | tooManyDigits (fault : Fault)
  /-- Brackets lie too deep within each other in a file. -/
  | tooDeep
deriving DecidableEq

/-- The wording of a defect in the bytes of a text. -/
def Utf8.Defect.message (d : Utf8.Defect) : Text :=
  let place : Text :=
    if d.length = 1 then
      "byte 0x" ++ Quoted.hex 2 d.byte ++ " in position " ++ Text.ofNat d.offset
    else
      "bytes in position " ++ Text.ofNat d.offset ++ "-" ++ Text.ofNat (d.offset + d.length - 1)
  let reason : Text :=
    match d.flaw with
    | .badStart => "invalid start byte"
    | .badContinuation => "invalid continuation byte"
    | .ended => "unexpected end of data"
  "'utf-8' codec can't decode " ++ place ++ ": " ++ reason

namespace LoadError

/-- The error is about the configuration, so it is told to the user as such. -/
def isReported : LoadError → Bool
  | invalid reason => reason.sort ≠ .operation
  | homeless | lookup _ _ | notUtf8 _ | tooManyDigits _ | tooDeep => false
  | _ => true

/-- The wording of an error. -/
def message : LoadError → Text
  | homeless => "Could not determine home directory."
  | missingFile path => "Config file not found: " ++ path.toText
  | lookup fault path => fault.describe path
  | malformedFile path => "Invalid config file '" ++ path.toText ++ "'"
  | notATable name origin => "[" ++ name ++ "] in " ++ origin ++ " must be a table"
  | badVariable name reason => "Invalid " ++ name ++ ": " ++ reason.message
  | invalid reason =>
    if reason.sort = .operation then reason.message
    else "Invalid configuration: " ++ reason.message
  | notUtf8 defect => defect.message
  | tooManyDigits fault => fault.message
  | tooDeep => "maximum recursion depth exceeded"

end LoadError

/-- What the sources have said so far about each of the three records. -/
structure Merged where
  policy : Record
  heuristics : Record
  general : Record

namespace Merged

/-- What is known before any source was read. -/
def empty : Merged := ⟨[], [], []⟩

/-- The name of the section for the policy. -/
def policySection : Text := "policy"

/-- The name of the section for the heuristics. -/
def heuristicsSection : Text := "heuristics"

/-- The entries of a section. -/
def entriesOf (name origin : Text) : Value → Except LoadError Record
  | .table entries => .ok entries
  | _ => .error (.notATable name origin)

/-- What is known after one entry of a source. -/
def write (origin : Text) (m : Merged) (entry : Text × Value) : Except LoadError Merged :=
  if entry.1 = policySection then
    (entriesOf entry.1 origin entry.2).map fun r => { m with policy := m.policy.putAll r }
  else if entry.1 = heuristicsSection then
    (entriesOf entry.1 origin entry.2).map fun r => { m with heuristics := m.heuristics.putAll r }
  else .ok { m with general := m.general.put entry.1 entry.2 }

/-- What is known after a source. -/
def add (m : Merged) (origin : Text) (source : Record) : Except LoadError Merged :=
  source.foldlM (write origin) m

end Merged

/-- The error for a flaw in a file. -/
def LoadError.ofFlaw (path : Path) : Toml.Flaw → LoadError
  | .malformed => .malformedFile path
  | .tooManyDigits fault => .tooManyDigits fault
  | .tooDeep => .tooDeep

/-- A file is there.  A fault that tells something else than its absence stops the loading. -/
def World.isThere (w : World) (path : Path) : Except LoadError Bool :=
  match w.find path with
  | .ok _ => .ok true
  | .error fault => if fault.isAbsence then .ok false else .error (.lookup fault path)

/-- The entries of a configuration file. -/
def World.readConfiguration (w : World) (path : Path) : Except LoadError Record :=
  match w.bytesOf path with
  | .error _ => .error (.malformedFile path)
  | .ok bytes =>
    match Utf8.read bytes with
    | .error defect => .error (.notUtf8 defect)
    | .ok text => (Toml.read (w.room.brackets text) text).mapError (.ofFlaw path)

/-- The entries that the environment sets. -/
def World.variables (w : World) : Except LoadError Record := do
  let read (start : Text) (s : Schema) : Except LoadError Record :=
    (Schema.readVariables w.environment start s.fields).mapError fun e => .badVariable e.1 e.2
  let general ← read "VIEWLINT_" .general
  let policy ← read "VIEWLINT_POLICY_" .policy
  let heuristics ← read "VIEWLINT_HEURISTICS_" .heuristics
  pure (general ++ [(Merged.policySection, .table policy),
    (Merged.heuristicsSection, .table heuristics)])

namespace Configuration

/-- The name of the file in the user's own folder. -/
def homeFile : Text := ".viewlint.toml"

/-- The name of the file in the working folder. -/
def projectFile : Text := "viewlint.toml"

/-- The path of the file in the user's own folder. -/
def homePath (w : World) : Except LoadError Path :=
  match w.homeFolder? with
  | some folder => .ok (folder.under (.ofText homeFile))
  | none => .error .homeless

/-- The path of the file in the working folder. -/
def projectPath (w : World) : Path := w.here.under (.ofText projectFile)

/-- What is known after a file, if it is there. -/
def addIfThere (w : World) (path : Path) (m : Merged) : Except LoadError Merged := do
  if ← w.isThere path then m.add path.toText (← w.readConfiguration path) else pure m

/-- What is known after a file that was asked for. -/
def addRequired (w : World) (path : Path) (m : Merged) : Except LoadError Merged := do
  if ← w.isThere path then m.add path.toText (← w.readConfiguration path)
  else throw (.missingFile path)

/-- The overrides with a switch turned into a verbosity, if it is on. -/
def settleSwitch (switch : Text) (overrides : Record) : Record :=
  match overrides.get? switch with
  | none => overrides
  | some value =>
    let rest : Record := Entries.erase switch overrides
    if value.holds then rest.put "verbosity" (.text switch) else rest

/-- What all sources say. -/
def merged (w : World) (file : Option Path) (overrides : Record) : Except LoadError Merged := do
  let m ← addIfThere w (← homePath w) .empty
  let m ← addIfThere w (projectPath w) m
  let m ←
    match file with
    | some path => addRequired w path m
    | none => pure m
  let m ← m.add "environment" (← w.variables)
  m.add "overrides" (settleSwitch "quiet" (settleSwitch "verbose" overrides))

/-- The overrides without a section, if it is finished already. -/
def withoutFinished (finished : Option Record) (name : Text) (overrides : Record) : Record :=
  if finished.isSome then overrides.erase name else overrides

/-- The configuration that all sources make.  A policy or heuristics that are finished already stand in
for the overrides of theirs and replace whatever the sources say about them. -/
def load (w : World) (file : Option Path) (overrides : Record)
    (policy heuristics : Option Record) : Except LoadError Configuration := do
  let m ← merged w file
    (withoutFinished policy Merged.policySection
      (withoutFinished heuristics Merged.heuristicsSection overrides))
  let build : Except Refusal Configuration := do
    let policy ←
      match policy with
      | some finished => pure finished
      | none => Record.policy m.policy
    let heuristics ←
      match heuristics with
      | some finished => pure finished
      | none => Record.heuristicsWithin w.room m.heuristics
    pure ⟨policy, heuristics, ← Record.general m.general⟩
  build.mapError .invalid

end Configuration

end TemplateLint
