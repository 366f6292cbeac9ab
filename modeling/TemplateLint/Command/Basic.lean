import TemplateLint.Command.Options
import TemplateLint.Format.Output
import TemplateLint.Number.Reading
import TemplateLint.Operation.Suggest
import TemplateLint.Settings.Load

/-!
# Commands

The commands of the program, from their arguments to what they print and the status they leave with:
zero if all is well, one if a template does not pass or a computation fails, two if the request cannot
be carried out.
-/
namespace TemplateLint

/-- What has broken a run off. -/
inductive Breakdown where
  | fault (reason : Fault)
  | load (reason : LoadError)
deriving DecidableEq

/-- The wording of a breakdown. -/
def Breakdown.message : Breakdown → Text
  | fault reason => reason.message
  | load reason => reason.message

/-- What a command prints, and the status it leaves with. -/
structure Answer where
  status : Nat
  text : Text := []
  displays : List Display := []
  errors : List Text := []
  /-- It is told how the program is called. -/
  showsUsage : Bool := false
  /-- The run was broken off. -/
  cause : Option Breakdown := none

namespace Answer

/-- The request cannot be understood. -/
def usage : Answer := { status := 2, showsUsage := true }

/-- The request cannot be carried out. -/
def refused (errors : List Text) : Answer := { status := 2, errors := errors }

/-- The run was broken off. -/
def broken (cause : Breakdown) : Answer := { status := 1, cause := some cause }

/-- Only help was asked for. -/
def help : Answer := { status := 0, showsUsage := true }

end Answer

/-- A command of the program. -/
inductive Command where
  | lint
  | perf
  | suggest
deriving DecidableEq

namespace Command

/-- The name of a command. -/
def name : Command → Text
  | lint => "lint"
  | perf => "perf"
  | suggest => "suggest"

/-- Every command. -/
def all : List Command := [lint, perf, suggest]

/-- The command of a name. -/
def ofName? (given : Text) : Option Command := all.find? (·.name = given)

/-- The options that every command has. -/
def sharedOptions : List OptionSpec :=
  [.valued "type" "--type" (some 't'), .valued "format" "--format" none,
    .valued "config" "--config" (some 'c'), .switch "verbose" "--verbose" (some 'v'),
    .switch "help" "--help" none]

/-- The options of a command. -/
def options : Command → List OptionSpec
  | lint =>
    [.switch "strict" "--strict" none, .valued "field" "--field" (some 'f'),
      .switch "no-fix" "--no-fix" none, .switch "no-perf" "--no-perf" none] ++ sharedOptions
  | perf =>
    [.valued "threshold" "--threshold" none, .switch "no-partials" "--no-partials" none,
      .switch "no-caching" "--no-caching" none, .switch "no-n-plus-one" "--no-n-plus-one" none,
      .switch "no-loops" "--no-loops" none, .valued "fail-under" "--fail-under" none] ++
      sharedOptions
  | suggest =>
    [.valued "focus" "--focus" none, .valued "max" "--max" (some 'n'),
      .switch "no-examples" "--no-examples" none, .switch "unranked" "--unranked" none] ++
      sharedOptions

/-- How an option is written. -/
def optionUsage (o : OptionSpec) : Text :=
  let value : Text := if o.takesValue then " VALUE" else []
  "[" ++ o.long ++ value ++ "]"

/-- How the program is called, one line for each command. -/
def usageLines : List Text :=
  all.map fun c =>
    let operand : Text := if c = lint then "FILE" else "PATH"
    (" " : Text).intercalate
      (String.toList "viewlint" :: c.name :: operand :: c.options.map optionUsage)

/-- A value that may be missing, read if it is there. -/
def readIf {α : Type} (given : Option Text) (read : Text → Except UsageError α) :
    Except UsageError (Option α) :=
  match given with
  | none => .ok none
  | some text => (read text).map some

/-- An integer that is not below zero and not above a limit. -/
def readBounded (limit : Option Int) (text : Text) : Except UsageError Int :=
  match readInt text with
  | .error _ => .error {}
  | .ok n => if n < 0 ∨ limit.any (· < n) then .error {} else .ok n

/-- A floating-point number that is not below zero. -/
def readThreshold (text : Text) : Except UsageError Number :=
  match readReal text with
  | .error _ => .error {}
  | .ok x => if (Number.real x).lt 0 then .error {} else .ok (.real x)

/-- The path of a file that is there. -/
def checkFile (w : World) (path : Path) : Except UsageError Path :=
  match w.bytesOf path with
  | .ok _ => .ok path
  | .error _ => .error {}

/-- The path of a file that is there, from a text that does not mean a folder. -/
def readFile (w : World) (text : Text) : Except UsageError Path :=
  if Path.meansFolder text then .error {} else checkFile w (.ofText text)

/-- The path of a configuration file that is there, made absolute. -/
def readConfig (w : World) (text : Text) : Except UsageError Path :=
  checkFile w (w.here.under (.ofText text)).collapse

/-- The only operand. -/
def onlyOperand : List Text → Except UsageError Text
  | [operand] => .ok operand
  | _ => .error {}

/-- What every command is asked. -/
structure Request where
  operand : Text
  type : Text
  format : Text
  config : Option Path
  verbose : Bool

/-- Reads what every command is asked. -/
def readRequest (w : World) (g : Given) : Except UsageError Request := do
  let config ← readIf (g.value? "config") (readConfig w)
  let operand ← onlyOperand g.operands
  pure
    { operand := operand
      type := (g.value? "type").getD "auto"
      format := (g.value? "format").getD OutputFormat.terminal.name
      config := config
      verbose := g.has "verbose" }

/-- The format that is asked for. -/
def chooseFormat (r : Request) : Except Answer OutputFormat :=
  match OutputFormat.ofName? r.format with
  | some format => .ok format
  | none =>
    .error
      (.refused
        ["[red]Unknown format " ++ r.format.quoted ++ ".[/red] Choose from: " ++
          OutputFormat.choices])

/-- The switch for how much is told. -/
def telling (r : Request) (format : OutputFormat) : Record :=
  if r.verbose then [("verbose", .flag true)]
  else if format ≠ .terminal then [("quiet", .flag true)]
  else []

/-- The settings of a run. -/
def chooseSettings (w : World) (r : Request) (format : OutputFormat) : Except Answer Settings :=
  match Configuration.load w r.config (telling r format) none none with
  | .ok c => .ok c.settings
  | .error e =>
    if e.isReported then .error (.refused ["[red]Configuration error:[/red] " ++ e.message])
    else .error (.broken (.load e))

/-- What a command prints for a result, and the status it leaves with. -/
def answerWith (format : OutputFormat) (source : Text) (note : Text) (status : Nat)
    (r : AnyResult) : Answer :=
  let output := format.present (some source) r
  { status := status
    text := if format = .terminal then [] else output.text ++ ['\n']
    displays := output.displays
    errors := if note.isEmpty then [] else ["[yellow]" ++ note ++ "[/yellow]"] }

/-- What a command prints for a failure. -/
def answerFailure (f : Failure) : Answer :=
  .refused
    (("[red]Error:[/red] " ++ f.message) ::
      f.details.map fun d => "  [dim]" ++ d.1 ++ ":[/dim] " ++ d.2)

/-- What a command prints for an outcome. -/
def answer {α : Type} (format : OutputFormat) (source : Text) (result : α → AnyResult)
    (status : α → Nat) : Except Fault (Outcome α) → Answer
  | .error fault => .broken (.fault fault)
  | .ok (.refusal f) => answerFailure f
  | .ok (.success data note) => answerWith format source note (status data) (result data)

/-- A field with its type. -/
def readField (item : Text) : Except Answer (Text × Value) :=
  match Text.cutAt '=' item with
  | (name, some type) =>
    if name.isEmpty || type.isEmpty then .error (badField item) else .ok (name.strip, .text type.strip)
  | (_, none) => .error (badField item)
where
  /-- The field cannot be understood. -/
  badField (item : Text) : Answer :=
    .refused ["[red]Invalid --field " ++ item.quoted ++ "[/red], expected NAME=TYPE"]

/-- The fields by their names, a later one winning. -/
def readFields (items : List Text) : Except Answer (Entries Value) := do
  pure (Entries.putAll [] (← items.mapM readField))

/-- Lints a file. -/
def runLint (w : World) (g : Given) (r : Request) (file : Path) : Except Answer Answer := do
  let format ← chooseFormat r
  let settings ← chooseSettings w r format
  let source ←
    match w.readTemplate file (some r.type) with
    | .ok source => pure source
    | .error (.failure f) => throw (.refused ["[red]Error:[/red] " ++ f.describe])
    | .error (.fault f) => throw (.broken (.fault f))
  let fields ← readFields (g.values "field")
  let type : Text := if source.dialect = .unknown then "auto" else source.dialect.name
  let outcome :=
    TemplateLint.lint
      { strict := g.has "strict"
        fixes := !g.has "no-fix"
        performance := !g.has "no-perf"
        type := some type
        fields := fields
        policy := settings.policy
        heuristics := settings.heuristics }
      source.text
  pure (answer format file.toText .lint (fun r => if r.findings.ok then 0 else 1) outcome)

/-- Analyzes templates. -/
def runPerf (w : World) (g : Given) (r : Request) (threshold : Number) (failUnder : Option Int) :
    Except Answer Answer := do
  let format ← chooseFormat r
  let settings ← chooseSettings w r format
  let outcome :=
    analyze w
      { type := some r.type
        analysis :=
          { checkRelationships := !g.has "no-n-plus-one"
            analyzeLoops := !g.has "no-loops"
            suggestCaching := !g.has "no-caching"
            includePartials := !g.has "no-partials"
            complexityThreshold := .number threshold }
        settings := settings }
      r.operand
  pure
    (answer format r.operand .analysis
      (fun a => if failUnder.any (a.report.score < ·) then 1 else 0) outcome)

/-- Suggests optimizations. -/
def runSuggest (w : World) (g : Given) (r : Request) (limit : Int) : Except Answer Answer := do
  let format ← chooseFormat r
  let settings ← chooseSettings w r format
  let outcome :=
    TemplateLint.suggest w
      { type := some r.type
        focus := .text ((g.value? "focus").getD "all")
        examples := !g.has "no-examples"
        prioritize := !g.has "unranked"
        limit := .number (.int limit)
        settings := settings }
      r.operand
  pure (answer format r.operand .plan (fun _ => 0) outcome)

/-- Reads the arguments that only one command has, and makes the run that they ask for. -/
def prepare (w : World) (c : Command) (g : Given) :
    Except UsageError (Except Answer Answer) := do
  let r ← readRequest w g
  match c with
  | lint => pure (runLint w g r (← readFile w r.operand))
  | perf =>
    let threshold ← readIf (g.value? "threshold") readThreshold
    let failUnder ← readIf (g.value? "fail-under") (readBounded (some 100))
    pure (runPerf w g r (threshold.getD (Heuristics.real 50 0)) failUnder)
  | suggest =>
    let limit ← readIf (g.value? "max") (readBounded none)
    pure (runSuggest w g r (limit.getD 20))

/-- The texts that are looked up as files before a command runs. -/
def fileTexts (c : Command) (g : Given) : List Text :=
  (g.value? "config").toList ++ if c = lint then g.operands.head?.toList else []

/-- Runs a command with its arguments. -/
def runWith (w : World) (c : Command) (args : List Text) : Answer :=
  match OptionSpec.readAll c.options args with
  | .error _ => .usage
  | .ok g =>
    if g.has "help" then .help
    else if (c.fileTexts g).any (Path.terminator ∈ ·) then .broken (.fault .nullInPath)
    else
      match prepare w c g with
      | .error _ => .usage
      | .ok (.ok answer) => answer
      | .ok (.error answer) => answer

/-- Reads what stands in front of the name of a command: whether help is asked for, and the arguments
from the name on. -/
def readLeading : List Text → Except UsageError (Bool × List Text)
  | [] => .ok (false, [])
  | arg :: rest =>
    if arg = String.toList "--help" then (readLeading rest).map fun r => (true, r.2)
    else if arg = ['-', '-'] then .ok (false, rest)
    else if OptionSpec.isOption arg then .error {}
    else .ok (false, arg :: rest)

/-- The answer to arguments that name no command.  Help may still be asked for behind something that is
spelled like an option. -/
def answerNameless : List Text → Answer
  | [] => .usage
  | name :: args =>
    if name.head?.any fun c => !isAlphanumeric c then
      match readLeading args with
      | .ok (true, _) => .help
      | _ => .usage
    else .usage

/-- Runs the program with its arguments, the first of which names the command. -/
def run (w : World) (args : List Text) : Answer :=
  match readLeading args with
  | .error _ => .usage
  | .ok (true, _) => .help
  | .ok (false, rest) =>
    match rest.head?.bind ofName? with
    | some c => runWith w c rest.tail
    | none => answerNameless rest

end Command

end TemplateLint
