import TemplateLint.Entries

/-!
# Options

The arguments of a command are options and operands in any order.  A long option has its value behind
an equals sign or in the next argument; short options may stand together in one argument, and what
follows one that takes a value is the value.  Behind two dashes everything is an operand.
-/
namespace TemplateLint

/-- An option of a command. -/
structure OptionSpec where
  name : Text
  long : Text
  short : Option Char := none
  takesValue : Bool

/-- The arguments cannot be understood. -/
structure UsageError where
deriving DecidableEq

/-- The options that were given, with their values in order, and the operands. -/
structure Given where
  options : List (Text × Text)
  operands : List Text
deriving DecidableEq

namespace Given

/-- Nothing was given. -/
def nothing : Given := ⟨[], []⟩

/-- An option in front of what was given. -/
def withOption (name value : Text) (g : Given) : Given :=
  { g with options := (name, value) :: g.options }

/-- The switch was given. -/
def has (g : Given) (name : Text) : Bool := g.options.any (·.1 = name)

/-- Every value of an option. -/
def values (g : Given) (name : Text) : List Text :=
  (g.options.filter (·.1 = name)).map (·.2)

/-- The last value of an option. -/
def value? (g : Given) (name : Text) : Option Text := (g.values name).getLast?

end Given

namespace OptionSpec

/-- A switch. -/
def switch (name long : Text) (short : Option Char) : OptionSpec := ⟨name, long, short, false⟩

/-- An option that takes a value. -/
def valued (name long : Text) (short : Option Char) : OptionSpec := ⟨name, long, short, true⟩

/-- Options read from one argument, the last of which may wait for its value. -/
structure Step where
  found : List (Text × Text)
  waiting : Option Text

/-- Reads short options that stand together. -/
def readCluster (specs : List OptionSpec) : Text → Except UsageError Step
  | [] => .ok ⟨[], none⟩
  | c :: rest =>
    match specs.find? (·.short = some c) with
    | none => .error {}
    | some spec =>
      if !spec.takesValue then
        (readCluster specs rest).map fun s => { s with found := (spec.name, []) :: s.found }
      else if rest.isEmpty then .ok ⟨[], some spec.name⟩
      else .ok ⟨[(spec.name, rest)], none⟩

/-- Reads an argument that starts with a dash. -/
def readArgument (specs : List OptionSpec) (arg : Text) : Except UsageError Step :=
  let (name, attached) := Text.cutAt '=' arg
  match specs.find? (·.long = name) with
  | some spec =>
    match spec.takesValue, attached with
    | true, some value => .ok ⟨[(spec.name, value)], none⟩
    | true, none => .ok ⟨[], some spec.name⟩
    | false, some _ => .error {}
    | false, none => .ok ⟨[(spec.name, [])], none⟩
  | none =>
    if ['-', '-'].isPrefixOf arg then .error {} else readCluster specs arg.tail

/-- The argument is an option and not an operand. -/
def isOption (arg : Text) : Bool := arg.head? = some '-' && 1 < arg.length

/-- Reads the arguments of a command. -/
def readAll (specs : List OptionSpec) : List Text → Except UsageError Given
  | [] => .ok .nothing
  | arg :: rest =>
    if arg = ['-', '-'] then .ok ⟨[], rest⟩
    else if isOption arg then
      match readArgument specs arg with
      | .error e => .error e
      | .ok step =>
        match step.waiting, rest with
        | none, rest =>
          (readAll specs rest).map fun g => step.found.foldr (fun o g => g.withOption o.1 o.2) g
        | some name, value :: rest =>
          (readAll specs rest).map fun g =>
            step.found.foldr (fun o g => g.withOption o.1 o.2) (g.withOption name value)
        | some _, [] => .error {}
    else
      (readAll specs rest).map fun g => { g with operands := arg :: g.operands }

end OptionSpec

end TemplateLint
