import TemplateLint.Proofs.Settings.Merging

/-!
# The sources of a configuration

A configuration is loaded from up to three files, from the environment and from overrides
(`Sources`).  A variable of the environment tells the field that it is named for
(`World.variables_eq_ok`), and a switch among the overrides tells the verbosity
(`Configuration.tells_settled`).  The merged record of a part has what the strongest source says
about each field (`Configuration.get?_merged`).
-/
namespace TemplateLint

/-! ## The environment -/

/-- What the environment says about a field; a text that cannot be read says nothing. -/
def Field.fromEnvironment? (environment : Entries Text) (start : Text) (f : Field) : Option Value :=
  (environment.get? (f.variableName start)).bind fun text => (Field.read f.kind text).toOption

namespace Schema

variable {environment : Entries Text} {start : Text}

/-- The variables that are set can be read, and they tell their fields. -/
theorem readVariables_eq_ok {fields : List Field} {r : Record}
    (h : readVariables environment start fields = .ok r) :
    (∀ f ∈ fields, ∀ text, environment.get? (f.variableName start) = some text →
      Answers (Field.read f.kind text)) ∧
    r = fields.filterMap fun f => (f.fromEnvironment? environment start).map (f.name, ·) := by
  induction fields generalizing r with
  | nil => exact ⟨fun f hf => absurd hf List.not_mem_nil, (Except.ok.inj h).symm⟩
  | cons f fields ih =>
    rw [readVariables] at h
    cases hset : environment.get? (f.variableName start) with
    | none =>
      simp only [hset] at h
      obtain ⟨hread, hr⟩ := ih h
      have hnone : f.fromEnvironment? environment start = none := by
        rw [Field.fromEnvironment?, hset]
        rfl
      refine ⟨List.forall_mem_cons.mpr ⟨?_, hread⟩, ?_⟩
      · intro text htext
        rw [hset] at htext
        cases htext
      · rw [List.filterMap_cons, hnone]
        exact hr
    | some text =>
      simp only [hset] at h
      cases hvalue : Field.read f.kind text with
      | error reason => simp [hvalue] at h
      | ok value =>
        simp only [hvalue] at h
        cases hrest : readVariables environment start fields with
        | error e => simp [hrest, Except.map] at h
        | ok rest =>
          obtain ⟨hread, hr⟩ := ih hrest
          have hsome : f.fromEnvironment? environment start = some value := by
            rw [Field.fromEnvironment?, hset, Option.bind_some, hvalue]
            rfl
          refine ⟨List.forall_mem_cons.mpr ⟨?_, hread⟩, ?_⟩
          · intro other hother
            obtain rfl := Option.some.inj (hset.symm.trans hother)
            exact ⟨value, hvalue⟩
          · rw [List.filterMap_cons, hsome, Option.map_some, ← hr]
            simpa [hrest, Except.map] using h.symm

/-- Values that fields of different names have are found by their names. -/
theorem get?_filterMap {fields : List Field} (hnames : (fields.map (·.name)).Nodup)
    (value : Field → Option Value) {f : Field} (hf : f ∈ fields) :
    Entries.get? f.name (fields.filterMap fun g => (value g).map (g.name, ·)) = value f := by
  induction fields with
  | nil => cases hf
  | cons g fields ih =>
    rw [List.map_cons, List.nodup_cons] at hnames
    obtain ⟨hfirst, hrest⟩ := hnames
    rcases List.mem_cons.mp hf with rfl | hf
    · cases hvalue : value f with
      | none =>
        have habsent : f.name ∉ Entries.keys
            (fields.filterMap fun g => (value g).map (g.name, ·)) := by
          intro hmem
          obtain ⟨e, he, hname⟩ := List.mem_map.mp hmem
          obtain ⟨g, hg, hentry⟩ := List.mem_filterMap.mp he
          obtain ⟨v, -, rfl⟩ := Option.map_eq_some_iff.mp hentry
          exact hfirst (hname ▸ List.mem_map_of_mem hg)
        rw [List.filterMap_cons, hvalue, Option.map_none]
        exact Entries.get?_eq_none habsent
      | some v =>
        rw [List.filterMap_cons, hvalue, Option.map_some, Entries.get?_cons, if_pos rfl]
    · have hne : f.name ≠ g.name := fun heq => hfirst (heq ▸ List.mem_map_of_mem hf)
      rw [List.filterMap_cons, ← ih hrest hf]
      cases value g with
      | none => rfl
      | some v => rw [Option.map_some, Entries.get?_cons, if_neg hne]

end Schema

namespace Part

/-- No two fields of a part have the same name. -/
theorem nodup_names (part : Part) : (part.schema.fields.map (·.name)).Nodup := by
  cases part <;> decide +kernel

/-- No general field has the name of a section. -/
theorem ofKey_name {f : Field} (hf : f ∈ general.schema.fields) : ofKey f.name = general := by
  have hall : ∀ f ∈ general.schema.fields, ofKey f.name = general := by decide +kernel
  exact hall f hf

/-- Entries outside the sections are about the general settings. -/
theorem entries_eq {table : Record} (h : ∀ e ∈ table, ofKey e.1 = general) (part : Part) :
    part.entries table = if part = general then table else [] := by
  induction table with
  | nil => simp [entries]
  | cons entry table ih =>
    obtain ⟨hentry, htable⟩ := List.forall_mem_cons.mp h
    have hrest := ih htable
    rw [entries] at hrest
    rw [entries, List.flatMap_cons, hrest, hentry, said, hentry]
    cases part <;> rfl

/-- A table with both sections at its end says about each part what stands in its section. -/
theorem entries_sections {rest : Record} (h : ∀ e ∈ rest, ofKey e.1 = general)
    (inner outer : Record) :
    policy.entries (rest ++ [(Merged.policySection, .table inner),
      (Merged.heuristicsSection, .table outer)]) = inner ∧
    heuristics.entries (rest ++ [(Merged.policySection, .table inner),
      (Merged.heuristicsSection, .table outer)]) = outer ∧
    general.entries (rest ++ [(Merged.policySection, .table inner),
      (Merged.heuristicsSection, .table outer)]) = rest := by
  have hfirst : ofKey Merged.policySection = policy := by decide
  have hsecond : ofKey Merged.heuristicsSection = heuristics := by decide
  have hinner : said (Merged.policySection, .table inner) = inner := by rw [said, hfirst]
  have houter : said (Merged.heuristicsSection, .table outer) = outer := by rw [said, hsecond]
  have hrest := entries_eq h
  simp only [entries] at hrest ⊢
  simp [List.flatMap_append, hrest, hfirst, hsecond, hinner, houter]

/-- What the environment says about the fields of a part. -/
def ofEnvironment (part : Part) (environment : Entries Text) : Record :=
  part.schema.fields.filterMap fun f =>
    (f.fromEnvironment? environment part.variableStart).map (f.name, ·)

/-- The variables for the fields of a part that are set can be read. -/
def Readable (part : Part) (environment : Entries Text) : Prop :=
  ∀ f ∈ part.schema.fields, ∀ text,
    environment.get? (f.variableName part.variableStart) = some text →
      Answers (Field.read f.kind text)

/-- The names of the general variables that are set are names of fields. -/
theorem ofKey_environment {environment : Entries Text} :
    ∀ e ∈ general.ofEnvironment environment, ofKey e.1 = general := by
  intro e he
  obtain ⟨f, hf, hentry⟩ := List.mem_filterMap.mp he
  obtain ⟨v, -, rfl⟩ := Option.map_eq_some_iff.mp hentry
  exact ofKey_name hf

/-- The environment tells what the variables of a part say. -/
theorem get?_ofEnvironment (part : Part) (environment : Entries Text) {f : Field}
    (hf : f ∈ part.schema.fields) :
    Entries.get? f.name (part.ofEnvironment environment).reverse =
      f.fromEnvironment? environment part.variableStart := by
  rw [ofEnvironment, ← List.filterMap_reverse]
  refine Schema.get?_filterMap ?_ (Field.fromEnvironment? environment part.variableStart) ?_
  · rw [List.map_reverse]
    exact List.nodup_reverse.mpr part.nodup_names
  · exact List.mem_reverse.mpr hf

end Part

/-- The variables that are set can be read, and the table for the environment holds what they say
about each part. -/
theorem World.variables_eq_ok {w : World} {table : Record} (h : w.variables = .ok table)
    (part : Part) :
    part.Readable w.environment ∧ part.entries table = part.ofEnvironment w.environment := by
  have hread : ∀ (part : Part) (r : Record), (Schema.readVariables w.environment
      part.variableStart part.schema.fields).mapError (fun e => LoadError.badVariable e.1 e.2) =
        .ok r → part.Readable w.environment ∧ part.ofEnvironment w.environment = r := by
    intro part r hr
    obtain ⟨hreadable, hr⟩ := Schema.readVariables_eq_ok (Answers.mapError_eq_ok hr)
    exact ⟨hreadable, hr.symm⟩
  rw [World.variables] at h
  obtain ⟨rest, hrest, h⟩ := Answers.bind_eq_ok h
  obtain ⟨inner, hinner, h⟩ := Answers.bind_eq_ok h
  obtain ⟨outer, houter, h⟩ := Answers.bind_eq_ok h
  obtain ⟨hgeneral, hgeneralIs⟩ := hread .general rest hrest
  obtain ⟨hpolicy, hpolicyIs⟩ := hread .policy inner hinner
  obtain ⟨hheuristics, hheuristicsIs⟩ := hread .heuristics outer houter
  have houtside : ∀ e ∈ rest, Part.ofKey e.1 = .general := by
    rw [← hgeneralIs]
    exact Part.ofKey_environment
  obtain ⟨hp, hh, hg⟩ := Part.entries_sections houtside inner outer
  obtain rfl := Except.ok.inj h
  cases part with
  | policy => exact ⟨hpolicy, hp.trans hpolicyIs.symm⟩
  | heuristics => exact ⟨hheuristics, hh.trans hheuristicsIs.symm⟩
  | general => exact ⟨hgeneral, hg.trans hgeneralIs.symm⟩

/-! ## The overrides -/

namespace Part

variable {key : Text} {table : Record}

/-- A table without an entry outside the sections says the same in its sections. -/
theorem entries_erase (hkey : ofKey key = general) {part : Part} (hpart : part ≠ general) :
    part.entries (Entries.erase key table) = part.entries table := by
  induction table with
  | nil => rfl
  | cons entry table ih =>
    rw [entries, entries, Entries.erase] at ih
    rw [entries, entries, Entries.erase, List.flatMap_cons, List.filter_cons, ← ih]
    split
    · rw [List.flatMap_cons]
    · next h =>
      have hentry : entry.1 = key := by simpa using h
      rw [hentry, hkey, if_neg hpart.symm, List.nil_append]

/-- Writing an entry outside the sections does not change what the sections say. -/
theorem entries_put (hkey : ofKey key = general) {part : Part} (hpart : part ≠ general)
    (value : Value) : part.entries (table.put key value) = part.entries table := by
  induction table with
  | nil => simp [entries, Entries.put, hkey, hpart.symm]
  | cons entry table ih =>
    obtain ⟨first, old⟩ := entry
    rw [entries, entries] at ih
    rw [Entries.put, entries, entries]
    split
    · next h =>
      rw [List.flatMap_cons, List.flatMap_cons, h, hkey, if_neg hpart.symm, if_neg hpart.symm]
    · rw [List.flatMap_cons, List.flatMap_cons, ih]

end Part

namespace Configuration

variable {overrides : Record}

/-- A switch among the overrides is on. -/
def switchedOn (switch : Text) (overrides : Record) : Bool :=
  (overrides.get? switch).any (·.holds)

/-- What the overrides say about a field.  A switch that is on says the verbosity, whatever else is
said about it, and quiet comes before verbose. -/
def overrideTells (part : Part) (field : Text) (overrides : Record) : Option Value :=
  if part = .general ∧ field = "verbosity" then
    if switchedOn "quiet" overrides then some (.text "quiet")
    else if switchedOn "verbose" overrides then some (.text "verbose")
    else part.tells field overrides
  else part.tells field overrides

theorem settleSwitch_eq (switch : Text) (overrides : Record) :
    settleSwitch switch overrides =
      if switchedOn switch overrides
        then (Entries.erase switch overrides).put "verbosity" (.text switch)
        else Entries.erase switch overrides := by
  rw [settleSwitch, switchedOn]
  cases hvalue : overrides.get? switch with
  | some value => rfl
  | none =>
    have hsame := Entries.erase_eq_self hvalue
    simp [hsame]

theorem nodup_settleSwitch (hdistinct : overrides.keys.Nodup) (switch : Text) :
    (settleSwitch switch overrides).keys.Nodup := by
  rw [settleSwitch_eq]
  split
  · exact Entries.nodup_put (Entries.nodup_erase hdistinct switch) _ _
  · exact Entries.nodup_erase hdistinct switch

/-- A switch that is on settles the verbosity; other entries stay as they are. -/
theorem get?_settleSwitch {field switch : Text} (hne : field ≠ switch) (overrides : Record) :
    Entries.get? field (settleSwitch switch overrides) =
      if field = "verbosity" ∧ switchedOn switch overrides then some (.text switch)
      else overrides.get? field := by
  rw [settleSwitch_eq]
  split
  · next hon =>
    rw [Entries.get?_put, Entries.get?_erase, if_neg hne]
    simp only [hon, and_true]
  · next hoff =>
    rw [Entries.get?_erase, if_neg hne, if_neg fun h => hoff h.2]

/-- A switch is no section. -/
theorem entries_settleSwitch {switch : Text} (hswitch : Part.ofKey switch = .general) {part : Part}
    (hpart : part ≠ .general) (overrides : Record) :
    part.entries (settleSwitch switch overrides) = part.entries overrides := by
  rw [settleSwitch_eq]
  split
  · rw [Part.entries_put (by decide) hpart, Part.entries_erase hswitch hpart]
  · exact Part.entries_erase hswitch hpart

/-- The settled overrides tell what the overrides say. -/
theorem tells_settled (hdistinct : overrides.keys.Nodup) {part : Part} {f : Field}
    (hf : f ∈ part.schema.fields) :
    part.tells f.name (settleSwitch "quiet" (settleSwitch "verbose" overrides)) =
      overrideTells part f.name overrides := by
  by_cases hpart : part = .general
  · subst hpart
    have hname := Part.ofKey_name hf
    have hnames : ∀ f ∈ Part.general.schema.fields,
        f.name ≠ String.toList "quiet" ∧ f.name ≠ String.toList "verbose" := by decide +kernel
    obtain ⟨hquiet, hverbose⟩ := hnames f hf
    have hother : switchedOn "quiet" (settleSwitch "verbose" overrides) =
        switchedOn "quiet" overrides := by
      rw [switchedOn, get?_settleSwitch (by decide), if_neg fun h => absurd h.1 (by decide)]
      rfl
    have hsettled := nodup_settleSwitch (nodup_settleSwitch hdistinct "verbose") "quiet"
    rw [Part.tells_general hsettled hname, get?_settleSwitch hquiet, get?_settleSwitch hverbose,
      hother, overrideTells, Part.tells_general hdistinct hname]
    by_cases hverbosity : f.name = "verbosity"
    · simp only [hverbosity, true_and, and_self, if_true]
    · simp only [hverbosity, false_and, and_false, if_false]
  · rw [Part.tells, entries_settleSwitch (by decide) hpart, entries_settleSwitch (by decide) hpart,
      overrideTells, if_neg fun h => hpart h.1]
    rfl

end Configuration

/-! ## All sources -/

/-- What a configuration is loaded from.  A file that is not there says nothing. -/
structure Sources where
  /-- The file in the user's own folder. -/
  home : Record
  /-- The file in the working folder. -/
  project : Record
  /-- The file that was asked for. -/
  asked : Record
  environment : Entries Text
  overrides : Record

namespace Sources

/-- The table in a file, or an empty one if the file is not there. -/
def tableAt (w : World) (path : Path) : Except LoadError Record :=
  if w.has path then w.readConfiguration path else .ok []

/-- The sources of a configuration. -/
def read (w : World) (file : Option Path) (overrides : Record) : Except LoadError Sources := do
  let home ← tableAt w (← Configuration.homePath w)
  let project ← tableAt w (Configuration.projectPath w)
  let asked ←
    match file with
    | some path => w.readConfiguration path
    | none => pure []
  pure ⟨home, project, asked, w.environment, overrides⟩

/-- What the sources say about a field, the strongest one first. -/
def sayings (s : Sources) (part : Part) (f : Field) : List (Option Value) :=
  [Configuration.overrideTells part f.name s.overrides,
    f.fromEnvironment? s.environment part.variableStart,
    part.tells f.name s.asked, part.tells f.name s.project, part.tells f.name s.home]

/-- The value of a field that the strongest source gives, or the default if none says anything. -/
def decided (s : Sources) (part : Part) (f : Field) : Value :=
  ((s.sayings part f).findSome? id).getD f.default

end Sources

namespace Configuration

variable {w : World} {m m' : Merged} {path : Path}

theorem isThere_eq_ok {b : Bool} (h : w.isThere path = .ok b) : w.has path = b := by
  rw [World.has]
  unfold World.isThere at h
  split at h
  · next tree hfind =>
    rw [hfind]
    exact Except.ok.inj h
  · next fault hfind =>
    split_ifs at h
    rw [hfind]
    exact Except.ok.inj h

theorem addIfThere_eq_ok (h : addIfThere w path m = .ok m') :
    ∃ table, Sources.tableAt w path = .ok table ∧ m.add path.toText table = .ok m' := by
  obtain ⟨there, hthere, h⟩ := Answers.bind_eq_ok h
  rw [Sources.tableAt, isThere_eq_ok hthere]
  cases there with
  | true => exact Answers.bind_eq_ok h
  | false => exact ⟨[], rfl, h⟩

theorem addRequired_eq_ok (h : addRequired w path m = .ok m') :
    ∃ table, w.readConfiguration path = .ok table ∧ m.add path.toText table = .ok m' := by
  obtain ⟨there, -, h⟩ := Answers.bind_eq_ok h
  cases there with
  | true => exact Answers.bind_eq_ok h
  | false => cases h

/-- What is merged follows the overrides first, then the environment and then the files. -/
theorem merged_follows {file : Option Path} {overrides : Record}
    (h : merged w file overrides = .ok m) :
    ∃ home project asked table,
      Sources.read w file overrides = .ok ⟨home, project, asked, w.environment, overrides⟩ ∧
      w.variables = .ok table ∧
      m.Follows [settleSwitch "quiet" (settleSwitch "verbose" overrides), table, asked, project,
        home] := by
  rw [merged] at h
  obtain ⟨homeFile, hfolder, h⟩ := Answers.bind_eq_ok h
  obtain ⟨m₁, hhome, h⟩ := Answers.bind_eq_ok h
  obtain ⟨m₂, hproject, h⟩ := Answers.bind_eq_ok h
  obtain ⟨home, hhomeRead, hhome⟩ := addIfThere_eq_ok hhome
  obtain ⟨project, hprojectRead, hproject⟩ := addIfThere_eq_ok hproject
  have hfiles := (Merged.empty_follows.add hhome).add hproject
  cases file with
  | none =>
    obtain ⟨m₃, hsame, h⟩ := Answers.bind_eq_ok h
    obtain rfl := Except.ok.inj hsame
    obtain ⟨table, hset, h⟩ := Answers.bind_eq_ok h
    obtain ⟨m₃, henvironment, h⟩ := Answers.bind_eq_ok h
    -- no file was asked for, so an empty table stands for it
    have hasked : m₂.add [] [] = .ok m₂ := rfl
    refine ⟨home, project, [], table, ?_, hset, ((hfiles.add hasked).add henvironment).add h⟩
    simp only [Sources.read, hfolder, hprojectRead, bind, Except.bind, hhomeRead]
    rfl
  | some path =>
    obtain ⟨m₃, hasked, h⟩ := Answers.bind_eq_ok h
    obtain ⟨asked, haskedRead, hasked⟩ := addRequired_eq_ok hasked
    obtain ⟨table, hset, h⟩ := Answers.bind_eq_ok h
    obtain ⟨m₄, henvironment, h⟩ := Answers.bind_eq_ok h
    refine ⟨home, project, asked, table, ?_, hset, ((hfiles.add hasked).add henvironment).add h⟩
    simp only [Sources.read, hfolder, hprojectRead, haskedRead, bind, Except.bind, hhomeRead]
    rfl

/-- A field of the merged record has what the strongest source says about it. -/
theorem get?_merged {file : Option Path} {overrides : Record} (hdistinct : overrides.keys.Nodup)
    (h : merged w file overrides = .ok m) :
    ∃ s, Sources.read w file overrides = .ok s ∧ ∀ part : Part, part.Readable s.environment ∧
      ∀ f ∈ part.schema.fields, (m.record part).get? f.name = (s.sayings part f).findSome? id := by
  obtain ⟨home, project, asked, table, hread, hset, hfollows⟩ := merged_follows h
  refine ⟨_, hread, fun part => ?_⟩
  obtain ⟨hreadable, hentries⟩ := World.variables_eq_ok hset part
  refine ⟨hreadable, fun f hf => ?_⟩
  have htells : part.tells f.name table =
      f.fromEnvironment? w.environment part.variableStart := by
    rw [Part.tells, hentries, Part.get?_ofEnvironment part w.environment hf]
  rw [hfollows, Sources.sayings]
  simp only [List.findSome?_cons, tells_settled hdistinct hf, htells, List.findSome?_nil, id]

end Configuration

end TemplateLint
