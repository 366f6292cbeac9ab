import TemplateLint.Proofs.Settings.Sources

/-!
# What a loaded configuration holds

A record is filled with what was given and with the defaults, and the fields for names are made
lists one after another (`Record.Settled`).  So a field of a configuration that was loaded has the
value that the strongest source gives it, whatever the sources say about other fields
(`Configuration.load_lastWriter`).
-/
namespace TemplateLint

/-- The value that a field keeps of a value that is given for it: names are kept as a list. -/
def Field.settle (f : Field) (v : Value) : Except Refusal Value :=
  if f.kind = .names then v.items.map .list else .ok v

/-- The value that is given for a field, or its default. -/
def Record.orDefault (r : Record) (f : Field) : Value := (r.get? f.name).getD f.default

namespace Record

variable {s : Schema} {given r r' : Record} {done : List Text}

/-- A record holds what was given for the fields, some of them made lists. -/
def Settled (s : Schema) (given : Record) (done : List Text) (r : Record) : Prop :=
  ∀ f ∈ s.fields,
    (if f.name ∈ done then (given.orDefault f).items.map .list else .ok (given.orDefault f)) =
      .ok (r.value f.name)

theorem fill_settled (hnames : (s.fields.map (·.name)).Nodup) (h : s.fill given = .ok r) :
    Settled s given [] r := by
  intro f hf
  rw [Schema.fill] at h
  split at h
  · cases h
  · obtain rfl := Except.ok.inj h
    have hall : (s.fields.map fun g => (g.name, given.orDefault g)) =
        s.fields.filterMap fun g => (some (given.orDefault g)).map (g.name, ·) := by
      rw [← List.filterMap_eq_map]
      rfl
    have hfound := Schema.get?_filterMap hnames (fun g => some (given.orDefault g)) hf
    rw [← hall] at hfound
    rw [if_neg List.not_mem_nil, value]
    exact congrArg (fun found => Except.ok (found.getD Value.null)) hfound.symm

/-- Making a field a list settles it and leaves the others as they are. -/
theorem Settled.listed {field : Text} (hr : Settled s given done r) (hnew : field ∉ done)
    (h : r.listed field = .ok r') : Settled s given (field :: done) r' := by
  obtain ⟨items, hitems, h⟩ := Answers.bind_eq_ok h
  obtain rfl := Except.ok.inj h
  intro f hf
  have hvalue := hr f hf
  rw [value, Entries.get?_put]
  by_cases hname : f.name = field
  · rw [hname, if_neg hnew] at hvalue
    rw [if_pos hname, if_pos (hname ▸ List.mem_cons_self), Except.ok.inj hvalue, hitems]
    rfl
  · have hmem : f.name ∈ field :: done ↔ f.name ∈ done := by simp [hname]
    rw [if_neg hname]
    simp only [hmem]
    exact hvalue

theorem listed_of_listedNames {field : Text} (h : r.listedNames field = .ok r') :
    r.listed field = .ok r' := by
  rw [listedNames] at h
  split at h
  · cases h
  · exact h

/-- If the fields for names were made lists, every field is settled. -/
theorem Settled.settle (hr : Settled s given done r)
    (hdone : ∀ f ∈ s.fields, f.name ∈ done ↔ f.kind = .names) {f : Field} (hf : f ∈ s.fields) :
    f.settle (given.orDefault f) = .ok (r.value f.name) := by
  rw [Field.settle, ← hr f hf]
  simp only [hdone f hf]

theorem policy_settle (h : policy given = .ok r) {f : Field} (hf : f ∈ Schema.policy.fields) :
    f.settle (given.orDefault f) = .ok (r.value f.name) := by
  obtain ⟨r₁, hfill, h⟩ := Answers.bind_eq_ok h
  obtain ⟨r₂, haccessors, h⟩ := Answers.bind_eq_ok h
  obtain ⟨r₃, hnamespaces, h⟩ := Answers.bind_eq_ok h
  obtain ⟨r₄, hmodifiers, h⟩ := Answers.bind_eq_ok h
  obtain ⟨-, -, h⟩ := Answers.bind_eq_ok h
  obtain rfl := Except.ok.inj h
  have hfilled := fill_settled (Part.nodup_names .policy) hfill
  have hlisted := ((hfilled.listed List.not_mem_nil (listed_of_listedNames haccessors)).listed
    (by decide) (listed_of_listedNames hnamespaces)).listed (by decide)
    (listed_of_listedNames hmodifiers)
  exact hlisted.settle (by decide +kernel) hf

theorem heuristics_settle {room : Room} (h : heuristicsWithin room given = .ok r) {f : Field}
    (hf : f ∈ Schema.heuristics.fields) :
    f.settle (given.orDefault f) = .ok (r.value f.name) := by
  obtain ⟨r₁, hfill, h⟩ := Answers.bind_eq_ok h
  obtain ⟨r₂, hrelationships, h⟩ := Answers.bind_eq_ok h
  obtain ⟨r₃, hmarkers, h⟩ := Answers.bind_eq_ok h
  -- the checks that follow leave the record as it is
  obtain ⟨-, -, h⟩ := Answers.bind_eq_ok h
  obtain ⟨-, -, h⟩ := Answers.bind_eq_ok h
  obtain ⟨-, -, h⟩ := Answers.bind_eq_ok h
  obtain ⟨-, -, h⟩ := Answers.bind_eq_ok h
  obtain ⟨-, -, h⟩ := Answers.bind_eq_ok h
  obtain rfl := Except.ok.inj h
  have hfilled := fill_settled (Part.nodup_names .heuristics) hfill
  have hlisted := (hfilled.listed List.not_mem_nil hrelationships).listed (by decide) hmarkers
  exact hlisted.settle (by decide +kernel) hf

theorem general_settle (h : general given = .ok r) {f : Field}
    (hf : f ∈ Schema.general.fields) :
    f.settle (given.orDefault f) = .ok (r.value f.name) := by
  obtain ⟨r₁, hfill, h⟩ := Answers.bind_eq_ok h
  obtain ⟨r₂, hsuffixes, h⟩ := Answers.bind_eq_ok h
  obtain ⟨r₃, hfolders, h⟩ := Answers.bind_eq_ok h
  -- the checks that follow leave the record as it is
  obtain ⟨-, -, h⟩ := Answers.bind_eq_ok h
  obtain ⟨-, -, h⟩ := Answers.bind_eq_ok h
  obtain ⟨-, -, h⟩ := Answers.bind_eq_ok h
  obtain ⟨-, -, h⟩ := Answers.bind_eq_ok h
  obtain rfl := Except.ok.inj h
  have hfilled := fill_settled (Part.nodup_names .general) hfill
  have hlisted := (hfilled.listed List.not_mem_nil hsuffixes).listed (by decide) hfolders
  exact hlisted.settle (by decide +kernel) hf

end Record

/-- The record of a part. -/
def Configuration.record (c : Configuration) : Part → Record
  | .policy => c.policy
  | .heuristics => c.heuristics
  | .general => c.general

/-- The sources decide a configuration: the variables that are set can be read, and every field has
the settled value that was decided. -/
structure Sources.Decides (s : Sources) (c : Configuration) : Prop where
  readable : ∀ part : Part, part.Readable s.environment
  value : ∀ part : Part, ∀ f ∈ part.schema.fields,
    f.settle (s.decided part f) = .ok ((c.record part).value f.name)

namespace Configuration

variable {w : World} {file : Option Path} {overrides : Record} {c : Configuration}

/-- A configuration that was loaded is built from what was merged. -/
theorem load_eq_ok (h : load w file overrides none none = .ok c) :
    ∃ m, merged w file overrides = .ok m ∧ Record.policy m.policy = .ok c.policy ∧
      Record.heuristicsWithin w.room m.heuristics = .ok c.heuristics ∧
      Record.general m.general = .ok c.general := by
  obtain ⟨m, hmerged, h⟩ := Answers.bind_eq_ok h
  refine ⟨m, hmerged, ?_⟩
  have hbuild := Answers.mapError_eq_ok h
  obtain ⟨policy, hpolicy, hbuild⟩ := Answers.bind_eq_ok hbuild
  obtain ⟨heuristics, hheuristics, hbuild⟩ := Answers.bind_eq_ok hbuild
  obtain ⟨general, hgeneral, hbuild⟩ := Answers.bind_eq_ok hbuild
  obtain rfl := Except.ok.inj hbuild
  exact ⟨hpolicy, hheuristics, hgeneral⟩

/-- Every field of a configuration that was loaded holds the settled value of what was merged. -/
theorem load_settle (h : load w file overrides none none = .ok c) :
    ∃ m, merged w file overrides = .ok m ∧ ∀ part : Part, ∀ f ∈ part.schema.fields,
      f.settle ((m.record part).orDefault f) = .ok ((c.record part).value f.name) := by
  obtain ⟨m, hmerged, hpolicy, hheuristics, hgeneral⟩ := load_eq_ok h
  refine ⟨m, hmerged, fun part f hf => ?_⟩
  cases part with
  | policy => exact Record.policy_settle hpolicy hf
  | heuristics => exact Record.heuristics_settle hheuristics hf
  | general => exact Record.general_settle hgeneral hf

/-- The strongest source decides each field of a configuration that was loaded. -/
theorem load_decided (hdistinct : overrides.keys.Nodup)
    (h : load w file overrides none none = .ok c) :
    ∃ s, Sources.read w file overrides = .ok s ∧ s.Decides c := by
  obtain ⟨m, hmerged, hsettle⟩ := load_settle h
  obtain ⟨s, hread, hs⟩ := get?_merged hdistinct hmerged
  refine ⟨s, hread, fun part => (hs part).1, fun part f hf => ?_⟩
  have hdecided : s.decided part f = (m.record part).orDefault f := by
    rw [Record.orDefault, (hs part).2 f hf]
    rfl
  rw [hdecided]
  exact hsettle part f hf

/-- **The strongest source wins, field by field.**  Every field of a configuration that was loaded
holds the settled value that the strongest source gives it, or its default if no source says
anything about it: the overrides come before the environment, then come the file that was asked for,
the file in the working folder and the file in the user's own folder.  Another configuration whose
sources say the same about a field holds the same value of it, whatever they say about other
fields. -/
theorem load_lastWriter (hdistinct : overrides.keys.Nodup)
    (h : load w file overrides none none = .ok c) :
    ∃ s, Sources.read w file overrides = .ok s ∧ s.Decides c ∧
      ∀ (w' : World) (file' : Option Path) (overrides' : Record) (s' : Sources) (c' : Configuration),
        overrides'.keys.Nodup → Sources.read w' file' overrides' = .ok s' →
        load w' file' overrides' none none = .ok c' →
        ∀ part : Part, ∀ f ∈ part.schema.fields, s'.sayings part f = s.sayings part f →
          (c'.record part).value f.name = (c.record part).value f.name := by
  obtain ⟨s, hread, hdecides⟩ := load_decided hdistinct h
  refine ⟨s, hread, hdecides, ?_⟩
  intro w' file' overrides' s' c' hdistinct' hread' h' part f hf hsame
  obtain ⟨t, ht, hdecides'⟩ := load_decided hdistinct' h'
  obtain rfl := Except.ok.inj (ht.symm.trans hread')
  have hdecided : t.decided part f = s.decided part f := by
    rw [Sources.decided, Sources.decided, hsame]
  have hvalue := hdecides'.value part f hf
  rw [hdecided, hdecides.value part f hf] at hvalue
  exact (Except.ok.inj hvalue).symm

/-- Files in all three places, and a variable. -/
def layeredWorld : World where
  tree := .folder
    [("home", .folder [(".viewlint.toml",
      .file ("verbosity = \"quiet\"\n[policy]\nprefer_tags = false\n".toUTF8).toList)]),
    ("work", .folder [
      ("viewlint.toml", .file ("[policy]\nforbidden_accessors = [\"DB\"]\n".toUTF8).toList),
      ("ci.toml", .file ("[heuristics]\npagination_threshold = 75\n".toUTF8).toList)])]
  here := .ofText "/work"
  home := some (.ofText "/home")
  environment := [("VIEWLINT_POLICY_PREFER_TAGS", "yes")]

theorem load_lastWriter_layered :
    ∃ c, load layeredWorld (some (.ofText "ci.toml")) [("verbose", .flag true)] none none = .ok c ∧
      c.policy.value "prefer_tags" = .flag true ∧
      c.policy.value "forbidden_accessors" = .list [.text "DB"] ∧
      c.heuristics.value "pagination_threshold" = 75 ∧
      c.general.value "verbosity" = .text "verbose" ∧
      ∃ s, Sources.read layeredWorld (some (.ofText "ci.toml")) [("verbose", .flag true)] = .ok s ∧
        s.Decides c := by
  have hvalues : ((load layeredWorld (some (.ofText "ci.toml")) [("verbose", .flag true)] none
      none).toOption.map fun c => (c.policy.value "prefer_tags",
        c.policy.value "forbidden_accessors", c.heuristics.value "pagination_threshold",
        c.general.value "verbosity")) =
      some (.flag true, .list [.text "DB"], 75, .text "verbose") := by decide +kernel
  cases hload : load layeredWorld (some (.ofText "ci.toml")) [("verbose", .flag true)] none none with
  | error e =>
    rw [hload] at hvalues
    cases hvalues
  | ok c =>
    rw [hload] at hvalues
    simp only [Except.toOption, Option.map_some, Option.some.injEq, Prod.mk.injEq] at hvalues
    obtain ⟨s, hread, hdecides, -⟩ := load_lastWriter (by decide) hload
    exact ⟨c, rfl, hvalues.1, hvalues.2.1, hvalues.2.2.1, hvalues.2.2.2, s, hread, hdecides⟩

end Configuration

end TemplateLint
