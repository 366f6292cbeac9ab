import TemplateLint.Proofs.Settings.Loading

/-!
# Configurations that may be used

A record that was examined holds the fields of its schema, and their values have passed every check
(`Record.IsPolicy`, `Record.IsHeuristics`, `Record.IsGeneral`).  A configuration that was loaded is made
of three such records, whatever its sources say (`Configuration.load_isAccepted`).
-/
namespace TemplateLint

namespace Answers

variable {ε α : Type} {check : α → Except ε Unit} {values : List α}

/-- Checks that come one after another have passed if each has. -/
theorem forM_eq_ok_iff : values.forM check = .ok () ↔ ∀ v ∈ values, check v = .ok () := by
  induction values with
  | nil => exact iff_of_true rfl (List.forall_mem_nil _)
  | cons v values ih =>
    rw [List.forall_mem_cons, ← ih]
    constructor
    · intro h
      obtain ⟨⟨⟩, hfirst, hrest⟩ := bind_eq_ok (h : (check v >>= fun _ => values.forM check) = _)
      exact ⟨hfirst, hrest⟩
    · rintro ⟨hfirst, hrest⟩
      show (check v >>= fun _ => values.forM check) = _
      rw [hfirst]
      exact hrest

end Answers

namespace Record

variable {s : Schema} {given r r' : Record} {field : Text}

/-! ## Fields -/

theorem fill_keys (h : s.fill given = .ok r) : r.keys = s.fields.map (·.name) := by
  rw [Schema.fill] at h
  split at h
  · cases h
  · obtain rfl := Except.ok.inj h
    show List.map _ (List.map _ _) = _
    rw [List.map_map]
    rfl

/-- Making a field a list does not change which fields there are. -/
theorem listed_keys (h : r.listed field = .ok r') (hfield : field ∈ r.keys) : r'.keys = r.keys := by
  obtain ⟨items, -, h⟩ := Answers.bind_eq_ok h
  obtain rfl := Except.ok.inj h
  rw [Entries.keys_put, if_pos hfield]

/-- A field for names holds a list. -/
theorem exists_list_of_settle {f : Field} (hkind : f.kind = .names) {v settled : Value}
    (h : f.settle v = .ok settled) : ∃ values, settled = .list values := by
  rw [Field.settle, if_pos hkind] at h
  cases hitems : v.items with
  | error e =>
    rw [hitems] at h
    cases h
  | ok values =>
    rw [hitems] at h
    exact ⟨values, (Except.ok.inj h).symm⟩

theorem listValues_eq {values : List Value} (h : r.value field = .list values) :
    r.listValues field = values := by
  rw [listValues, h]

/-- Values that are all texts of a kind make a list of names. -/
theorem exists_names {P : Text → Prop} {values : List Value}
    (h : ∀ v ∈ values, ∃ name, v = .text name ∧ P name) :
    ∃ names : List Text, values = names.map .text ∧ ∀ name ∈ names, P name := by
  induction values with
  | nil => exact ⟨[], rfl, List.forall_mem_nil _⟩
  | cons v values ih =>
    obtain ⟨⟨name, rfl, hname⟩, hrest⟩ := List.forall_mem_cons.mp h
    obtain ⟨names, rfl, hnames⟩ := ih hrest
    exact ⟨name :: names, rfl, List.forall_mem_cons.mpr ⟨hname, hnames⟩⟩

/-! ## Policies -/

/-- A name that may be forbidden: letters, numerals and underscores, not underscores alone. -/
def IsAccessor (name : Text) : Prop :=
  (∃ c ∈ name, c ≠ '_') ∧ ∀ c ∈ name, c ≠ '_' → isAlphanumeric c = true

/-- A record that is a policy: every forbidden accessor is a name. -/
structure IsPolicy (r : Record) : Prop where
  fields : r.keys = Schema.policy.fields.map (·.name)
  accessors : ∃ names, r.value "forbidden_accessors" = .names names ∧ ∀ name ∈ names, IsAccessor name
  namespaces : ∃ values, r.value "known_tag_namespaces" = .list values
  modifiers : ∃ values, r.value "known_modifiers" = .list values

theorem isAccessorName_iff {name : Text} :
    Policy.isAccessorName name = true ↔ IsAccessor name := by
  rw [Policy.isAccessorName, IsAccessor, Bool.and_eq_true]
  refine and_congr ?_ ?_
  · simp [List.filter_eq_nil_iff]
  · simp only [List.all_eq_true, List.mem_filter, and_imp, bne_iff_ne]

theorem checkAccessor_eq_ok_iff {v : Value} :
    checkAccessor v = .ok () ↔ ∃ name, v = .text name ∧ IsAccessor name := by
  constructor
  · intro h
    unfold checkAccessor at h
    split at h
    · cases h
    · split at h
      · next name _ =>
        split at h
        · next hname => exact ⟨name, rfl, isAccessorName_iff.mp hname⟩
        · cases h
      · cases h
      · cases h
  · rintro ⟨name, rfl, hname⟩
    -- a name has a character
    have hholds : (Value.text name).holds = true := by
      obtain ⟨c, hc, -⟩ := hname.1
      cases name with
      | nil => cases hc
      | cons d rest => rfl
    rw [checkAccessor, hholds]
    exact if_pos (isAccessorName_iff.mpr hname)

/-- A field of a schema for names holds a list in a record that was examined. -/
theorem exists_list {names : List Text}
    (hsettle : ∀ f ∈ s.fields, f.settle (given.orDefault f) = .ok (r.value f.name))
    (hnames : (s.fields.filter fun f => f.kind = .names).map (·.name) = names) (hfield : field ∈ names) :
    ∃ values, r.value field = .list values := by
  rw [← hnames] at hfield
  obtain ⟨f, hf, rfl⟩ := List.mem_map.mp hfield
  obtain ⟨hf, hkind⟩ := List.mem_filter.mp hf
  exact exists_list_of_settle (of_decide_eq_true hkind) (hsettle f hf)

theorem policy_isPolicy (h : policy given = .ok r) : r.IsPolicy := by
  have hlists : ∀ field ∈ [String.toList "forbidden_accessors", "known_tag_namespaces",
      "known_modifiers"], ∃ values, r.value field = .list values := fun field hfield =>
    exists_list (fun f hf => policy_settle h hf) (by decide +kernel) hfield
  obtain ⟨r₁, hfill, h⟩ := Answers.bind_eq_ok h
  obtain ⟨r₂, haccessors, h⟩ := Answers.bind_eq_ok h
  obtain ⟨r₃, hnamespaces, h⟩ := Answers.bind_eq_ok h
  obtain ⟨r₄, hmodifiers, h⟩ := Answers.bind_eq_ok h
  obtain ⟨⟨⟩, hcheck, h⟩ := Answers.bind_eq_ok h
  obtain rfl := Except.ok.inj h
  refine ⟨?_, ?_, hlists _ (by decide), hlists _ (by decide)⟩
  · have hkeys₁ := fill_keys hfill
    have hkeys₂ := listed_keys (listed_of_listedNames haccessors) (by rw [hkeys₁]; decide)
    have hkeys₃ := listed_keys (listed_of_listedNames hnamespaces) (by rw [hkeys₂, hkeys₁]; decide)
    rw [listed_keys (listed_of_listedNames hmodifiers) (by rw [hkeys₃, hkeys₂, hkeys₁]; decide),
      hkeys₃, hkeys₂, hkeys₁]
  · obtain ⟨values, hvalues⟩ := hlists "forbidden_accessors" (by decide)
    rw [listValues_eq hvalues, Answers.forM_eq_ok_iff] at hcheck
    obtain ⟨names, rfl, hnames⟩ := exists_names fun v hv => checkAccessor_eq_ok_iff.mp (hcheck v hv)
    exact ⟨names, hvalues, hnames⟩

/-! ## Heuristics -/

/-- A record that is heuristics: no weight is negative, and no threshold is above a later one. -/
structure IsHeuristics (r : Record) : Prop where
  fields : r.keys = Schema.heuristics.fields.map (·.name)
  relationshipNames : ∃ first more, r.value "relationship_names" = .list (first :: more)
  eagerLoadMarkers : ∃ values, r.value "eager_load_markers" = .list values
  divisor : ∃ n, (r.value "score_line_divisor").toNumber? = some n ∧ n.le 0 = false
  weights : ∀ field ∈ weightFields, ∃ n, (r.value field).toNumber? = some n ∧ n.lt 0 = false
  renderTimes : (r.value "very_slow_render_ms").less (r.value "slow_render_ms") = .ok false
  caps : (r.value "memory_limit_threshold").less (r.value "pagination_threshold") = .ok false

theorem checkPositive_eq_ok (h : r.checkPositive field = .ok ()) :
    ∃ n, (r.value field).toNumber? = some n ∧ n.le 0 = false := by
  obtain ⟨small, hsmall, h⟩ := Answers.bind_eq_ok h
  rw [Value.atMostZero] at hsmall
  split at hsmall
  · next n hn =>
    obtain rfl := Except.ok.inj hsmall
    refine ⟨n, hn, ?_⟩
    cases hle : n.le 0 with
    | false => rfl
    | true =>
      rw [hle] at h
      cases h
  · cases hsmall

theorem checkWeight_eq_ok (h : r.checkWeight field = .ok ()) :
    ∃ n, (r.value field).toNumber? = some n ∧ n.lt 0 = false := by
  obtain ⟨less, hless, h⟩ := Answers.bind_eq_ok h
  have hnumber : ∀ v : Value, v.less (.number 0) = .ok less →
      ∃ n, v.toNumber? = some n ∧ n.lt 0 = less := by
    intro v hv
    cases v with
    | number n => exact ⟨n, rfl, Except.ok.inj hv⟩
    | flag b => exact ⟨_, rfl, Except.ok.inj hv⟩
    | _ => cases hv
  cases less with
  | false => exact hnumber _ hless
  | true => cases h

/-- A comparison that there is room for is told. -/
theorem lessWithin_eq_ok {room : Room} {x y : Value} {b : Bool} (h : x.lessWithin room y = .ok b) :
    x.less y = .ok b := by
  rw [Value.lessWithin] at h
  split at h
  · cases h
  · exact h

theorem checkOrder_eq_ok {room : Room} {greater lesser : Text}
    (h : r.checkOrder room greater lesser = .ok ()) :
    (r.value greater).less (r.value lesser) = .ok false := by
  obtain ⟨less, hless, h⟩ := Answers.bind_eq_ok h
  cases less with
  | false => exact lessWithin_eq_ok hless
  | true => cases h

theorem checkEntries_eq_ok (h : r.checkEntries field = .ok ()) :
    ∃ first more, r.value field = .list (first :: more) := by
  rw [checkEntries, listValues] at h
  split at h
  · next values hvalues =>
    cases values with
    | nil => cases h
    | cons first more => exact ⟨first, more, hvalues⟩
  · cases h

theorem heuristics_isHeuristics {room : Room} (h : heuristicsWithin room given = .ok r) :
    r.IsHeuristics := by
  have hlists : ∀ field ∈ [String.toList "relationship_names", "eager_load_markers"],
      ∃ values, r.value field = .list values := fun field hfield =>
    exists_list (fun f hf => heuristics_settle h hf) (by decide +kernel) hfield
  obtain ⟨r₁, hfill, h⟩ := Answers.bind_eq_ok h
  obtain ⟨r₂, hrelationships, h⟩ := Answers.bind_eq_ok h
  obtain ⟨r₃, hmarkers, h⟩ := Answers.bind_eq_ok h
  obtain ⟨⟨⟩, hdivisor, h⟩ := Answers.bind_eq_ok h
  obtain ⟨⟨⟩, hweights, h⟩ := Answers.bind_eq_ok h
  obtain ⟨⟨⟩, htimes, h⟩ := Answers.bind_eq_ok h
  obtain ⟨⟨⟩, hcaps, h⟩ := Answers.bind_eq_ok h
  obtain ⟨⟨⟩, hentries, h⟩ := Answers.bind_eq_ok h
  obtain rfl := Except.ok.inj h
  refine ⟨?_, checkEntries_eq_ok hentries, hlists _ (by decide), checkPositive_eq_ok hdivisor,
    fun field hfield => ?_, checkOrder_eq_ok htimes, checkOrder_eq_ok hcaps⟩
  · have hkeys₁ := fill_keys hfill
    have hkeys₂ := listed_keys hrelationships (by rw [hkeys₁]; decide)
    rw [listed_keys hmarkers (by rw [hkeys₂, hkeys₁]; decide), hkeys₂, hkeys₁]
  · exact checkWeight_eq_ok (Answers.forM_eq_ok_iff.mp hweights field hfield)

/-! ## General settings -/

/-- A record of general settings: every suffix starts with a dot, and the largest size is above
zero. -/
structure IsGeneral (r : Record) : Prop where
  fields : r.keys = Schema.general.fields.map (·.name)
  suffixes : ∃ first more, r.value "template_suffixes" = .names (first :: more) ∧
    ∀ suffix ∈ first :: more, suffix.head? = some '.'
  folders : ∃ values, r.value "skip_dirs" = .list values
  size : ∃ n, (r.value "max_file_size_mb").toNumber? = some n ∧ n.le 0 = false
  verbosity : ∃ word ∈ verbosities, r.value "verbosity" = .text word

theorem checkSuffix_eq_ok_iff {v : Value} :
    checkSuffix v = .ok () ↔ ∃ suffix, v = .text suffix ∧ suffix.head? = some '.' := by
  constructor
  · intro h
    unfold checkSuffix at h
    split at h
    · next rest => exact ⟨'.' :: rest, rfl, rfl⟩
    · cases h
    · cases h
  · rintro ⟨suffix, rfl, hdot⟩
    obtain ⟨rest, rfl⟩ := List.head?_eq_some_iff.mp hdot
    rfl

theorem checkVerbosity_eq_ok {v : Value} (h : checkVerbosity v = .ok ()) :
    ∃ word ∈ verbosities, v = .text word := by
  unfold checkVerbosity at h
  split at h
  · next hword =>
    obtain ⟨word, hword, hmem⟩ := (Option.any_eq_true _ _).mp hword
    cases v with
    | text t =>
      obtain rfl := Option.some.inj hword
      exact ⟨t, of_decide_eq_true hmem, rfl⟩
    | _ => cases hword
  · cases h

theorem general_isGeneral (h : general given = .ok r) : r.IsGeneral := by
  have hlists : ∀ field ∈ [String.toList "template_suffixes", "skip_dirs"],
      ∃ values, r.value field = .list values := fun field hfield =>
    exists_list (fun f hf => general_settle h hf) (by decide +kernel) hfield
  obtain ⟨r₁, hfill, h⟩ := Answers.bind_eq_ok h
  obtain ⟨r₂, hsuffixes, h⟩ := Answers.bind_eq_ok h
  obtain ⟨r₃, hfolders, h⟩ := Answers.bind_eq_ok h
  obtain ⟨⟨⟩, hentries, h⟩ := Answers.bind_eq_ok h
  obtain ⟨⟨⟩, hcheck, h⟩ := Answers.bind_eq_ok h
  obtain ⟨⟨⟩, hsize, h⟩ := Answers.bind_eq_ok h
  obtain ⟨⟨⟩, hverbosity, h⟩ := Answers.bind_eq_ok h
  obtain rfl := Except.ok.inj h
  refine ⟨?_, ?_, hlists _ (by decide), checkPositive_eq_ok hsize, checkVerbosity_eq_ok hverbosity⟩
  · have hkeys₁ := fill_keys hfill
    have hkeys₂ := listed_keys hsuffixes (by rw [hkeys₁]; decide)
    rw [listed_keys hfolders (by rw [hkeys₂, hkeys₁]; decide), hkeys₂, hkeys₁]
  · obtain ⟨v, values, hvalues⟩ := checkEntries_eq_ok hentries
    rw [listValues_eq hvalues, Answers.forM_eq_ok_iff] at hcheck
    obtain ⟨suffixes, heq, hdots⟩ :=
      exists_names fun u hu => checkSuffix_eq_ok_iff.mp (hcheck u hu)
    cases suffixes with
    | nil => cases heq
    | cons first more =>
      refine ⟨first, more, ?_, hdots⟩
      rw [hvalues, heq]
      rfl

end Record

/-! ## Configurations -/

namespace Configuration

/-- A configuration that may be used: its three records have passed every check. -/
structure IsAccepted (c : Configuration) : Prop where
  policy : c.policy.IsPolicy
  heuristics : c.heuristics.IsHeuristics
  general : c.general.IsGeneral

/-- A configuration that was loaded may be used. -/
theorem load_isAccepted {w : World} {file : Option Path} {overrides : Record} {c : Configuration}
    (h : load w file overrides none none = .ok c) : c.IsAccepted := by
  obtain ⟨m, -, hpolicy, hheuristics, hgeneral⟩ := load_eq_ok h
  exact ⟨Record.policy_isPolicy hpolicy, Record.heuristics_isHeuristics hheuristics,
    Record.general_isGeneral hgeneral⟩

end Configuration

end TemplateLint
