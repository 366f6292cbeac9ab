import TemplateLint.Proofs.Answers
import TemplateLint.Proofs.Entries
import TemplateLint.Settings.Load

/-!
# What the sources say about a field

A source is a table.  It says something about fields of the three parts of a configuration: about
those of the policy and of the heuristics in its sections, about the others outside of them
(`Part.tells_general`).  Adding a source to what is known writes what it says about a part into the
record of the part (`Merged.add_record`), so a field of the record has what the source added last says
about it (`Merged.Follows`).
-/
namespace TemplateLint

/-- The parts of a configuration. -/
inductive Part where
  | policy
  | heuristics
  | general
deriving DecidableEq

namespace Part

/-- The fields of a part. -/
def schema : Part → Schema
  | policy => .policy
  | heuristics => .heuristics
  | general => .general

/-- How the variables for the fields of a part start. -/
def variableStart : Part → Text
  | policy => "VIEWLINT_POLICY_"
  | heuristics => "VIEWLINT_HEURISTICS_"
  | general => "VIEWLINT_"

/-- The part that an entry of a table is about. -/
def ofKey (key : Text) : Part :=
  if key = Merged.policySection then policy
  else if key = Merged.heuristicsSection then heuristics
  else general

/-- What an entry of a table says about the part that it is about: a section says what stands in
it, any other entry says itself. -/
def said (entry : Text × Value) : Record :=
  match ofKey entry.1, entry.2 with
  | general, _ => [entry]
  | _, .table inner => inner
  | _, _ => []

/-- What a table says about a part, in the order in which it says it. -/
def entries (part : Part) (table : Record) : Record :=
  table.flatMap fun entry => if ofKey entry.1 = part then said entry else []

/-- What a table says about a field of a part. -/
def tells (part : Part) (field : Text) (table : Record) : Option Value :=
  Entries.get? field (part.entries table).reverse

end Part

/-! ## What a table says -/

namespace Part

variable {table : Record}

/-- The general entries of a table are those outside the sections. -/
theorem entries_general (table : Record) :
    general.entries table = table.filter fun e => ofKey e.1 = general := by
  induction table with
  | nil => rfl
  | cons entry table ih =>
    rw [entries] at ih
    rw [entries, List.flatMap_cons, ih, List.filter_cons]
    by_cases h : ofKey entry.1 = general
    · have hsaid : said entry = [entry] := by rw [said, h]
      simp [h, hsaid]
    · simp [h]

/-- What a table says about a general field stands in it under the name of the field. -/
theorem tells_general (hdistinct : table.keys.Nodup) {field : Text}
    (hfield : ofKey field = general) : general.tells field table = table.get? field := by
  rw [tells, entries_general]
  have hkept : (Entries.keys (table.filter fun e => ofKey e.1 = general)).Nodup :=
    hdistinct.sublist (List.filter_sublist.map _)
  rw [Entries.get?_reverse hkept, Entries.get?_filter fun key => decide (ofKey key = general)]
  exact if_pos (decide_eq_true hfield)

theorem ofKey_eq_policy {key : Text} : ofKey key = policy ↔ key = Merged.policySection := by
  rw [ofKey]
  split
  · next h => exact ⟨fun _ => h, fun _ => rfl⟩
  · next h =>
    refine ⟨fun hkey => ?_, fun hkey => absurd hkey h⟩
    split at hkey
    · cases hkey
    · cases hkey

theorem ofKey_eq_heuristics {key : Text} :
    ofKey key = heuristics ↔ key = Merged.heuristicsSection := by
  have hother : Merged.heuristicsSection ≠ Merged.policySection := by decide
  rw [ofKey]
  split
  · next h =>
    refine ⟨fun hkey => ?_, fun hkey => absurd (hkey.symm.trans h) hother⟩
    cases hkey
  · next =>
    split
    · next h => exact ⟨fun _ => h, fun _ => rfl⟩
    · next h =>
      refine ⟨fun hkey => ?_, fun hkey => absurd hkey h⟩
      cases hkey

end Part

/-! ## One source after another -/

/-- The record of a part. -/
def Merged.record (m : Merged) : Part → Record
  | .policy => m.policy
  | .heuristics => m.heuristics
  | .general => m.general

namespace Merged

variable {m m' : Merged} {origin : Text}

theorem entriesOf_map_eq_ok {name : Text} {v : Value} {change : Record → Merged}
    (h : (entriesOf name origin v).map change = .ok m') : ∃ r, v = .table r ∧ m' = change r := by
  cases v with
  | table inner => exact ⟨inner, rfl, (Except.ok.inj h).symm⟩
  | null => cases h
  | flag b => cases h
  | number n => cases h
  | text t => cases h
  | moment k p => cases h
  | list values => cases h

/-- A section is written into its record, any other entry into the general one. -/
theorem write_cases {key : Text} {v : Value} (h : write origin m (key, v) = .ok m') :
    (Part.ofKey key = .policy ∧
      ∃ r, v = .table r ∧ m' = { m with policy := m.policy.putAll r }) ∨
    (Part.ofKey key = .heuristics ∧
      ∃ r, v = .table r ∧ m' = { m with heuristics := m.heuristics.putAll r }) ∨
    (Part.ofKey key = .general ∧ m' = { m with general := m.general.put key v }) := by
  rw [write] at h
  by_cases hpolicy : key = policySection
  · rw [if_pos hpolicy] at h
    exact Or.inl ⟨Part.ofKey_eq_policy.mpr hpolicy, entriesOf_map_eq_ok h⟩
  · rw [if_neg hpolicy] at h
    by_cases hheuristics : key = heuristicsSection
    · rw [if_pos hheuristics] at h
      exact Or.inr (Or.inl ⟨Part.ofKey_eq_heuristics.mpr hheuristics, entriesOf_map_eq_ok h⟩)
    · rw [if_neg hheuristics] at h
      have hkey : Part.ofKey key = .general := by
        rw [Part.ofKey, if_neg hpolicy, if_neg hheuristics]
      exact Or.inr (Or.inr ⟨hkey, (Except.ok.inj h).symm⟩)

/-- An entry of a source changes the part that it is about. -/
theorem write_record {entry : Text × Value} (h : write origin m entry = .ok m') (part : Part) :
    m'.record part = (m.record part).putAll
      (if Part.ofKey entry.1 = part then Part.said entry else []) := by
  obtain ⟨key, v⟩ := entry
  obtain ⟨hkey, r, rfl, rfl⟩ | ⟨hkey, r, rfl, rfl⟩ | ⟨hkey, rfl⟩ := write_cases h
  · cases part <;> simp [record, Part.said, hkey, Entries.putAll]
  · cases part <;> simp [record, Part.said, hkey, Entries.putAll]
  · cases part <;> simp [record, Part.said, hkey, Entries.putAll]

/-- A source changes every part by what it says about it. -/
theorem add_record {source : Record} (h : m.add origin source = .ok m') (part : Part) :
    m'.record part = (m.record part).putAll (part.entries source) := by
  induction source generalizing m with
  | nil =>
    cases h
    rfl
  | cons entry source ih =>
    rw [add, List.foldlM_cons] at h
    obtain ⟨m₁, hentry, hrest⟩ := Answers.bind_eq_ok h
    rw [ih hrest, write_record hentry, Part.entries, Part.entries, List.flatMap_cons,
      Entries.putAll, Entries.putAll, Entries.putAll, List.foldl_append]

/-- Every field has what the first of some tables that says something about it says. -/
def Follows (m : Merged) (tables : List Record) : Prop :=
  ∀ (part : Part) (field : Text),
    (m.record part).get? field = tables.findSome? (part.tells field)

theorem empty_follows : empty.Follows [] := by
  intro part field
  cases part <;> rfl

/-- A source comes before the ones that were added before it. -/
theorem Follows.add {tables : List Record} (hm : m.Follows tables) {source : Record}
    (h : m.add origin source = .ok m') : m'.Follows (source :: tables) := by
  intro part field
  have hwritten : (m'.record part).get? field =
      (part.tells field source).or ((m.record part).get? field) := by
    rw [add_record h, Entries.get?_putAll]
    rfl
  rw [hwritten, hm, List.findSome?_cons]
  cases part.tells field source <;> rfl

end Merged

end TemplateLint
