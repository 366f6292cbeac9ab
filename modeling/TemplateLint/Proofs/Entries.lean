import Mathlib.Algebra.BigOperators.Group.List.Lemmas
import Mathlib.Algebra.Order.Ring.Int
import Mathlib.Data.List.Induction
import Mathlib.Data.List.Nodup
import TemplateLint.Entries

/-!
# Values in the order in which they came first

The values without repetition hold every value once (`mem_firstSeen`, `nodup_firstSeen`), and a
table of counts has them as its names (`keys_tally`).  A table that is updated item by item groups
the items by their names (`Entries.foldl_update`), and one that is written entry by entry keeps what
was written last (`Entries.get?_putAll`).  A stable sort keeps the order of equal elements, so the
most frequent values are listed with the one seen first in front (`mostFrequent_tally`).
-/
namespace TemplateLint

/-- One more value comes last, unless it was seen before. -/
theorem firstSeen_concat (values : List Text) (value : Text) :
    firstSeen (values ++ [value]) =
      if value ∈ firstSeen values then firstSeen values else firstSeen values ++ [value] := by
  rw [firstSeen, List.foldl_append]
  rfl

@[simp] theorem mem_firstSeen {values : List Text} {value : Text} :
    value ∈ firstSeen values ↔ value ∈ values := by
  induction values using List.reverseRecOn with
  | nil => exact Iff.rfl
  | append_singleton values last ih =>
    rw [firstSeen_concat, List.mem_append, List.mem_singleton, ← ih]
    split
    · next hlast =>
      refine ⟨Or.inl, fun h => h.elim id ?_⟩
      rintro rfl
      exact hlast
    · rw [List.mem_append, List.mem_singleton]

theorem nodup_firstSeen (values : List Text) : (firstSeen values).Nodup := by
  induction values using List.reverseRecOn with
  | nil => exact List.nodup_nil
  | append_singleton values last ih =>
    rw [firstSeen_concat]
    split
    · exact ih
    · next hlast =>
      rw [← List.concat_eq_append]
      exact ih.concat hlast

/-- The values without repetition stand in the order of their first places. -/
theorem pairwise_firstSeen (values : List Text) :
    (firstSeen values).Pairwise fun a b => values.idxOf a < values.idxOf b := by
  induction values using List.reverseRecOn with
  | nil => exact List.Pairwise.nil
  | append_singleton values last ih =>
    have hold : ∀ a ∈ firstSeen values, (values ++ [last]).idxOf a = values.idxOf a :=
      fun a ha => List.idxOf_append_of_mem (mem_firstSeen.mp ha)
    have hkept : (firstSeen values).Pairwise fun a b =>
        (values ++ [last]).idxOf a < (values ++ [last]).idxOf b := by
      refine ih.imp_of_mem ?_
      intro a b ha hb hab
      rwa [hold a ha, hold b hb]
    rw [firstSeen_concat]
    split
    · exact hkept
    · next hlast =>
      refine List.pairwise_append.mpr ⟨hkept, List.pairwise_singleton _ _, ?_⟩
      intro a ha b hb
      obtain rfl := List.mem_singleton.mp hb
      rw [hold a ha, List.idxOf_append_of_notMem (mt mem_firstSeen.mpr hlast)]
      exact Nat.lt_of_lt_of_le (List.idxOf_lt_length_of_mem (mem_firstSeen.mp ha))
        (Nat.le_add_right _ _)

namespace Entries

variable {α : Type}

/-- A name that is written comes last unless it is known. -/
theorem keys_put (key : Text) (value : α) (entries : Entries α) :
    keys (put key value entries) =
      if key ∈ keys entries then keys entries else keys entries ++ [key] := by
  split
  · next h => exact keys_put_of_mem h value
  · next h => exact keys_put_of_not_mem h value

theorem nodup_put {entries : Entries α} (h : entries.keys.Nodup) (key : Text) (value : α) :
    (put key value entries).keys.Nodup := by
  rw [keys_put]
  split
  · exact h
  · next hnew =>
    rw [← List.concat_eq_append]
    exact h.concat hnew

theorem nodup_erase {entries : Entries α} (h : entries.keys.Nodup) (name : Text) :
    (erase name entries).keys.Nodup :=
  h.sublist (List.filter_sublist.map _)

/-- Where entries are kept by their names, a name that is kept has its value. -/
theorem get?_filter (keep : Text → Bool) (name : Text) (entries : Entries α) :
    get? name (entries.filter fun e => keep e.1) =
      if keep name then get? name entries else none := by
  induction entries with
  | nil => simp [get?]
  | cons entry rest ih =>
    obtain ⟨first, value⟩ := entry
    rw [List.filter_cons, get?_cons]
    by_cases hn : name = first
    · subst hn
      cases hkeep : keep name with
      | true => rw [if_pos rfl, if_pos rfl, if_pos rfl, get?_cons, if_pos rfl]
      | false =>
        rw [hkeep] at ih
        simpa using ih
    · rw [if_neg hn, ← ih]
      split
      · rw [get?_cons, if_neg hn]
      · rfl

theorem get?_erase (name key : Text) (entries : Entries α) :
    get? name (erase key entries) = if name = key then none else get? name entries := by
  have hkept := get?_filter (fun n => decide (n ≠ key)) name entries
  rw [erase, hkept]
  by_cases h : name = key
  · simp [h]
  · simp [h]

theorem get?_eq_none {name : Text} {entries : Entries α} (h : name ∉ entries.keys) :
    get? name entries = none := by
  refine List.lookup_eq_none_iff.mpr fun e he => ?_
  have hne : name ≠ e.1 := fun heq => h (heq ▸ List.mem_map_of_mem he)
  simpa using hne

/-- Without a name that is missing a table is as it was. -/
theorem erase_eq_self {name : Text} {entries : Entries α} (h : get? name entries = none) :
    erase name entries = entries := by
  refine List.filter_eq_self.mpr fun e he => ?_
  have hne : e.1 ≠ name := by
    intro heq
    have hfound := List.lookup_eq_none_iff.mp h e he
    simp [heq] at hfound
  simpa using hne

/-- Where no name stands twice, the first entry of a name is the last one. -/
theorem get?_reverse {entries : Entries α} (h : entries.keys.Nodup) (name : Text) :
    get? name entries.reverse = get? name entries := by
  induction entries with
  | nil => rfl
  | cons entry rest ih =>
    obtain ⟨first, value⟩ := entry
    obtain ⟨hfirst, hrest⟩ := List.nodup_cons.mp h
    have hsplit : get? name (rest.reverse ++ [(first, value)]) =
        (get? name rest.reverse).or (get? name [(first, value)]) := List.lookup_append
    rw [List.reverse_cons, hsplit, ih hrest, get?_cons, get?_cons]
    by_cases hn : name = first
    · subst hn
      simp [get?_eq_none hfirst]
    · simp [hn, get?]

/-! ## Tables that are written entry by entry -/

theorem putAll_concat (entries more : Entries α) (entry : Text × α) :
    putAll entries (more ++ [entry]) = put entry.1 entry.2 (putAll entries more) := by
  rw [putAll, List.foldl_append]
  rfl

/-- What was written last is read. -/
theorem get?_putAll (name : Text) (entries more : Entries α) :
    get? name (putAll entries more) = (get? name more.reverse).or (get? name entries) := by
  induction more using List.reverseRecOn with
  | nil => rfl
  | append_singleton more entry ih =>
    obtain ⟨key, value⟩ := entry
    rw [putAll_concat, get?_put, List.reverse_concat, get?_cons, ih]
    split
    · rfl
    · rfl

theorem keys_putAll (more : Entries α) : keys (putAll [] more) = firstSeen (keys more) := by
  induction more using List.reverseRecOn with
  | nil => rfl
  | append_singleton more entry ih =>
    have hkeys : keys (more ++ [entry]) = keys more ++ [entry.1] := List.map_append
    rw [putAll_concat, keys_put, ih, hkeys, firstSeen_concat]

/-! ## Tables that are updated item by item -/

theorem get?_map (names : List Text) (value : Text → α) (name : Text) :
    get? name (names.map fun n => (n, value n)) =
      if name ∈ names then some (value name) else none := by
  induction names with
  | nil => rfl
  | cons first rest ih =>
    rw [List.map_cons, get?_cons, ih]
    by_cases h : name = first
    · simp [h]
    · simp [h]

theorem put_map_of_mem {names : List Text} (hnodup : names.Nodup) {key : Text} (hkey : key ∈ names)
    (value : Text → α) (new : α) :
    put key new (names.map fun n => (n, value n)) =
      names.map fun n => (n, if n = key then new else value n) := by
  induction names with
  | nil => cases hkey
  | cons first rest ih =>
    obtain ⟨hfirst, hrest⟩ := List.nodup_cons.mp hnodup
    rw [List.map_cons, List.map_cons, put]
    by_cases h : first = key
    · subst h
      have hsame : (rest.map fun n => (n, value n)) =
          rest.map fun n => (n, if n = first then new else value n) := by
        refine List.map_congr_left fun n hn => ?_
        have hne : n ≠ first := fun heq => hfirst (heq ▸ hn)
        rw [if_neg hne]
      rw [if_pos rfl, if_pos rfl, hsame]
    · have hmem : key ∈ rest := (List.mem_cons.mp hkey).resolve_left (Ne.symm h)
      rw [if_neg h, if_neg h, ih hrest hmem]

theorem put_of_not_mem {key : Text} {entries : Entries α} (h : key ∉ keys entries) (value : α) :
    put key value entries = entries ++ [(key, value)] := by
  induction entries with
  | nil => rfl
  | cons entry rest ih =>
    simp only [keys, List.map_cons, List.mem_cons, not_or] at h
    rw [put, if_neg (Ne.symm h.1), ih h.2, List.cons_append]

/-- Writing the entries of a table one by one gives the table back. -/
theorem putAll_of_nodup {entries : Entries α} (h : entries.keys.Nodup) :
    putAll [] entries = entries := by
  induction entries using List.reverseRecOn with
  | nil => rfl
  | append_singleton entries entry ih =>
    have hkeys : keys (entries ++ [entry]) = keys entries ++ [entry.1] := List.map_append
    rw [hkeys] at h
    have hnew : entry.1 ∉ keys entries := fun hmem =>
      List.disjoint_of_nodup_append h hmem (List.mem_singleton.mpr rfl)
    rw [putAll_concat, ih h.of_append_left, put_of_not_mem hnew]

/-- Updating a table item by item groups the items by their names. -/
theorem foldl_update {ι β : Type} (nameOf : ι → Text) (start : β) (step : β → ι → β)
    (items : List ι) :
    items.foldl (fun table x => update (nameOf x) (fun old => step (old.getD start) x) table) [] =
      (firstSeen (items.map nameOf)).map fun name =>
        (name, (items.filter fun x => nameOf x = name).foldl step start) := by
  induction items using List.reverseRecOn with
  | nil => rfl
  | append_singleton items last ih =>
    rw [List.foldl_append, ih, List.map_append, List.map_singleton, firstSeen_concat,
      List.foldl_cons, List.foldl_nil, update, get?_map]
    have hgroup : ∀ name, ((items ++ [last]).filter fun x => nameOf x = name).foldl step start =
        if name = nameOf last
          then step ((items.filter fun x => nameOf x = name).foldl step start) last
          else (items.filter fun x => nameOf x = name).foldl step start := by
      intro name
      by_cases h : name = nameOf last
      · simp [h, List.filter_append]
      · have hne : ¬ nameOf last = name := fun heq => h heq.symm
        simp [h, hne, List.filter_append]
    by_cases hseen : nameOf last ∈ firstSeen (items.map nameOf)
    · rw [if_pos hseen, if_pos hseen, put_map_of_mem (nodup_firstSeen _) hseen]
      refine List.map_congr_left fun name _ => ?_
      rw [hgroup]
      by_cases h : name = nameOf last
      · simp [h]
      · simp [h]
    · have hnew : nameOf last ∉ keys ((firstSeen (items.map nameOf)).map fun name =>
          (name, (items.filter fun x => nameOf x = name).foldl step start)) := by
        simpa [keys] using hseen
      have hnone : (items.filter fun x => nameOf x = nameOf last) = [] := by
        refine List.filter_eq_nil_iff.mpr fun x hx heq => hseen ?_
        rw [mem_firstSeen, ← of_decide_eq_true heq]
        exact List.mem_map_of_mem hx
      rw [if_neg hseen, if_neg hseen, put_of_not_mem hnew, List.map_append, List.map_singleton,
        hgroup, if_pos rfl, hnone]
      refine congrArg (· ++ _) (List.map_congr_left fun name hname => ?_)
      have hne : name ≠ nameOf last := fun heq => hseen (heq ▸ hname)
      rw [hgroup, if_neg hne]

end Entries

/-! ## Counts -/

/-- The names of a table of counts are the values that were counted. -/
theorem keys_tally (values : List Text) : (tally values).keys = firstSeen values := by
  induction values using List.reverseRecOn with
  | nil => rfl
  | append_singleton values last ih =>
    rw [firstSeen_concat, tally, List.foldl_append, ← ih]
    exact Entries.keys_put last _ _

/-- A table of counts tells how often each value occurs. -/
theorem tally_eq (values : List Text) :
    tally values = (firstSeen values).map fun value => (value, values.count value) := by
  have hcount : ∀ (l : List Text) (n : Nat), l.foldl (fun n _ => n + 1) n = n + l.length := by
    intro l
    induction l with
    | nil => exact fun n => rfl
    | cons v l ih =>
      intro n
      rw [List.foldl_cons, ih, List.length_cons]
      omega
  have hgroup := Entries.foldl_update id 0 (fun n (_ : Text) => n + 1) values
  rw [List.map_id] at hgroup
  refine Eq.trans hgroup (List.map_congr_left fun value _ => ?_)
  rw [hcount, Nat.zero_add, ← List.countP_eq_length_filter, List.count_eq_countP]
  exact congrArg (Prod.mk value) (List.countP_congr fun v _ => by simp)

/-- Values may be counted in two goes. -/
theorem countAll_tally (values more : List Text) :
    countAll (tally values) more = tally (values ++ more) :=
  List.foldl_append.symm

theorem counted_eq_sum (counts : Entries Nat) : counted counts = (counts.map (·.2)).sum := by
  induction counts with
  | nil => rfl
  | cons entry rest ih =>
    rw [List.map_cons, List.sum_cons, ← ih]
    rfl

/-- As many values were counted as there are. -/
theorem counted_tally (values : List Text) : counted (tally values) = values.length := by
  have hperm : (firstSeen values).Perm values.dedup := by
    rw [List.perm_ext_iff_of_nodup (nodup_firstSeen values) (List.nodup_dedup values)]
    intro value
    rw [mem_firstSeen, List.mem_dedup]
  have hsum : counted (tally values) = ((firstSeen values).map fun v => values.count v).sum := by
    rw [counted_eq_sum, tally_eq, List.map_map]
    rfl
  rw [hsum, (hperm.map _).sum_eq]
  convert List.sum_map_count_dedup_eq_length values
  rfl

/-! ## The most frequent values -/

section Descending

variable {α : Type} (key : α → Nat)

theorem descending_trans (a b c : α) (hab : decide (key b ≤ key a) = true)
    (hbc : decide (key c ≤ key b) = true) : decide (key c ≤ key a) = true := by
  simp only [decide_eq_true_eq] at hab hbc ⊢
  omega

theorem descending_total (a b : α) :
    (decide (key b ≤ key a) || decide (key a ≤ key b)) = true := by
  simp only [Bool.or_eq_true, decide_eq_true_eq]
  omega

end Descending

/-- A stable sort keeps the order of elements that are equal to it. -/
theorem pairwise_mergeSort_of_pairwise {α : Type} {le : α → α → Bool} {before : α → α → Prop}
    (htrans : ∀ a b c, le a b → le b c → le a c) (htotal : ∀ a b, le a b || le b a)
    {l : List α} (h : l.Pairwise before) :
    (l.mergeSort le).Pairwise fun a b => le b a = true → before a b := by
  induction l with
  | nil => simp
  | cons a l ih =>
    obtain ⟨ha, hl⟩ := List.pairwise_cons.mp h
    obtain ⟨l₁, l₂, hcons, htail, hless⟩ := List.mergeSort_cons htrans htotal a l
    have hmem : ∀ b ∈ l₂, b ∈ l := by
      intro b hb
      have hsorted : b ∈ l.mergeSort le := by
        rw [htail]
        exact List.mem_append_right l₁ hb
      exact List.mem_mergeSort.mp hsorted
    have hrest := ih hl
    rw [htail] at hrest
    obtain ⟨h₁, h₂, h₁₂⟩ := List.pairwise_append.mp hrest
    -- the new element goes behind those that are smaller, and those behind it came after it
    rw [hcons]
    refine List.pairwise_append.mpr ⟨h₁, List.pairwise_cons.mpr ⟨?_, h₂⟩, ?_⟩
    · exact fun b hb _ => ha b (hmem b hb)
    · intro b hb c hc hle
      rcases List.mem_cons.mp hc with rfl | hc
      · have hfalse := hless b hb
        simp [hle] at hfalse
      · exact h₁₂ b hb c hc hle

/-- One value occurs more often than another one, or as often and was seen before it. -/
def Leads (values : List Text) (a b : Text) : Prop :=
  values.count b < values.count a ∨
    values.count b = values.count a ∧ values.idxOf a < values.idxOf b

/-- Some of the values are the most frequent ones. -/
structure ListsMostFrequent (limit : Nat) (values listed : List Text) : Prop where
  nodup : listed.Nodup
  mem : ∀ v ∈ listed, v ∈ values
  length : listed.length = min limit (firstSeen values).length
  order : listed.Pairwise (Leads values)
  others : ∀ v ∈ listed, ∀ w ∈ values, w ∉ listed → Leads values v w

/-- The sorted counts name every value, the leading ones first. -/
theorem sorted_tally (values : List Text) :
    let names := ((tally values).mergeSort fun a b => b.2 ≤ a.2).map (·.1)
    names.Perm (firstSeen values) ∧ names.Pairwise (Leads values) := by
  intro names
  have hcount : ∀ e ∈ tally values, e.2 = values.count e.1 := by
    intro e he
    rw [tally_eq] at he
    obtain ⟨v, -, rfl⟩ := List.mem_map.mp he
    rfl
  have htrans := descending_trans fun e : Text × Nat => e.2
  have htotal := descending_total fun e : Text × Nat => e.2
  have hplaces : (tally values).Pairwise fun a b => values.idxOf a.1 < values.idxOf b.1 := by
    have h := pairwise_firstSeen values
    rw [← keys_tally, Entries.keys] at h
    exact (List.pairwise_map (R := fun a b => values.idxOf a < values.idxOf b)).mp h
  constructor
  · rw [← keys_tally]
    exact (List.mergeSort_perm _ _).map _
  · refine List.pairwise_map.mpr ?_
    have hboth := (List.pairwise_mergeSort htrans htotal (tally values)).and
      (pairwise_mergeSort_of_pairwise htrans htotal hplaces)
    refine hboth.imp_of_mem ?_
    rintro a b ha hb ⟨hle, hstable⟩
    have hacount := hcount a (List.mem_mergeSort.mp ha)
    have hbcount := hcount b (List.mem_mergeSort.mp hb)
    simp only [decide_eq_true_eq] at hle hstable
    rw [hacount, hbcount] at hle hstable
    rcases Nat.lt_or_ge (values.count b.1) (values.count a.1) with hlt | hge
    · exact Or.inl hlt
    · exact Or.inr ⟨Nat.le_antisymm hle hge, hstable hge⟩

/-- The most frequent values are at the head of the sorted counts. -/
theorem mostFrequent_tally (limit : Nat) (values : List Text) :
    ListsMostFrequent limit values (mostFrequent limit (tally values)) := by
  obtain ⟨hperm, horder⟩ := sorted_tally values
  rw [mostFrequent, List.map_take]
  generalize ((tally values).mergeSort fun a b => b.2 ≤ a.2).map (·.1) = names at hperm horder
  have hmem : ∀ v, v ∈ names ↔ v ∈ values := fun v => hperm.mem_iff.trans mem_firstSeen
  have hcut : names.take limit ++ names.drop limit = names := List.take_append_drop limit names
  rw [← hcut] at horder
  obtain ⟨hlisted, -, hacross⟩ := List.pairwise_append.mp horder
  refine ⟨?_, ?_, ?_, hlisted, ?_⟩
  · exact (hperm.nodup_iff.mpr (nodup_firstSeen values)).sublist (List.take_sublist limit names)
  · exact fun v hv => (hmem v).mp (List.mem_of_mem_take hv)
  · rw [List.length_take, hperm.length_eq]
  · intro v hv w hw hnot
    have hin : w ∈ names.take limit ++ names.drop limit := by
      rw [hcut]
      exact (hmem w).mpr hw
    exact hacross v hv w ((List.mem_append.mp hin).resolve_left hnot)

end TemplateLint
