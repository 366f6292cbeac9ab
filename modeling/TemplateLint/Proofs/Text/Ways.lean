import TemplateLint.Proofs.Text.Occurrences

/-!
# The ways to read a pattern

For each kind of pattern, which ways there are to read it at a place: what follows the place, and what is
left behind the text that is read.  A given text is read where it follows (`Pattern.mem_ways_lit`), also
under a key (`Pattern.mem_ways_keyed`), a run of characters where accepted ones follow
(`Pattern.mem_ways_many`), and one of some patterns as one of them is (`Pattern.mem_ways_oneOf`).  A
pattern without groups is told by the texts that it reads (`Pattern.Spells`).
-/
namespace TemplateLint

namespace Spot

/-- The place behind a text that is read, with what is left there. -/
def past (s : Spot) (read after : Text) : Spot :=
  ⟨s.passed + read.length, read.getLast?.or s.last, after⟩

variable (s : Spot) (read after : Text)

@[simp] theorem past_rest : (s.past read after).rest = after := rfl

@[simp] theorem past_passed : (s.past read after).passed = s.passed + read.length := rfl

theorem past_nil : s.past [] s.rest = s := rfl

theorem past_past (left more : Text) :
    (s.past read left).past more after = s.past (read ++ more) after := by
  unfold past
  rw [List.length_append, List.getLast?_append, Nat.add_assoc, Option.or_assoc]

end Spot

/-- The places that a run passes lie behind accepted characters. -/
theorem mem_drop_runSpots_iff {accepts : Char → Bool} {least passed : Nat} {last : Option Char}
    {rest : Text} {t : Spot} : t ∈ (runSpots accepts passed last rest).drop least ↔
      ∃ read after, rest = read ++ after ∧ (∀ c ∈ read, accepts c = true) ∧ least ≤ read.length ∧
        t = Spot.past ⟨passed, last, rest⟩ read after := by
  induction rest generalizing least passed last with
  | nil =>
    rw [runSpots]
    constructor
    · intro ht
      cases least with
      | zero =>
        obtain rfl := List.mem_singleton.mp ht
        exact ⟨[], [], rfl, List.forall_mem_nil _, Nat.le_refl 0, rfl⟩
      | succ least =>
        rw [List.drop_succ_cons, List.drop_nil] at ht
        cases ht
    · rintro ⟨read, after, hrest, -, hleast, rfl⟩
      obtain ⟨rfl, rfl⟩ := List.append_eq_nil_iff.mp hrest.symm
      obtain rfl : least = 0 := Nat.le_zero.mp hleast
      exact List.mem_singleton.mpr rfl
  | cons c rest ih =>
    have hcons : ∀ read after, Spot.past ⟨passed + 1, some c, rest⟩ read after =
        Spot.past ⟨passed, last, c :: rest⟩ (c :: read) after :=
      fun read after => Spot.past_past ⟨passed, last, c :: rest⟩ [c] after rest read
    -- behind an accepted character come the places of the rest
    have htail : ∀ {least}, t ∈ (if accepts c then runSpots accepts (passed + 1) (some c) rest
        else []).drop least ↔ accepts c = true ∧ ∃ read after, rest = read ++ after ∧
          (∀ c ∈ read, accepts c = true) ∧ least ≤ read.length ∧
          t = Spot.past ⟨passed, last, c :: rest⟩ (c :: read) after := by
      intro least
      by_cases hc : accepts c = true
      · simp only [hc, if_true, ih, hcons, true_and]
      · simp [hc]
    rw [runSpots]
    constructor
    · intro ht
      cases least with
      | zero =>
        rcases List.mem_cons.mp ht with rfl | ht
        · exact ⟨[], c :: rest, rfl, List.forall_mem_nil _, Nat.le_refl 0, rfl⟩
        · obtain ⟨hc, read, after, hrest, hread, -, rfl⟩ := htail.mp (show t ∈ List.drop 0 _ from ht)
          exact ⟨c :: read, after, congrArg (c :: ·) hrest, List.forall_mem_cons.mpr ⟨hc, hread⟩,
            Nat.zero_le _, rfl⟩
      | succ least =>
        obtain ⟨hc, read, after, hrest, hread, hleast, rfl⟩ := htail.mp ht
        exact ⟨c :: read, after, congrArg (c :: ·) hrest, List.forall_mem_cons.mpr ⟨hc, hread⟩,
          Nat.succ_le_succ hleast, rfl⟩
    · rintro ⟨read, after, hrest, hread, hleast, rfl⟩
      cases read with
      | nil =>
        obtain rfl : least = 0 := Nat.le_zero.mp hleast
        obtain rfl : c :: rest = after := hrest
        exact List.mem_cons_self
      | cons d read =>
        obtain ⟨rfl, hleft⟩ := List.cons.inj hrest
        obtain ⟨hc, hread⟩ := List.forall_mem_cons.mp hread
        cases least with
        | zero =>
          have hmem := htail.mpr ⟨hc, read, after, hleft, hread, Nat.zero_le _, rfl⟩
          exact List.mem_cons_of_mem _ hmem
        | succ least =>
          exact htail.mpr ⟨hc, read, after, hleft, hread, Nat.le_of_succ_le_succ hleast, rfl⟩

namespace Pattern

variable {s : Spot} {groups : List Capture} {q : Progress}

theorem mem_ways_one {accepts : Char → Bool} : q ∈ ways (one accepts) ⟨s, groups⟩ ↔
    ∃ c after, s.rest = c :: after ∧ accepts c = true ∧ q = ⟨s.past [c] after, groups⟩ := by
  obtain ⟨passed, last, rest⟩ := s
  cases rest with
  | nil => simp [ways]
  | cons d rest =>
    by_cases hd : accepts d = true
    · simp [ways, hd, Spot.past]
    · simp [ways, hd]

/-- Two patterns can be read one after the other if the second one can be read behind the first. -/
theorem exists_mem_ways_seq {first second : Pattern} {p : Progress} :
    (∃ q, q ∈ ways (seq first second) p) ↔ ∃ r ∈ ways first p, ∃ q, q ∈ ways second r := by
  constructor
  · rintro ⟨q, hq⟩
    obtain ⟨r, hr, hq⟩ := List.mem_flatMap.mp hq
    exact ⟨r, hr, q, hq⟩
  · rintro ⟨r, hr, q, hq⟩
    exact ⟨q, List.mem_flatMap.mpr ⟨r, hr, hq⟩⟩

/-- A given text, read under a key. -/
def keyed (key : Char → Char) (wanted : Text) : Pattern :=
  wanted.foldr (fun c p => seq (one (key · == c)) p) empty

theorem mem_ways_keyed {key : Char → Char} {wanted : Text} :
    q ∈ ways (keyed key wanted) ⟨s, groups⟩ ↔
      ∃ read after, s.rest = read ++ after ∧ read.map key = wanted ∧
        q = ⟨s.past read after, groups⟩ := by
  induction wanted generalizing s with
  | nil =>
    show q ∈ [_] ↔ _
    rw [List.mem_singleton]
    constructor
    · intro hq
      exact ⟨[], s.rest, rfl, rfl, hq⟩
    · rintro ⟨read, after, hrest, hread, rfl⟩
      obtain rfl := List.map_eq_nil_iff.mp hread
      rw [List.nil_append] at hrest
      rw [← hrest, Spot.past_nil]
  | cons c wanted ih =>
    have hseq : keyed key (c :: wanted) = seq (one (key · == c)) (keyed key wanted) := rfl
    rw [hseq, ways, List.mem_flatMap]
    constructor
    · rintro ⟨r, hr, hq⟩
      obtain ⟨d, left, hrest, hd, rfl⟩ := mem_ways_one.mp hr
      obtain ⟨read, after, hleft, rfl, rfl⟩ := ih.mp hq
      refine ⟨d :: read, after, ?_, ?_, ?_⟩
      · rw [hrest, List.cons_append, ← hleft, Spot.past_rest]
      · rw [List.map_cons, beq_iff_eq.mp hd]
      · rw [Spot.past_past]
        rfl
    · rintro ⟨read, after, hrest, hread, rfl⟩
      obtain ⟨d, read, rfl, hd, hread⟩ := List.map_eq_cons_iff.mp hread
      refine ⟨⟨s.past [d] (read ++ after), groups⟩, ?_, ih.mpr ⟨read, after, rfl, hread, ?_⟩⟩
      · exact mem_ways_one.mpr ⟨d, _, hrest, beq_iff_eq.mpr hd, rfl⟩
      · rw [Spot.past_past]
        rfl

theorem mem_ways_lit {wanted : Text} : q ∈ ways (lit wanted) ⟨s, groups⟩ ↔
    ∃ after, s.rest = wanted ++ after ∧ q = ⟨s.past wanted after, groups⟩ := by
  have hkeyed : lit wanted = keyed id wanted := rfl
  simp only [hkeyed, mem_ways_keyed, List.map_id]
  constructor
  · rintro ⟨_, after, hrest, rfl, rfl⟩
    exact ⟨after, hrest, rfl⟩
  · rintro ⟨after, hrest, rfl⟩
    exact ⟨wanted, after, hrest, rfl, rfl⟩

theorem mem_ways_many {least : Nat} {accepts : Char → Bool} :
    q ∈ ways (many least accepts) ⟨s, groups⟩ ↔
      ∃ read after, s.rest = read ++ after ∧ (∀ c ∈ read, accepts c = true) ∧ least ≤ read.length ∧
        q = ⟨s.past read after, groups⟩ := by
  obtain ⟨passed, last, rest⟩ := s
  rw [ways, List.mem_map]
  simp only [List.mem_reverse, mem_drop_runSpots_iff]
  constructor
  · rintro ⟨t, ⟨read, after, hrest, hread, hleast, rfl⟩, rfl⟩
    exact ⟨read, after, hrest, hread, hleast, rfl⟩
  · rintro ⟨read, after, hrest, hread, hleast, rfl⟩
    exact ⟨_, ⟨read, after, hrest, hread, hleast, rfl⟩, rfl⟩

/-- A run without a least length. -/
theorem mem_ways_many_zero {accepts : Char → Bool} : q ∈ ways (many 0 accepts) ⟨s, groups⟩ ↔
    ∃ read after, s.rest = read ++ after ∧ (∀ c ∈ read, accepts c = true) ∧
      q = ⟨s.past read after, groups⟩ := by
  simp only [mem_ways_many, Nat.zero_le, true_and]

theorem mem_ways_oneOf {patterns : List Pattern} {p : Progress} :
    q ∈ ways (oneOf patterns) p ↔ ∃ pattern ∈ patterns, q ∈ ways pattern p := by
  induction patterns with
  | nil => simp [oneOf, ways]
  | cons first more ih =>
    cases more with
    | nil => simp [oneOf]
    | cons next more =>
      rw [oneOf, ways, List.mem_append, ih]
      · simp
      · simp

theorem mem_ways_maybe {pattern : Pattern} {p : Progress} :
    q ∈ ways (maybe pattern) p ↔ q ∈ ways pattern p ∨ q = p := by
  rw [maybe, ways, List.mem_append]
  exact or_congr_right List.mem_singleton

theorem mem_ways_group {index : Nat} {body : Pattern} {p : Progress} :
    q ∈ ways (group index body) p ↔ ∃ r ∈ ways body p, q = r.capture index p.spot := by
  rw [ways, List.mem_map]
  exact exists_congr fun r => and_congr_right fun _ => eq_comm

/-- A group keeps what was read on the way to its end. -/
theorem capture_past (index : Nat) (read after : Text) :
    Progress.capture ⟨s.past read after, groups⟩ index s =
      ⟨s.past read after, ⟨index, s.rest, read.length⟩ :: groups⟩ := by
  rw [Progress.capture, Spot.past_passed, Nat.add_sub_cancel_left]

/-! ## Patterns that keep nothing -/

/-- The pattern reads the texts of a kind, wherever one follows, and keeps nothing. -/
def Spells (pattern : Pattern) (spelled : Text → Prop) : Prop :=
  ∀ s groups q, q ∈ ways pattern ⟨s, groups⟩ ↔
    ∃ read after, s.rest = read ++ after ∧ spelled read ∧ q = ⟨s.past read after, groups⟩

theorem spells_lit (wanted : Text) : (lit wanted).Spells (· = wanted) := by
  intro s groups q
  rw [mem_ways_lit]
  constructor
  · rintro ⟨after, hrest, rfl⟩
    exact ⟨wanted, after, hrest, rfl, rfl⟩
  · rintro ⟨_, after, hrest, rfl, rfl⟩
    exact ⟨after, hrest, rfl⟩

theorem spells_one (accepts : Char → Bool) :
    (one accepts).Spells fun read => ∃ c, accepts c = true ∧ read = [c] := by
  intro s groups q
  rw [mem_ways_one]
  constructor
  · rintro ⟨c, after, hrest, hc, rfl⟩
    exact ⟨[c], after, hrest, ⟨c, hc, rfl⟩, rfl⟩
  · rintro ⟨_, after, hrest, ⟨c, hc, rfl⟩, rfl⟩
    exact ⟨c, after, hrest, hc, rfl⟩

theorem spells_blanks : blanks.Spells fun read => ∀ c ∈ read, isBlank c = true :=
  fun _ _ _ => mem_ways_many_zero

theorem spells_texts (texts : List Text) : (oneOf (texts.map lit)).Spells (· ∈ texts) := by
  intro s groups q
  rw [mem_ways_oneOf]
  constructor
  · rintro ⟨_, hmem, hq⟩
    obtain ⟨wanted, hwanted, rfl⟩ := List.mem_map.mp hmem
    obtain ⟨after, hrest, rfl⟩ := mem_ways_lit.mp hq
    exact ⟨wanted, after, hrest, hwanted, rfl⟩
  · rintro ⟨wanted, after, hrest, hwanted, rfl⟩
    exact ⟨_, List.mem_map_of_mem hwanted, mem_ways_lit.mpr ⟨after, hrest, rfl⟩⟩

section
variable {first second : Pattern} {P Q : Text → Prop}

/-- Behind a text of the first kind, the second pattern is read. -/
theorem Spells.mem_ways_seq (h : first.Spells P) : q ∈ ways (seq first second) ⟨s, groups⟩ ↔
    ∃ read after, s.rest = read ++ after ∧ P read ∧ q ∈ ways second ⟨s.past read after, groups⟩ := by
  rw [ways, List.mem_flatMap]
  constructor
  · rintro ⟨r, hr, hq⟩
    obtain ⟨read, after, hrest, hread, rfl⟩ := (h s groups r).mp hr
    exact ⟨read, after, hrest, hread, hq⟩
  · rintro ⟨read, after, hrest, hread, hq⟩
    exact ⟨_, (h s groups _).mpr ⟨read, after, hrest, hread, rfl⟩, hq⟩

theorem Spells.seq (hfirst : first.Spells P) (hsecond : second.Spells Q) :
    (first.seq second).Spells fun read => ∃ a b, P a ∧ Q b ∧ read = a ++ b := by
  intro s groups q
  rw [hfirst.mem_ways_seq]
  constructor
  · rintro ⟨a, left, hrest, ha, hq⟩
    obtain ⟨b, after, hleft, hb, rfl⟩ := (hsecond _ _ _).mp hq
    refine ⟨a ++ b, after, ?_, ⟨a, b, ha, hb, rfl⟩, ?_⟩
    · rw [hrest, List.append_assoc]
      exact congrArg (a ++ ·) hleft
    · rw [Spot.past_past]
  · rintro ⟨_, after, hrest, ⟨a, b, ha, hb, rfl⟩, rfl⟩
    refine ⟨a, b ++ after, ?_, ha, (hsecond _ _ _).mpr ⟨b, after, rfl, hb, ?_⟩⟩
    · rw [hrest, List.append_assoc]
    · rw [Spot.past_past]

end

/-- Patterns in a row may be taken together from the front. -/
theorem ways_seq_assoc (first second third : Pattern) (p : Progress) :
    ways (seq first (seq second third)) p = ways (seq (seq first second) third) p :=
  List.flatMap_assoc.symm

/-! ## Groups, and patterns without width -/

/-- A group that reads one of some given texts. -/
theorem mem_ways_group_texts {index : Nat} {texts : List Text} :
    q ∈ ways (group index (oneOf (texts.map lit))) ⟨s, groups⟩ ↔
      ∃ wanted ∈ texts, ∃ after, s.rest = wanted ++ after ∧
        q = ⟨s.past wanted after, ⟨index, s.rest, wanted.length⟩ :: groups⟩ := by
  rw [mem_ways_group]
  constructor
  · rintro ⟨r, hr, rfl⟩
    obtain ⟨wanted, after, hrest, hwanted, rfl⟩ := (spells_texts texts s groups r).mp hr
    exact ⟨wanted, hwanted, after, hrest, capture_past index wanted after⟩
  · rintro ⟨wanted, hwanted, after, hrest, rfl⟩
    have hread := (spells_texts texts s groups _).mpr ⟨wanted, after, hrest, hwanted, rfl⟩
    exact ⟨_, hread, (capture_past index wanted after).symm⟩

theorem mem_ways_notAfter {refused : Char → Bool} {p : Progress} :
    q ∈ ways (notAfter refused) p ↔ p.spot.last.any refused = false ∧ q = p := by
  rw [ways]
  cases p.spot.last.any refused <;> simp

theorem mem_ways_notAhead {body : Pattern} {p : Progress} :
    q ∈ ways (notAhead body) p ↔ (¬ ∃ r, r ∈ ways body p) ∧ q = p := by
  rw [ways]
  cases ways body p <;> simp

theorem mem_ways_edge {p : Progress} :
    q ∈ ways edge p ↔ isEdge p.spot.last p.spot.rest.head? = true ∧ q = p := by
  rw [ways]
  cases isEdge p.spot.last p.spot.rest.head? <;> simp

/-- In front of a character of a word lies an edge where no word goes on. -/
theorem isEdge_before_iff {c : Char} {last : Option Char} (hc : isWord c = true) :
    isEdge last (some c) = true ↔ last.any isWord = false := by
  rw [isEdge, Option.any_some, hc]
  cases last.any isWord <;> decide

/-- And behind one lies an edge where no word goes on. -/
theorem isEdge_behind_iff {c : Char} {next : Option Char} (hc : isWord c = true) :
    isEdge (some c) next = true ↔ next.any isWord = false := by
  rw [isEdge, Option.any_some, hc]
  cases next.any isWord <;> decide

theorem advance?_id_iff {wanted : Text} {t : Spot} : s.advance? id wanted = some t ↔
    ∃ after, s.rest = wanted ++ after ∧ t = s.past wanted after := by
  induction wanted generalizing s with
  | nil =>
    show some s = some t ↔ _
    rw [Option.some.injEq]
    constructor
    · rintro rfl
      exact ⟨s.rest, rfl, s.past_nil.symm⟩
    · rintro ⟨after, rfl, rfl⟩
      exact s.past_nil.symm
  | cons c wanted ih =>
    obtain ⟨passed, last, rest⟩ := s
    cases rest with
    | nil => simp [Spot.advance?]
    | cons d rest =>
      have hcons : ∀ after, Spot.past ⟨passed + 1, some d, rest⟩ wanted after =
          Spot.past ⟨passed, last, d :: rest⟩ (d :: wanted) after :=
        fun after => Spot.past_past ⟨passed, last, d :: rest⟩ [d] after rest wanted
      rw [Spot.advance?]
      by_cases hc : c = d
      · subst hc
        simp [ih, hcons]
      · have hd : d ≠ c := Ne.symm hc
        simp [hc, hd]

theorem mem_ways_same {index : Nat} : q ∈ ways (same index id) ⟨s, groups⟩ ↔
    ∃ kept after, Progress.textOf? ⟨s, groups⟩ index = some kept ∧ s.rest = kept ++ after ∧
      q = ⟨s.past kept after, groups⟩ := by
  rw [ways]
  cases htext : Progress.textOf? ⟨s, groups⟩ index with
  | none => simp
  | some kept =>
    show q ∈ (s.advance? id kept).toList.map (⟨·, groups⟩) ↔ _
    rw [List.mem_map]
    simp only [Option.mem_toList, advance?_id_iff]
    constructor
    · rintro ⟨t, ⟨after, hrest, rfl⟩, rfl⟩
      exact ⟨kept, after, rfl, hrest, rfl⟩
    · rintro ⟨_, after, ⟨rfl⟩, hrest, rfl⟩
      exact ⟨_, ⟨after, hrest, rfl⟩, rfl⟩

/-! ## Matches -/

/-- The match that a way to read from a place leads to. -/
def matchFrom (s : Spot) (q : Progress) : Match where
  start := s.passed
  stop := q.spot.passed
  text := s.rest.take (q.spot.passed - s.passed)
  groups := q.groups.map fun c => (c.index, c.text)

/-- What is read on the way to a place is the text of the match. -/
theorem matchFrom_past {read after : Text} (h : s.rest = read ++ after) (groups : List Capture) :
    matchFrom s ⟨s.past read after, groups⟩ =
      ⟨s.passed, s.passed + read.length, read, groups.map fun c => (c.index, c.text)⟩ := by
  unfold matchFrom
  rw [h, Spot.past_passed, Nat.add_sub_cancel_left, List.take_left]

/-- A match is one of the ways to read the pattern. -/
theorem exists_mem_ways_of_matchAt? {pattern : Pattern} {m : Match}
    (h : pattern.matchAt? s = some m) : ∃ q ∈ ways pattern ⟨s, []⟩, m = matchFrom s q := by
  rw [matchAt?, run_eq_findSome?] at h
  obtain ⟨q, hq, hm⟩ := List.exists_of_findSome?_eq_some h
  exact ⟨q, hq, (Option.some.inj hm).symm⟩

/-- Where a pattern can be read in one way only, that way is the match. -/
theorem matchAt?_iff_of_unique {pattern : Pattern} {m : Match}
    (hunique : ∀ q ∈ ways pattern ⟨s, []⟩, ∀ q' ∈ ways pattern ⟨s, []⟩, q = q') :
    pattern.matchAt? s = some m ↔ ∃ q ∈ ways pattern ⟨s, []⟩, m = matchFrom s q := by
  rw [matchAt?, run_eq_findSome?]
  cases hways : ways pattern ⟨s, []⟩ with
  | nil => simp
  | cons first more =>
    rw [hways] at hunique
    rw [List.findSome?_cons]
    constructor
    · intro h
      exact ⟨first, List.mem_cons_self, (Option.some.inj h).symm⟩
    · rintro ⟨q, hq, rfl⟩
      rw [hunique q hq first List.mem_cons_self]
      rfl

end Pattern
end TemplateLint
