import TemplateLint.Analysis.EdgeCases
import TemplateLint.Proofs.Block.ArgumentList
import TemplateLint.Proofs.Text.First
import TemplateLint.Proofs.Text.Ways

/-!
# Caps on items

A cap on the items of a loop is a quoted parameter at the start of a word, or a call with blanks around
its digits.  Its digits are the first ones of its text, so its place tells them
(`ItemCap.CapAt.digits_eq`), and no cap starts inside another one, since the first characters of a cap are
not found there (`ItemCap.not_opens_inside`).  So the search for caps in a text finds each of them
(`ItemCap.exists_mem_findAll_iff`), and a cap that is found in a slice is one of the whole text
(`ItemCap.CapAt.of_slice`).
-/
namespace TemplateLint

/-- A blank is no digit. -/
theorem isDecimal_of_isBlank {c : Char} (h : isBlank c = true) : isDecimal c = false := by
  have hsmall : ∀ n < 128, isBlank (Char.ofNat n) = true → isDecimal (Char.ofNat n) = false := by
    decide
  have hwide : ∀ n ∈ wideBlanks, zeros.find? (fun z => z ≤ n && n < z + 10) = none := by decide
  by_cases hc : c.toNat < 128
  · have hchar := hsmall c.toNat hc
    rw [Char.ofNat_toNat] at hchar
    exact hchar h
  · rw [isBlank, if_neg hc] at h
    rw [isDecimal, digitValue?, if_neg hc, hwide c.toNat (List.contains_iff_mem.mp h)]
    rfl

namespace ItemCap

open Pattern LoopDetectors

/-! ## How a cap is written -/

/-- Some decimal digits. -/
def IsNumeral (digits : Text) : Prop := digits ≠ [] ∧ ∀ c ∈ digits, isDecimal c = true

/-- What stands in front of the digits of a parameter, and what behind them. -/
inductive Parameter : Text → Text → Prop where
  | quoted {opening closing : Char} (hopening : IsQuote opening) (hclosing : IsQuote closing) :
      Parameter ("limit=" ++ [opening]) [closing]

/-- What stands in front of the digits of a call, and what behind them. -/
inductive Call : Text → Text → Prop where
  | method {name left right : Text} (hname : name ∈ (["take", "limit"] : List Text))
      (hleft : ∀ c ∈ left, isBlank c = true) (hright : ∀ c ∈ right, isBlank c = true) :
      Call ("->" ++ name ++ "(" ++ left) (right ++ ")")

/-- No character of a word stands in front of an offset. -/
def StartsWord (text : Text) (start : Nat) : Prop :=
  ∀ k c, k + 1 = start → text[k]? = some c → isWord c = false

/-- A cap stands at an offset: a parameter whose name is no end of a longer word, or a call. -/
structure CapAt (text : Text) (start : Nat) (digits : Text) : Prop where
  numeral : IsNumeral digits
  framed : ∃ before behind, before ++ digits ++ behind <+: text.drop start ∧
    (StartsWord text start ∧ Parameter before behind ∨ Call before behind)

variable {text before digits behind after : Text} {start : Nat} {s : Spot} {m : Match}

/-! ## What a cap is made of -/

/-- Only quotes, blanks and a parenthesis stand next to the digits of a cap. -/
def IsPadding (c : Char) : Prop := IsQuote c ∨ isBlank c = true ∨ c = ')'

/-- These are no digits, and neither a parameter nor a call starts with one. -/
theorem IsPadding.other {c : Char} (h : IsPadding c) : isDecimal c = false ∧ c ≠ 'l' ∧ c ≠ '-' := by
  rcases h with (rfl | rfl) | hblank | rfl
  · decide
  · decide
  · refine ⟨isDecimal_of_isBlank hblank, ?_, ?_⟩
    · rintro rfl
      exact absurd hblank (by decide)
    · rintro rfl
      exact absurd hblank (by decide)
  · decide

/-- Nor does one start with a digit. -/
theorem IsNumeral.other {c : Char} (h : IsNumeral digits) (hc : c ∈ digits) : c ≠ 'l' ∧ c ≠ '-' := by
  have hdecimal := h.2 c hc
  constructor
  · rintro rfl
    exact absurd hdecimal (by decide)
  · rintro rfl
    exact absurd hdecimal (by decide)

/-- The words of a parameter and of the calls, up to what stands next to the digits. -/
def words : List Text := ["limit=", "->take(", "->limit("]

/-- A cap is one of these words, and then its digits with what stands next to them. -/
theorem exists_word (h : Parameter before behind ∨ Call before behind) :
    ∃ word ∈ words, ∃ padding, before = word ++ padding ∧ (∀ c ∈ padding, IsPadding c) ∧
      behind ≠ [] ∧ ∀ c ∈ behind, IsPadding c := by
  rcases h with @⟨opening, closing, hopening, hclosing⟩ | @⟨name, left, right, hname, hleft, hright⟩
  · refine ⟨"limit=", List.mem_cons_self, [opening], rfl, ?_, List.cons_ne_nil _ _, ?_⟩
    · exact List.forall_mem_singleton.mpr (Or.inl hopening)
    · exact List.forall_mem_singleton.mpr (Or.inl hclosing)
  · have hword : ∀ name ∈ (["take", "limit"] : List Text), "->" ++ name ++ "(" ∈ words := by decide
    refine ⟨_, hword name hname, left, rfl, fun c hc => Or.inr (Or.inl (hleft c hc)), ?_, ?_⟩
    · exact List.append_ne_nil_of_right_ne_nil right (List.cons_ne_nil _ _)
    · refine List.forall_mem_append.mpr ⟨fun c hc => Or.inr (Or.inl (hright c hc)), ?_⟩
      exact List.forall_mem_singleton.mpr (Or.inr (Or.inr rfl))

/-- The digits of a cap are the first ones of its text. -/
theorem CapAt.digits_eq (h : CapAt text start digits) :
    digits = ((text.drop start).dropWhile fun c => !isDecimal c).takeWhile isDecimal := by
  obtain ⟨⟨hne, hdecimal⟩, before, behind, ⟨after, hafter⟩, hframed⟩ := h
  obtain ⟨word, hword, padding, rfl, hpadding, hbehind, hnext⟩ :=
    exists_word (hframed.imp_left And.right)
  have hbefore : ∀ c ∈ word ++ padding, (!isDecimal c) = true := by
    have hwords : ∀ word ∈ words, (word.all fun c => !isDecimal c) = true := by decide
    refine List.forall_mem_append.mpr ⟨List.all_eq_true.mp (hwords word hword), fun c hc => ?_⟩
    rw [(hpadding c hc).other.1]
    rfl
  have hdigit : (digits ++ (behind ++ after)).head?.any (fun c => !isDecimal c) = false := by
    cases digits with
    | nil => exact absurd rfl hne
    | cons c digits =>
      show (!isDecimal c) = false
      rw [hdecimal c List.mem_cons_self]
      rfl
  have hend : (behind ++ after).head?.any isDecimal = false := by
    cases behind with
    | nil => exact absurd rfl hbehind
    | cons c behind => exact (hnext c List.mem_cons_self).other.1
  rw [← hafter, List.append_assoc, List.append_assoc, Text.dropWhile_append_of_head hbefore hdigit,
    Text.takeWhile_append_of_head hdecimal hend]

/-! ## No cap inside another one -/

/-- With what a parameter and a call start. -/
def openings : List Text := ["limit=", "->"]

/-- One of the openings follows where a cap starts. -/
theorem CapAt.exists_opening (h : CapAt text start digits) :
    ∃ opening ∈ openings, opening <+: text.drop start := by
  obtain ⟨-, before, behind, hreads, hframed⟩ := h
  obtain ⟨word, hword, padding, rfl, -⟩ := exists_word (hframed.imp_left And.right)
  have hopens : ∀ word ∈ words, ∃ opening ∈ openings, opening <+: word := by decide
  obtain ⟨opening, hopening, hstarts⟩ := hopens word hword
  refine ⟨opening, hopening, (hstarts.trans ?_).trans hreads⟩
  rw [List.append_assoc, List.append_assoc]
  exact List.prefix_append _ _

theorem CapAt.start_le (h : CapAt text start digits) : start ≤ text.length := by
  obtain ⟨opening, hopening, hopens⟩ := h.exists_opening
  apply Nat.le_of_not_lt
  intro hlt
  rw [List.drop_eq_nil_of_le (Nat.le_of_lt hlt), List.prefix_nil] at hopens
  subst hopens
  revert hopening
  decide

/-- And none of them follows inside a cap. -/
theorem not_opens_inside (hdigits : IsNumeral digits) (h : Parameter before behind ∨ Call before behind)
    {k : Nat} (hpos : 0 < k) (hk : k < (before ++ digits ++ behind).length) :
    ∀ opening ∈ openings, ¬ opening <+: (before ++ digits ++ behind ++ after).drop k := by
  obtain ⟨word, hword, padding, rfl, hpadding, -, hbehind⟩ := exists_word h
  have hassoc : word ++ padding ++ digits ++ behind = word ++ (padding ++ digits ++ behind) := by
    simp only [List.append_assoc]
  rw [hassoc] at hk ⊢
  rw [List.length_append] at hk
  intro opening hopening hopens
  rcases Nat.lt_or_ge k word.length with hinside | hrest
  · -- the opening and the rest of the word differ where they overlap
    have hclash : ∀ word ∈ words, ∀ k < word.length, 0 < k → ∀ opening ∈ openings,
        ¬ opening <+: word.drop k ∧ ¬ word.drop k <+: opening := by decide
    obtain ⟨hno, hno'⟩ := hclash word hword k hinside hpos opening hopening
    rw [List.append_assoc, List.drop_append_of_le_length (Nat.le_of_lt hinside)] at hopens
    exact (List.prefix_or_prefix_of_prefix hopens (List.prefix_append _ _)).elim hno hno'
  · -- behind the word stands no first character of an opening
    have hbody : ∀ c ∈ padding ++ digits ++ behind, c ≠ 'l' ∧ c ≠ '-' := by
      refine List.forall_mem_append.mpr ⟨List.forall_mem_append.mpr ⟨?_, ?_⟩, ?_⟩
      · exact fun c hc => (hpadding c hc).other.2
      · exact fun c hc => hdigits.other hc
      · exact fun c hc => (hbehind c hc).other.2
    obtain ⟨j, rfl⟩ := Nat.exists_eq_add_of_le hrest
    have hj : j < (padding ++ digits ++ behind).length := by omega
    obtain ⟨hletter, hhyphen⟩ := hbody _ (List.getElem_mem hj)
    rw [List.append_assoc, ← List.drop_drop, List.drop_left,
      List.drop_append_of_le_length (Nat.le_of_lt hj), List.drop_eq_getElem_cons hj] at hopens
    simp only [openings, List.mem_cons, List.not_mem_nil, or_false] at hopening
    rcases hopening with rfl | rfl
    · exact hletter (List.cons_prefix_cons.mp hopens).1.symm
    · exact hhyphen (List.cons_prefix_cons.mp hopens).1.symm

/-! ## What the patterns read -/

/-- The progress behind a cap. -/
def progress (s : Spot) (before digits behind after : Text) : Progress :=
  ⟨s.past (before ++ digits ++ behind) after, [⟨1, digits ++ (behind ++ after), digits.length⟩]⟩

/-- Digits that are kept, between texts that are not. -/
theorem mem_ways_framed {front back : Pattern} {P Q : Text → Prop} (hfront : front.Spells P)
    (hback : back.Spells Q) {q : Progress} :
    q ∈ ways (seq front (seq (group 1 (many 1 isDecimal)) back)) ⟨s, []⟩ ↔
      ∃ before digits behind after, P before ∧ IsNumeral digits ∧ Q behind ∧
        s.rest = before ++ digits ++ behind ++ after ∧ q = progress s before digits behind after := by
  have hprogress : ∀ before digits behind after, progress s before digits behind after =
      ⟨((s.past before (digits ++ (behind ++ after))).past digits (behind ++ after)).past behind after,
        [⟨1, digits ++ (behind ++ after), digits.length⟩]⟩ := by
    intro before digits behind after
    rw [Spot.past_past, Spot.past_past, progress, List.append_assoc]
  simp only [List.append_assoc]
  rw [hfront.mem_ways_seq]
  constructor
  · rintro ⟨before, left, hrest, hbefore, hq⟩
    obtain ⟨r, hr, hq⟩ := List.mem_flatMap.mp hq
    obtain ⟨r', hr', rfl⟩ := mem_ways_group.mp hr
    obtain ⟨digits, left', hleft, hdigits, hlength, rfl⟩ := mem_ways_many.mp hr'
    rw [capture_past] at hq
    obtain ⟨behind, after, hleft', hbehind, rfl⟩ := (hback _ _ _).mp hq
    simp only [Spot.past_rest] at hleft hleft'
    subst hleft' hleft
    exact ⟨before, digits, behind, after, hbefore, ⟨List.ne_nil_of_length_pos hlength, hdigits⟩,
      hbehind, hrest, (hprogress ..).symm⟩
  · rintro ⟨before, digits, behind, after, hbefore, ⟨hne, hdigits⟩, hbehind, hrest, rfl⟩
    let t := s.past before (digits ++ (behind ++ after))
    have hmany : (⟨t.past digits (behind ++ after), []⟩ : Progress) ∈ ways (many 1 isDecimal) ⟨t, []⟩ :=
      mem_ways_many.mpr ⟨digits, _, rfl, hdigits, List.length_pos_iff.mpr hne, rfl⟩
    refine ⟨before, digits ++ (behind ++ after), hrest, hbefore, ?_⟩
    refine List.mem_flatMap.mpr ⟨_, mem_ways_group.mpr ⟨_, hmany, rfl⟩, ?_⟩
    rw [capture_past, hprogress]
    exact (hback _ _ _).mpr ⟨behind, after, rfl, hbehind, rfl⟩

/-- A parameter is read behind the end of a word, and its digits are kept. -/
theorem mem_ways_antlersCap {q : Progress} : q ∈ ways antlersCap ⟨s, []⟩ ↔
    s.last.any isWord = false ∧ ∃ before digits behind after, Parameter before behind ∧
      IsNumeral digits ∧ s.rest = before ++ digits ++ behind ++ after ∧
      q = progress s before digits behind after := by
  have hamong : ∀ c, among "\"'" c = true ↔ IsQuote c := by
    intro c
    rw [among, decide_eq_true_iff, IsQuote, or_comm]
    exact List.mem_pair
  have hquote := spells_one (among "\"'")
  have hways : ways antlersCap ⟨s, []⟩ = (ways edge ⟨s, []⟩).flatMap (ways
      (seq (seq (lit "limit=") (one (among "\"'"))) (seq (group 1 (many 1 isDecimal))
        (one (among "\"'"))))) :=
    congrArg (fun read => (ways edge ⟨s, []⟩).flatMap read) (funext (ways_seq_assoc _ _ _))
  have hframed := @mem_ways_framed s _ _ _ _ ((spells_lit "limit=").seq hquote) hquote
  have hedge : ∀ {before digits behind after}, Parameter before behind →
      s.rest = before ++ digits ++ behind ++ after →
        (isEdge s.last s.rest.head? = true ↔ s.last.any isWord = false) := by
    rintro _ digits _ after ⟨-, -⟩ hrest
    have hhead : s.rest.head? = some 'l' := by
      rw [hrest]
      rfl
    rw [hhead]
    exact isEdge_before_iff (by decide)
  rw [hways, List.mem_flatMap]
  constructor
  · rintro ⟨r, hr, hq⟩
    obtain ⟨hstart, rfl⟩ := mem_ways_edge.mp hr
    obtain ⟨_, digits, _, after, ⟨_, _, rfl, ⟨opening, hopening, rfl⟩, rfl⟩, hdigits,
      ⟨closing, hclosing, rfl⟩, hrest, rfl⟩ := hframed.mp hq
    have hparameter := Parameter.quoted ((hamong opening).mp hopening) ((hamong closing).mp hclosing)
    exact ⟨(hedge hparameter hrest).mp hstart, _, digits, _, after, hparameter, hdigits, hrest, rfl⟩
  · rintro ⟨hlast, before, digits, behind, after, hparameter, hdigits, hrest, rfl⟩
    refine ⟨_, mem_ways_edge.mpr ⟨(hedge hparameter hrest).mpr hlast, rfl⟩, hframed.mpr ?_⟩
    obtain @⟨opening, closing, hopening, hclosing⟩ := hparameter
    refine ⟨_, digits, [closing], after, ?_, hdigits, ⟨closing, (hamong _).mpr hclosing, rfl⟩, hrest, rfl⟩
    exact ⟨_, [opening], rfl, ⟨opening, (hamong _).mpr hopening, rfl⟩, rfl⟩

/-- A call is read anywhere, and its digits are kept. -/
theorem mem_ways_bladeCap {q : Progress} : q ∈ ways bladeCap ⟨s, []⟩ ↔
    ∃ before digits behind after, Call before behind ∧ IsNumeral digits ∧
      s.rest = before ++ digits ++ behind ++ after ∧ q = progress s before digits behind after := by
  have hways : ways bladeCap ⟨s, []⟩ = ways (seq (seq (seq (seq (lit "->")
      (oneOf (([("take" : Text), "limit"] : List Text).map lit))) (lit "(")) blanks)
      (seq (group 1 (many 1 isDecimal)) (seq blanks (lit ")")))) ⟨s, []⟩ := by
    rw [← ways_seq_assoc, ← ways_seq_assoc, ← ways_seq_assoc]
    rfl
  have hfront := (((spells_lit "->").seq (spells_texts ["take", "limit"])).seq
    (spells_lit "(")).seq spells_blanks
  rw [hways, mem_ways_framed hfront (spells_blanks.seq (spells_lit ")"))]
  constructor
  · rintro ⟨_, digits, _, after, ⟨_, left, ⟨_, _, ⟨_, name, rfl, hname, rfl⟩, rfl, rfl⟩, hleft, rfl⟩,
      hdigits, ⟨right, _, hright, rfl, rfl⟩, hrest, rfl⟩
    exact ⟨_, digits, _, after, .method hname hleft hright, hdigits, hrest, rfl⟩
  · rintro ⟨_, digits, _, after, ⟨hname, hleft, hright⟩, hdigits, hrest, rfl⟩
    refine ⟨_, digits, _, after, ?_, hdigits, ⟨_, _, hright, rfl, rfl⟩, hrest, rfl⟩
    exact ⟨_, _, ⟨_, _, ⟨_, _, rfl, hname, rfl⟩, rfl, rfl⟩, hleft, rfl⟩

/-! ## Where caps are found -/

/-- A cap is what follows a place. -/
structure ReadFrom (s : Spot) (before digits behind after : Text) : Prop where
  numeral : IsNumeral digits
  framed : s.last.any isWord = false ∧ Parameter before behind ∨ Call before behind
  rest_eq : s.rest = before ++ digits ++ behind ++ after

theorem mem_ways_itemCap {q : Progress} : q ∈ ways EdgeCases.itemCap ⟨s, []⟩ ↔
    ∃ before digits behind after, ReadFrom s before digits behind after ∧
      q = progress s before digits behind after := by
  rw [EdgeCases.itemCap, ways, List.mem_append, mem_ways_antlersCap, mem_ways_bladeCap]
  constructor
  · rintro (⟨hlast, before, digits, behind, after, hframed, hdigits, hrest, hq⟩ |
      ⟨before, digits, behind, after, hframed, hdigits, hrest, hq⟩)
    · exact ⟨before, digits, behind, after, ⟨hdigits, Or.inl ⟨hlast, hframed⟩, hrest⟩, hq⟩
    · exact ⟨before, digits, behind, after, ⟨hdigits, Or.inr hframed, hrest⟩, hq⟩
  · rintro ⟨before, digits, behind, after, ⟨hdigits, ⟨hlast, hframed⟩ | hframed, hrest⟩, hq⟩
    · exact Or.inl ⟨hlast, before, digits, behind, after, hframed, hdigits, hrest, hq⟩
    · exact Or.inr ⟨before, digits, behind, after, hframed, hdigits, hrest, hq⟩

theorem capAt_iff : CapAt text start digits ↔
    ∃ before behind after, ReadFrom (Spot.ofOffset text start) before digits behind after := by
  have hword : StartsWord text start ↔ (Spot.ofOffset text start).last.any isWord = false := by
    rw [Option.any_eq_false, Spot.forall_last_ofOffset_iff]
    simp only [StartsWord]
  constructor
  · rintro ⟨hdigits, before, behind, ⟨after, hafter⟩, hframed⟩
    rw [hword] at hframed
    exact ⟨before, behind, after, hdigits, hframed, hafter.symm⟩
  · rintro ⟨before, behind, after, hdigits, hframed, hrest⟩
    rw [← hword] at hframed
    exact ⟨hdigits, before, behind, ⟨after, hrest.symm⟩, hframed⟩

/-- The pattern of a dialect, like the one of both, matches a cap with its digits. -/
theorem readFrom_of_matchAt? {pattern : Pattern}
    (hpattern : ways pattern ⟨s, []⟩ ⊆ ways EdgeCases.itemCap ⟨s, []⟩)
    (h : pattern.matchAt? s = some m) : ∃ before behind after,
      ReadFrom s before (m.group 1) behind after ∧
        m.stop = s.passed + (before ++ m.group 1 ++ behind).length := by
  obtain ⟨q, hq, rfl⟩ := exists_mem_ways_of_matchAt? h
  obtain ⟨before, digits, behind, after, hread, rfl⟩ := mem_ways_itemCap.mp (hpattern hq)
  have hmatch := matchFrom_past hread.rest_eq [⟨1, digits ++ (behind ++ after), digits.length⟩]
  have hgroup : (matchFrom s (progress s before digits behind after)).group 1 = digits := by
    rw [progress, hmatch]
    exact List.take_left
  rw [hgroup]
  refine ⟨before, behind, after, hread, ?_⟩
  rw [progress, hmatch]

theorem capAt_of_matchAt? {pattern : Pattern}
    (hpattern : ∀ p, ways pattern p ⊆ ways EdgeCases.itemCap p)
    (h : pattern.matchAt? (Spot.ofOffset text start) = some m) : CapAt text start (m.group 1) := by
  obtain ⟨before, behind, after, hread, -⟩ := readFrom_of_matchAt? (hpattern _) h
  exact capAt_iff.mpr ⟨before, behind, after, hread⟩

/-- What a search finds with the pattern of a dialect is a cap. -/
theorem capAt_of_find? {dialect : Dialect}
    (h : (if dialect = .blade then bladeCap else antlersCap).find? text = some m) :
    CapAt text m.start (m.group 1) := by
  refine capAt_of_matchAt? (fun p => ?_) (find?_eq_some_iff.mp h).2.1
  split
  · exact List.subset_append_right _ _
  · exact List.subset_append_left _ _

/-- And where a cap stands, its digits are read. -/
theorem CapAt.exists_matchAt? (h : CapAt text start digits) :
    ∃ m, EdgeCases.itemCap.matchAt? (Spot.ofOffset text start) = some m ∧ m.group 1 = digits := by
  obtain ⟨before, behind, after, hread⟩ := capAt_iff.mp h
  have hsome : (EdgeCases.itemCap.matchAt? (Spot.ofOffset text start)).isSome = true :=
    (matchAt?_isSome_iff _ _).mpr ⟨_, mem_ways_itemCap.mpr ⟨_, _, _, _, hread, rfl⟩⟩
  obtain ⟨m, hm⟩ := Option.isSome_iff_exists.mp hsome
  exact ⟨m, hm, (capAt_of_matchAt? (fun _ => List.Subset.refl _) hm).digits_eq.trans h.digits_eq.symm⟩

/-- A match ends before the next cap starts. -/
theorem CapAt.stop_le (h : CapAt text start digits)
    (hm : EdgeCases.itemCap.matchAt? (Spot.ofOffset text m.start) = some m) (hlt : m.start < start) :
    m.stop ≤ start := by
  obtain ⟨before, behind, after, ⟨hdigits, hframed, hrest⟩, hstop⟩ :=
    readFrom_of_matchAt? (List.Subset.refl _) hm
  obtain ⟨k, rfl⟩ := Nat.exists_eq_add_of_lt hlt
  by_contra hinside
  have hk : k + 1 < (before ++ m.group 1 ++ behind).length := by
    have hpassed : (Spot.ofOffset text m.start).passed = m.start := rfl
    omega
  obtain ⟨opening, hopening, hopens⟩ := h.exists_opening
  have hdrop : text.drop m.start = before ++ m.group 1 ++ behind ++ after := hrest
  rw [Nat.add_assoc, ← List.drop_drop, hdrop] at hopens
  exact not_opens_inside hdigits (hframed.imp_left And.right) (Nat.succ_pos k) hk opening hopening
    hopens

/-- **The search for caps finds each of them**, since none starts inside another one. -/
theorem exists_mem_findAll_iff :
    (∃ m ∈ EdgeCases.itemCap.findAll text, m.start = start ∧ m.group 1 = digits) ↔
      CapAt text start digits := by
  constructor
  · rintro ⟨m, hm, rfl, rfl⟩
    exact capAt_of_matchAt? (fun _ => List.Subset.refl _) (mem_findAll_iff.mp hm).2.1
  · intro h
    obtain ⟨m, hmatch, hgroup⟩ := h.exists_matchAt?
    obtain rfl : m.start = start := (matchAt?_eq_some hmatch).1
    refine ⟨m, mem_findAll_iff.mpr ⟨h.start_le, hmatch, fun earlier hearlier hlt => ?_⟩, rfl, hgroup⟩
    exact h.stop_le (mem_findAll_iff.mp hearlier).2.1 hlt

/-! ## Caps in a slice -/

/-- Inside a slice, the characters in front of an offset are those of the text. -/
theorem StartsWord.of_slice {slice : Text} {k : Nat} (h : StartsWord slice k)
    (hslice : slice <+: text.drop start) (hpos : 0 < k) (hle : k ≤ slice.length) :
    StartsWord text (start + k) := by
  intro j c hj hc
  obtain ⟨i, rfl⟩ := Nat.exists_eq_succ_of_ne_zero (Nat.ne_of_gt hpos)
  obtain rfl : j = start + i := by omega
  obtain ⟨more, hmore⟩ := hslice
  refine h i c rfl ?_
  rw [← List.getElem?_append_left hle, hmore, List.getElem?_drop, hc]

/-- A cap in a slice is one of the whole text, unless the slice itself starts with the letter of a
parameter. -/
theorem CapAt.of_slice {slice : Text} {k : Nat} (h : CapAt slice k digits)
    (hslice : slice <+: text.drop start) (hstart : (text.drop start).head? ≠ some 'l') :
    CapAt text (start + k) digits := by
  have hle := h.start_le
  obtain ⟨hdigits, before, behind, hreads, hframed⟩ := h
  have hthere : before ++ digits ++ behind <+: text.drop (start + k) := by
    rw [← List.drop_drop]
    exact hreads.trans (hslice.drop k)
  refine ⟨hdigits, before, behind, hthere, hframed.imp_left ?_⟩
  rintro ⟨hword, hparameter⟩
  refine ⟨hword.of_slice hslice (Nat.pos_of_ne_zero ?_) hle, hparameter⟩
  -- otherwise the parameter would stand at the start of the slice
  rintro rfl
  obtain ⟨after, hafter⟩ := hthere
  obtain ⟨-, -⟩ := hparameter
  refine hstart ?_
  rw [← Nat.add_zero start, ← hafter]
  rfl

end ItemCap
end TemplateLint
