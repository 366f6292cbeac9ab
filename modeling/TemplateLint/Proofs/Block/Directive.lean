import TemplateLint.Block.Token
import TemplateLint.Proofs.Block.ArgumentList
import TemplateLint.Proofs.Text.Extended
import TemplateLint.Proofs.Text.Forward
import TemplateLint.Proofs.Text.Scanning
import TemplateLint.Proofs.Text.Ways

/-!
# The directives of a text

A directive is an at-sign that no word and no other at-sign precedes, with the name of a block behind it,
or that name behind `end`, as a whole word.  Where a directive is read, nothing else can be: the word
tells the name and whether it closes (`BlockToken.directiveWord_unique`), and as it holds no at-sign no
directive starts inside another one (`BlockToken.mem_findAll_directivePattern_iff`).  So the tokens of a
text are its directives, but for those that close themselves (`BlockToken.ofBlade_directives`).
-/
namespace TemplateLint
namespace BlockToken

open Pattern

variable {text : Text} {start : Nat} {closes : Bool} {name : Text}

/-- What stands in front of the name of a directive. -/
def endWord (closes : Bool) : Text := if closes then "end" else []

/-- What stands behind the at-sign of a directive. -/
def directiveWord (closes : Bool) (name : Text) : Text := endWord closes ++ name

/-- The offset behind the name of a directive. -/
def nameStop (start : Nat) (closes : Bool) (name : Text) : Nat :=
  start + 1 + (directiveWord closes name).length

/-- A directive stands at an offset. -/
structure DirectiveAt (text : Text) (start : Nat) (closes : Bool) (name : Text) : Prop where
  sign : text[start]? = some '@'
  before : ∀ k c, k + 1 = start → text[k]? = some c → c ≠ '@' ∧ isWord c = false
  name_mem : name ∈ directives
  word : directiveWord closes name <+: text.drop (start + 1)
  behind : ∀ c, text[nameStop start closes name]? = some c → isWord c = false

/-- Up to blanks a parenthesis follows, a quoted argument that holds no quote, and a comma. -/
def InlineArguments (text : Text) : Prop :=
  ∃ gap inside body behind after quote, (∀ c ∈ gap ++ inside ++ behind, isBlank c = true) ∧
    IsQuote quote ∧ (∀ c ∈ body, ¬ IsQuote c) ∧
    text = gap ++ '(' :: inside ++ quote :: body ++ quote :: behind ++ ',' :: after

/-- The directive at an offset closes itself. -/
def ClosesItself (text : Text) (start : Nat) (closes : Bool) (name : Text) : Prop :=
  closes = false ∧ name ∈ (["section", "push"] : List Text) ∧
    InlineArguments (text.drop (nameStop start closes name))

/-- The token of a directive of the text. -/
structure Directive (text : Text) (t : BlockToken) : Prop where
  directive : DirectiveAt text t.start t.isCloser t.name
  not_inline : ¬ ClosesItself text t.start t.isCloser t.name
  stop_eq : t.stop = if t.isCloser then nameStop t.start t.isCloser t.name
    else Arguments.stop text (nameStop t.start t.isCloser t.name)
  position_eq : t.position = Position.ofOffset text t.start
  text_eq : t.text = Text.slice text t.start t.stop

/-! ## The words of directives -/

/-- A plain letter or digit, as the words of directives are written with. -/
def isPlain (c : Char) : Bool := c.toNat < 128 && c.isAlphanum

theorem isWord_of_plain {word : Text} (h : word.all isPlain = true) :
    ∀ c ∈ word, isWord c = true := by
  intro c hc
  have hplain := List.all_eq_true.mp h c hc
  rw [isPlain, Bool.and_eq_true, decide_eq_true_iff] at hplain
  exact isWord_of_isAlphanum hplain.1 hplain.2

theorem plain_of_mem_directives : ∀ name ∈ directives, name ≠ [] ∧ name.all isPlain = true := by
  decide +kernel

theorem isWord_of_mem_directives (hname : name ∈ directives) : ∀ c ∈ name, isWord c = true :=
  isWord_of_plain (plain_of_mem_directives name hname).2

theorem isWord_of_mem_directiveWord (hname : name ∈ directives) :
    ∀ c ∈ directiveWord closes name, isWord c = true := by
  have hend : (endWord closes).all isPlain = true := by
    cases closes <;> decide +kernel
  exact List.forall_mem_append.mpr ⟨isWord_of_plain hend, isWord_of_mem_directives hname⟩

/-- A word tells the name of its directive and whether it closes. -/
theorem directiveWord_inj : ∀ closes closes' : Bool, ∀ name ∈ directives, ∀ name' ∈ directives,
    directiveWord closes name = directiveWord closes' name' → closes = closes' ∧ name = name' := by
  decide +kernel

/-! ## Reading a directive -/

theorem mem_ways_end {s : Spot} {q : Progress} :
    q ∈ ways (maybe (group 1 (lit "end"))) ⟨s, []⟩ ↔
      ∃ closes after, s.rest = endWord closes ++ after ∧
        q = ⟨s.past (endWord closes) after, if closes then [⟨1, s.rest, 3⟩] else []⟩ := by
  rw [mem_ways_maybe, mem_ways_group, Bool.exists_bool]
  constructor
  · rintro (⟨r, hr, rfl⟩ | rfl)
    · obtain ⟨after, hrest, rfl⟩ := mem_ways_lit.mp hr
      exact Or.inr ⟨after, hrest, capture_past 1 _ after⟩
    · exact Or.inl ⟨s.rest, rfl, rfl⟩
  · rintro (⟨after, rfl, rfl⟩ | ⟨after, hrest, rfl⟩)
    · exact Or.inr rfl
    · exact Or.inl ⟨_, mem_ways_lit.mpr ⟨after, hrest, rfl⟩, (capture_past 1 _ after).symm⟩

/-- A word ends where no other word character follows it. -/
theorem isEdge_past (s : Spot) {word after : Text} (hne : word ≠ [])
    (hword : ∀ c ∈ word, isWord c = true) :
    isEdge (s.past word after).last after.head? = true ↔ after.head?.any isWord = false := by
  have hlast : (s.past word after).last = some (word.getLast hne) := by
    rw [Spot.past, List.getLast?_eq_some_getLast hne]
    rfl
  rw [hlast]
  exact isEdge_behind_iff (hword _ (List.getLast_mem hne))

/-- The place behind a directive, with its name and its `end` as they were read. -/
def directiveEnd (s : Spot) (closes : Bool) (name after : Text) : Progress where
  spot := s.past ('@' :: directiveWord closes name) after
  groups := ⟨2, name ++ after, name.length⟩ ::
    if closes then [⟨1, directiveWord closes name ++ after, 3⟩] else []

theorem mem_ways_directivePattern {s : Spot} {q : Progress} :
    q ∈ ways directivePattern ⟨s, []⟩ ↔
      s.last.any (fun c => c == '@' || isWord c) = false ∧ ∃ closes name after,
        name ∈ directives ∧ s.rest = '@' :: (directiveWord closes name ++ after) ∧
          after.head?.any isWord = false ∧ q = directiveEnd s closes name after := by
  have hpast : ∀ (closes : Bool) (name after : Text),
      ((s.past "@" (directiveWord closes name ++ after)).past (endWord closes) (name ++ after)).past
        name after = s.past ('@' :: directiveWord closes name) after := by
    intro closes name after
    rw [Spot.past_past, Spot.past_past]
    rfl
  constructor
  · intro hq
    obtain ⟨_, hr, hq⟩ := List.mem_flatMap.mp hq
    obtain ⟨hlast, rfl⟩ := mem_ways_notAfter.mp hr
    obtain ⟨_, hr, hq⟩ := List.mem_flatMap.mp hq
    obtain ⟨left, hrest, rfl⟩ := mem_ways_lit.mp hr
    obtain ⟨_, hr, hq⟩ := List.mem_flatMap.mp hq
    obtain ⟨closes, left', hleft, rfl⟩ := mem_ways_end.mp hr
    obtain ⟨_, hr, hq⟩ := List.mem_flatMap.mp hq
    obtain ⟨name, hname, after, hleft', rfl⟩ := mem_ways_group_texts.mp hr
    obtain ⟨hedge, rfl⟩ := mem_ways_edge.mp hq
    obtain rfl : left' = name ++ after := hleft'
    obtain rfl : left = directiveWord closes name ++ after := by
      rw [directiveWord, List.append_assoc]
      exact hleft
    have hne := (plain_of_mem_directives name hname).1
    have hafter := (isEdge_past _ hne (isWord_of_mem_directives hname)).mp hedge
    refine ⟨hlast, closes, name, after, hname, hrest, hafter, ?_⟩
    rw [hpast, directiveEnd]
    rfl
  · rintro ⟨hlast, closes, name, after, hname, hrest, hafter, rfl⟩
    have hne := (plain_of_mem_directives name hname).1
    refine List.mem_flatMap.mpr ⟨_, mem_ways_notAfter.mpr ⟨hlast, rfl⟩, ?_⟩
    refine List.mem_flatMap.mpr ⟨_, mem_ways_lit.mpr
      ⟨directiveWord closes name ++ after, hrest, rfl⟩, ?_⟩
    refine List.mem_flatMap.mpr ⟨_, mem_ways_end.mpr ⟨closes, name ++ after, ?_, rfl⟩, ?_⟩
    · exact List.append_assoc _ _ _
    refine List.mem_flatMap.mpr ⟨_, mem_ways_group_texts.mpr ⟨name, hname, after, rfl, rfl⟩, ?_⟩
    refine mem_ways_edge.mpr
      ⟨(isEdge_past _ hne (isWord_of_mem_directives hname)).mpr hafter, ?_⟩
    rw [hpast, directiveEnd]
    rfl

/-- Of two directives that can be read at a place one is the other. -/
theorem directiveWord_unique {closes' : Bool} {name' after after' : Text}
    (hname : name ∈ directives) (hname' : name' ∈ directives)
    (hafter : after.head?.any isWord = false) (hafter' : after'.head?.any isWord = false)
    (h : directiveWord closes name ++ after = directiveWord closes' name' ++ after') :
    closes = closes' ∧ name = name' ∧ after = after' := by
  have hword : directiveWord closes name = directiveWord closes' name' := by
    rw [← Text.takeWhile_append_of_head (isWord_of_mem_directiveWord hname) hafter, h,
      Text.takeWhile_append_of_head (isWord_of_mem_directiveWord hname') hafter']
  obtain ⟨rfl, rfl⟩ := directiveWord_inj closes closes' name hname name' hname' hword
  exact ⟨rfl, rfl, List.append_cancel_left h⟩

/-- The match of a directive. -/
def directiveMatch (start : Nat) (closes : Bool) (name : Text) : Match where
  start := start
  stop := nameStop start closes name
  text := '@' :: directiveWord closes name
  groups := (2, name) :: if closes then [(1, "end")] else []

theorem matchFrom_directiveEnd {s : Spot} {after : Text}
    (hrest : s.rest = '@' :: (directiveWord closes name ++ after)) :
    matchFrom s (directiveEnd s closes name after) = directiveMatch s.passed closes name := by
  have hstop : s.passed + ('@' :: directiveWord closes name).length =
      nameStop s.passed closes name := by
    rw [nameStop, List.length_cons]
    omega
  have hname : (name ++ after).take name.length = name := List.take_left
  rw [directiveEnd, matchFrom_past hrest, hstop, directiveMatch, Match.mk.injEq]
  refine ⟨rfl, rfl, rfl, ?_⟩
  cases closes
  · simp [Capture.text, hname]
  · simp [Capture.text, hname, directiveWord, endWord]

/-- The character that stands behind the name of a directive. -/
theorem head?_behind {after : Text}
    (h : text.drop (start + 1) = directiveWord closes name ++ after) :
    after.head? = text[nameStop start closes name]? := by
  rw [nameStop, ← List.head?_drop, ← List.drop_drop, h, List.drop_left]

/-- A directive at an offset, as the search looks at it. -/
theorem directiveAt_iff (text : Text) (start : Nat) (closes : Bool) (name : Text) :
    DirectiveAt text start closes name ↔
      (Spot.ofOffset text start).last.any (fun c => c == '@' || isWord c) = false ∧
        ∃ after, name ∈ directives ∧ text.drop start = '@' :: (directiveWord closes name ++ after) ∧
          after.head?.any isWord = false := by
  have hlast : (Spot.ofOffset text start).last.any (fun c => c == '@' || isWord c) = false ↔
      ∀ k c, k + 1 = start → text[k]? = some c → c ≠ '@' ∧ isWord c = false := by
    rw [Option.any_eq_false, Spot.forall_last_ofOffset_iff]
    simp
  rw [hlast]
  constructor
  · intro h
    obtain ⟨after, hafter⟩ := h.word
    refine ⟨h.before, after, h.name_mem, ?_, ?_⟩
    · have hhead : '@' ∈ (text.drop start).head? := List.head?_drop.trans h.sign
      rw [List.eq_cons_of_mem_head? hhead, List.tail_drop, hafter]
    · rw [head?_behind hafter.symm, Option.any_eq_false]
      exact h.behind
  · rintro ⟨hbefore, after, hname, hdrop, hafter⟩
    have hrest : text.drop (start + 1) = directiveWord closes name ++ after := by
      rw [← List.tail_drop, hdrop, List.tail_cons]
    refine ⟨?_, hbefore, hname, ⟨after, hrest.symm⟩, ?_⟩
    · rw [← List.head?_drop, hdrop, List.head?_cons]
    · rwa [head?_behind hrest, Option.any_eq_false] at hafter

/-- Which match the search finds at an offset. -/
theorem matchAt?_directivePattern_iff (text : Text) (start : Nat) (m : Match) :
    directivePattern.matchAt? (Spot.ofOffset text start) = some m ↔
      ∃ closes name, DirectiveAt text start closes name ∧ m = directiveMatch start closes name := by
  rw [matchAt?_iff_of_unique]
  · simp only [mem_ways_directivePattern, directiveAt_iff]
    constructor
    · rintro ⟨_, ⟨hlast, closes, name, after, hname, hdrop, hafter, rfl⟩, rfl⟩
      exact ⟨closes, name, ⟨hlast, after, hname, hdrop, hafter⟩, matchFrom_directiveEnd hdrop⟩
    · rintro ⟨closes, name, ⟨hlast, after, hname, hdrop, hafter⟩, rfl⟩
      exact ⟨_, ⟨hlast, closes, name, after, hname, hdrop, hafter, rfl⟩,
        (matchFrom_directiveEnd (s := Spot.ofOffset text start) hdrop).symm⟩
  · intro q hq q' hq'
    obtain ⟨-, closes, name, after, hname, hdrop, hafter, rfl⟩ := mem_ways_directivePattern.mp hq
    obtain ⟨-, closes', name', after', hname', hdrop', hafter', rfl⟩ :=
      mem_ways_directivePattern.mp hq'
    have hsame := List.cons.inj (hdrop.symm.trans hdrop')
    obtain ⟨rfl, rfl, rfl⟩ := directiveWord_unique hname hname' hafter hafter' hsame.2
    rfl

/-- A directive ends before the next at-sign. -/
theorem DirectiveAt.stop_le (h : DirectiveAt text start closes name) {offset : Nat}
    (hlt : start < offset) (hsign : text[offset]? = some '@') :
    nameStop start closes name ≤ offset := by
  by_contra hge
  rw [nameStop] at hge
  obtain ⟨k, rfl⟩ := Nat.exists_eq_add_of_lt hlt
  have hk : k < (directiveWord closes name).length := by omega
  have hword : (directiveWord closes name)[k]? = some '@' := by
    obtain ⟨after, hafter⟩ := h.word
    rw [← List.getElem?_append_left hk, hafter, List.getElem?_drop, ← hsign]
    congr 1
    omega
  have hmem := isWord_of_mem_directiveWord h.name_mem _ (List.mem_of_getElem? hword)
  exact absurd hmem (by decide)

/-- The search finds the directives of a text: none of them starts inside another one. -/
theorem mem_findAll_directivePattern_iff {m : Match} : m ∈ directivePattern.findAll text ↔
    ∃ start closes name, DirectiveAt text start closes name ∧
      m = directiveMatch start closes name := by
  constructor
  · intro hm
    obtain ⟨-, hmatch, -⟩ := mem_findAll_iff.mp hm
    exact ⟨m.start, (matchAt?_directivePattern_iff text m.start m).mp hmatch⟩
  · rintro ⟨start, closes, name, h, rfl⟩
    have hstart : start < text.length := (List.getElem?_eq_some_iff.mp h.sign).1
    refine mem_findAll_iff.mpr ⟨Nat.le_of_lt hstart, ?_, fun earlier hearlier hlt => ?_⟩
    · exact (matchAt?_directivePattern_iff text start _).mpr ⟨closes, name, h, rfl⟩
    · -- an earlier directive holds no other at-sign, so it ends before this one
      obtain ⟨-, hmatch, -⟩ := mem_findAll_iff.mp hearlier
      obtain ⟨closes', name', h', heq⟩ := (matchAt?_directivePattern_iff text _ earlier).mp hmatch
      rw [heq]
      exact h'.stop_le hlt h.sign

/-! ## Directives that close themselves -/

theorem among_quotes_iff (c : Char) : among "'\"" c = true ↔ IsQuote c := by
  rw [among, decide_eq_true_iff, IsQuote]
  exact List.mem_pair

theorem except_quotes_iff (c : Char) : except "'\"" c = true ↔ ¬ IsQuote c := by
  rw [← among_quotes_iff, among, except, decide_eq_true_iff, decide_eq_true_iff]

/-- A quoted argument goes up to the quote that opens it, and the rest is read behind. -/
theorem exists_mem_ways_quoted {s : Spot} {rest : Pattern} :
    (∃ q, q ∈ ways (chain [group 1 (one (among "'\"")), many 0 (except "'\""), same 1 id, rest])
        ⟨s, []⟩) ↔
      ∃ quote body after, IsQuote quote ∧ (∀ c ∈ body, ¬ IsQuote c) ∧
        s.rest = quote :: body ++ quote :: after ∧
          ∃ q, q ∈ ways rest ⟨s.past (quote :: body ++ [quote]) after, [⟨1, s.rest, 1⟩]⟩ := by
  have hpast : ∀ (quote : Char) (body after : Text),
      ((s.past [quote] (body ++ quote :: after)).past body (quote :: after)).past [quote] after =
        s.past (quote :: body ++ [quote]) after := by
    intro quote body after
    rw [Spot.past_past, Spot.past_past]
    rfl
  constructor
  · intro h
    obtain ⟨_, hr, h⟩ := exists_mem_ways_seq.mp h
    obtain ⟨_, hone, rfl⟩ := mem_ways_group.mp hr
    obtain ⟨quote, left, hrest, hquote, rfl⟩ := mem_ways_one.mp hone
    rw [capture_past] at h
    obtain ⟨_, hr, h⟩ := exists_mem_ways_seq.mp h
    obtain ⟨body, left', hleft, hbody, rfl⟩ := mem_ways_many_zero.mp hr
    obtain ⟨_, hr, h⟩ := exists_mem_ways_seq.mp h
    obtain ⟨kept, after, hkept, hleft', rfl⟩ := mem_ways_same.mp hr
    obtain rfl : [quote] = kept := by
      rw [hrest] at hkept
      exact Option.some.inj hkept
    obtain rfl : left' = quote :: after := hleft'
    obtain rfl : left = body ++ quote :: after := hleft
    rw [hpast] at h
    exact ⟨quote, body, after, (among_quotes_iff quote).mp hquote,
      fun c hc => (except_quotes_iff c).mp (hbody c hc), hrest, h⟩
  · rintro ⟨quote, body, after, hquote, hbody, hrest, h⟩
    have hone : (⟨s.past [quote] (body ++ quote :: after), []⟩ : Progress) ∈
        ways (one (among "'\"")) ⟨s, []⟩ :=
      mem_ways_one.mpr ⟨quote, _, hrest, (among_quotes_iff quote).mpr hquote, rfl⟩
    refine exists_mem_ways_seq.mpr ⟨_, mem_ways_group.mpr ⟨_, hone, rfl⟩, ?_⟩
    rw [capture_past]
    have hexcept : ∀ c ∈ body, except "'\"" c = true :=
      fun c hc => (except_quotes_iff c).mpr (hbody c hc)
    refine exists_mem_ways_seq.mpr ⟨_, mem_ways_many_zero.mpr
      ⟨body, quote :: after, rfl, hexcept, rfl⟩, ?_⟩
    refine exists_mem_ways_seq.mpr ⟨_, mem_ways_same.mpr ⟨[quote], after, ?_, rfl, rfl⟩, ?_⟩
    · rw [hrest]
      rfl
    · rwa [hpast]

/-- What the search for a second argument finds behind the name of a directive. -/
theorem matchAt?_inlinePattern_iff (s : Spot) :
    (inlinePattern.matchAt? s).isSome = true ↔ InlineArguments s.rest := by
  rw [matchAt?_isSome_iff]
  constructor
  · intro h
    obtain ⟨_, hr, h⟩ := exists_mem_ways_seq.mp h
    obtain ⟨gap, left, hrest, hgap, rfl⟩ := mem_ways_many_zero.mp hr
    obtain ⟨_, hr, h⟩ := exists_mem_ways_seq.mp h
    obtain ⟨left', hopen, rfl⟩ := mem_ways_lit.mp hr
    obtain ⟨_, hr, h⟩ := exists_mem_ways_seq.mp h
    obtain ⟨inside, left'', hinside, hblank, rfl⟩ := mem_ways_many_zero.mp hr
    obtain ⟨quote, body, left, hquote, hbody, hquoted, h⟩ := exists_mem_ways_quoted.mp h
    obtain ⟨_, hr, q, hq⟩ := exists_mem_ways_seq.mp h
    obtain ⟨behind, left', hbehind, hblank', rfl⟩ := mem_ways_many_zero.mp hr
    obtain ⟨after, hcomma, rfl⟩ := mem_ways_lit.mp hq
    refine ⟨gap, inside, body, behind, after, quote, ?_, hquote, hbody, ?_⟩
    · exact List.forall_mem_append.mpr ⟨List.forall_mem_append.mpr ⟨hgap, hblank⟩, hblank'⟩
    · simp only [Spot.past_rest] at hopen hinside hquoted hbehind hcomma
      rw [hrest, hopen, hinside, hquoted, hbehind, hcomma]
      simp
  · rintro ⟨gap, inside, body, behind, after, quote, hblank, hquote, hbody, hrest⟩
    obtain ⟨hblank, hbehind⟩ := List.forall_mem_append.mp hblank
    obtain ⟨hgap, hinside⟩ := List.forall_mem_append.mp hblank
    simp only [List.append_assoc, List.cons_append] at hrest
    refine exists_mem_ways_seq.mpr ⟨_, mem_ways_many_zero.mpr ⟨gap, _, hrest, hgap, rfl⟩, ?_⟩
    refine exists_mem_ways_seq.mpr ⟨_, mem_ways_lit.mpr ⟨_, rfl, rfl⟩, ?_⟩
    refine exists_mem_ways_seq.mpr ⟨_, mem_ways_many_zero.mpr ⟨inside, _, rfl, hinside, rfl⟩, ?_⟩
    refine exists_mem_ways_quoted.mpr ⟨quote, body, _, hquote, hbody, rfl, ?_⟩
    refine exists_mem_ways_seq.mpr ⟨_, mem_ways_many_zero.mpr ⟨behind, _, rfl, hbehind, rfl⟩, ?_⟩
    exact ⟨_, mem_ways_lit.mpr ⟨after, rfl, rfl⟩⟩

theorem isInline_iff (name text : Text) (offset : Nat) : isInline name text offset = true ↔
    name ∈ (["section", "push"] : List Text) ∧ InlineArguments (text.drop offset) := by
  rw [isInline, Bool.and_eq_true, decide_eq_true_iff, matchAt?_inlinePattern_iff]
  rfl

/-! ## The tokens of a text -/

/-- The token that stands at an offset. -/
def directiveToken (text : Text) (start : Nat) (closes : Bool) (name : Text) : BlockToken :=
  let behind := nameStop start closes name
  let stop := if closes then behind else Arguments.stop text behind
  { name := name
    isCloser := closes
    start := start
    stop := stop
    position := Position.ofOffset text start
    text := Text.slice text start stop }

/-- A directive has its token unless it closes itself. -/
theorem ofDirective?_eq_some_iff {t : BlockToken} :
    ofDirective? text (directiveMatch start closes name) = some t ↔
      ¬ ClosesItself text start closes name ∧ t = directiveToken text start closes name := by
  have hname : (directiveMatch start closes name).group 2 = name := rfl
  have hstop : (directiveMatch start closes name).stop = nameStop start closes name := rfl
  have hcloses : ((directiveMatch start closes name).groups.lookup 1).isSome = closes := by
    cases closes <;> rfl
  have hinline : (!closes && isInline name text (nameStop start closes name)) = true ↔
      ClosesItself text start closes name := by
    rw [Bool.and_eq_true, isInline_iff, Bool.not_eq_true']
    rfl
  unfold ofDirective?
  simp only [hname, hcloses, hstop]
  by_cases h : ClosesItself text start closes name
  · rw [if_pos (hinline.mpr h)]
    simp [h]
  · rw [if_neg (fun hself => h (hinline.mp hself)), Option.some.injEq]
    exact ⟨fun ht => ⟨h, ht.symm⟩, fun ht => ht.2.symm⟩

theorem mem_ofBlade_iff {t : BlockToken} : t ∈ ofBlade text ↔ Directive text t := by
  rw [ofBlade, List.mem_filterMap]
  constructor
  · rintro ⟨m, hm, ht⟩
    obtain ⟨start, closes, name, h, rfl⟩ := mem_findAll_directivePattern_iff.mp hm
    obtain ⟨hself, rfl⟩ := ofDirective?_eq_some_iff.mp ht
    exact ⟨h, hself, rfl, rfl, rfl⟩
  · intro h
    refine ⟨_, mem_findAll_directivePattern_iff.mpr ⟨_, _, _, h.directive, rfl⟩, ?_⟩
    refine ofDirective?_eq_some_iff.mpr ⟨h.not_inline, ?_⟩
    obtain ⟨name, closes, start, stop, position, written⟩ := t
    have hwritten := h.text_eq.trans (congrArg (Text.slice text start) h.stop_eq)
    exact (mk.injEq ..).mpr ⟨rfl, rfl, rfl, h.stop_eq, h.position_eq, hwritten⟩

/-- **The tokens of a text are the directives that do not close themselves**, in the order in which they
stand. -/
theorem ofBlade_directives (text : Text) :
    (∀ t, t ∈ ofBlade text ↔ Directive text t) ∧
      (ofBlade text).Pairwise fun t later => t.start < later.start := by
  refine ⟨fun t => mem_ofBlade_iff, ?_⟩
  rw [ofBlade, List.pairwise_filterMap]
  refine (findAll_pairwise directivePattern text).imp_of_mem ?_
  intro m later hm hlater hlt t ht t' ht'
  obtain ⟨start, closes, name, -, rfl⟩ := mem_findAll_directivePattern_iff.mp hm
  obtain ⟨start', closes', name', -, rfl⟩ := mem_findAll_directivePattern_iff.mp hlater
  obtain ⟨-, rfl⟩ := ofDirective?_eq_some_iff.mp ht
  obtain ⟨-, rfl⟩ := ofDirective?_eq_some_iff.mp ht'
  exact hlt.1

/-- The longest name counts, an at-sign in front of another one escapes it, and a section with a second
argument closes itself. -/
example :
    let text : Text := "@foreach(x) @@if @section('a', 'b') @forelsea @push ('s') @endfor"
    (ofBlade text).map (fun t => (t.start, t.stop, t.isCloser, t.name)) =
      [(0, 11, false, ("foreach" : Text)), (46, 57, false, ("push" : Text)),
        (58, 65, true, ("for" : Text))] := by
  decide +kernel

end BlockToken
end TemplateLint
