import TemplateLint.Proofs.Block.Moved
import TemplateLint.Proofs.Text.Cut
import TemplateLint.Rule.Structure

/-!
# Texts behind which nothing is open

A text is settled if closing braces follow every opening in it and it does not end in a character
that could take part in an opening behind it.  What stands behind a settled text is read as if it stood
alone: the tags (`Tag.scan_append`), the openings (`StructureRules.openings_append`) and those of them
that lack their closing braces (`StructureRules.unterminatedIn_append`) are those of the settled text,
followed by those of the other text moved behind it.
-/
namespace TemplateLint

open Pattern

/-- Closing braces follow every opening of a text, and no opening can start at its end or be escaped by
it. -/
structure Settled (text : Text) : Prop where
  closed : ∀ rest, openBraces ++ rest <:+ text → closeBraces <:+: rest
  last : ∀ c ∈ text.getLast?, c ≠ '@' ∧ c ≠ '\x7b'

/-- The check that a text is settled. -/
def isSettled (text : Text) : Bool :=
  (text.tails.all fun rest =>
    !openBraces.isPrefixOf rest || Text.contains (rest.drop 2) closeBraces) &&
  text.getLast?.all fun c => c != '@' && c != '\x7b'

theorem isSettled_iff (text : Text) : isSettled text = true ↔ Settled text := by
  unfold isSettled
  rw [Bool.and_eq_true, List.all_eq_true, Option.all_eq_true]
  constructor
  · rintro ⟨hclosed, hlast⟩
    refine ⟨fun rest hrest => ?_, fun c hc => by simpa using hlast c hc⟩
    have hopen := hclosed _ ((List.mem_tails _ _).mpr hrest)
    rw [List.isPrefixOf_iff_prefix.mpr (List.prefix_append openBraces rest)] at hopen
    exact (Text.contains_iff rest closeBraces).mp hopen
  · intro h
    refine ⟨fun rest hrest => ?_, fun c hc => by simpa using h.last c hc⟩
    cases hopen : openBraces.isPrefixOf rest with
    | false => rfl
    | true =>
      obtain ⟨body, rfl⟩ := List.isPrefixOf_iff_prefix.mp hopen
      exact (Text.contains_iff body closeBraces).mpr (h.closed body ((List.mem_tails _ _).mp hrest))

instance (text : Text) : Decidable (Settled text) := decidable_of_iff _ (isSettled_iff text)

/-- Closing braces at the end of a text close every opening in it. -/
theorem Settled.of_closed {text : Text} (h : closeBraces <:+ text) : Settled text := by
  refine ⟨fun rest hrest => ?_, fun c hc => ?_⟩
  · rcases Nat.lt_or_ge rest.length 2 with hshort | hlong
    · -- so short a rest would put an opening brace into the closing ones
      have hend : closeBraces <:+ openBraces ++ rest := by
        apply List.suffix_of_suffix_length_le h hrest
        rw [List.length_append]
        exact Nat.le_add_right 2 rest.length
      match rest, hshort with
      | [], _ => exact absurd hend (by decide)
      | [c], _ => exact absurd (List.cons.inj (List.suffix_iff_eq_drop.mp hend)).1 (by decide)
    · have hbehind : rest <:+ text := (List.suffix_append openBraces rest).trans hrest
      exact (List.suffix_of_suffix_length_le h hbehind hlong).isInfix
  · obtain ⟨front, rfl⟩ := h
    rw [List.getLast?_append] at hc
    obtain rfl : '\x7d' = c := Option.some.inj hc
    decide

/-! ## Where tags and openings stand -/

/-- Reading nothing where a refused character follows. -/
theorem Pattern.run_notAhead_one {β : Type} (refused : Char → Bool) (p : Progress)
    (go : Progress → Option β) :
    run (notAhead (one refused)) p go = if p.spot.rest.head?.any refused then none else go p := by
  obtain ⟨⟨passed, last, rest⟩, groups⟩ := p
  cases rest with
  | nil => rfl
  | cons c rest =>
    rw [run, run]
    show _ = if refused c then _ else _
    cases refused c <;> rfl

private theorem any_among_pair (last : Option Char) (a b : Char) :
    last.any (among [a, b]) = (last.any (· == a) || last.any (· == b)) := by
  cases last with
  | none => rfl
  | some c =>
    rw [Bool.eq_iff_iff]
    simp [among]

namespace Tag

/-- What stands between the braces of the tag at a place. -/
def innerAt? (last : Option Char) (rest : Text) : Option Text :=
  if openBraces.isPrefixOf rest && !last.any (among "@\x7b") &&
      !(rest.drop 2).head?.any (among "\x7b#") then
    (Text.indexOf? closeBraces (rest.drop 2)).map (rest.drop 2).take
  else none

/-- The match of the tag at a place with the given text between its braces. -/
def matchOf (passed : Nat) (inner : Text) : Match where
  start := passed
  stop := passed + (inner.length + 4)
  text := openBraces ++ inner ++ closeBraces
  groups := [(1, inner)]

/-- A tag is written as its braces with the text up to the nearest closing braces between. -/
theorem take_of_indexOf? {body : Text} {i : Nat} (h : Text.indexOf? closeBraces body = some i) :
    (openBraces ++ body).take (i + 4) = openBraces ++ body.take i ++ closeBraces := by
  obtain ⟨after, hafter⟩ := Text.prefix_of_indexOf? h
  have hle := Text.add_length_le_of_indexOf? h
  have hprefix : openBraces ++ body.take i ++ closeBraces <+: openBraces ++ body := by
    refine ⟨after, ?_⟩
    rw [List.append_assoc, List.append_assoc, hafter, List.take_append_drop]
  have hlength : (openBraces ++ body.take i ++ closeBraces).length = i + 4 := by
    rw [List.length_append, List.length_append, List.length_take, Nat.min_eq_left (by omega)]
    show 2 + i + 2 = i + 4
    omega
  have htake := List.prefix_iff_eq_take.mp hprefix
  rw [hlength] at htake
  exact htake.symm

/-- Where a tag stands and what it is. -/
theorem matchAt?_pattern (passed : Nat) (last : Option Char) (rest : Text) :
    pattern.matchAt? ⟨passed, last, rest⟩ = (innerAt? last rest).map (matchOf passed) := by
  have hlast : last.any (among "@\x7b") = _ := any_among_pair last '@' '\x7b'
  have hnext : (rest.drop 2).head?.any (among "\x7b#") = _ :=
    any_among_pair (rest.drop 2).head? '\x7b' '#'
  unfold matchAt? pattern innerAt?
  simp only [chain, ↓run_notAhead_one, run, run_lit, Spot.before?_id, hlast, hnext]
  -- the conditions one after another, in the order in which the pattern looks at them
  cases last.any (· == '@') with
  | true => simp
  | false =>
    cases last.any (· == '\x7b') with
    | true => simp
    | false =>
      cases hopen : openBraces.isPrefixOf rest with
      | false => simp
      | true =>
        obtain ⟨body, rfl⟩ := List.isPrefixOf_iff_prefix.mp hopen
        have hbody : (openBraces ++ body).drop 2 = body := rfl
        have htwo : openBraces.length = 2 := rfl
        rw [hbody, htwo, hbody]
        cases body.head?.any (· == '\x7b') with
        | true => simp
        | false =>
          cases body.head?.any (· == '#') with
          | true => simp
          | false =>
            cases hindex : Text.indexOf? closeBraces body with
            | none => simp
            | some i =>
              have hclose := List.isPrefixOf_iff_prefix.mpr (Text.prefix_of_indexOf? hindex)
              have htake := take_of_indexOf? hindex
              have hle := Text.add_length_le_of_indexOf? hindex
              have hlength : (body.take i).length = i := by
                rw [List.length_take, Nat.min_eq_left (by omega)]
              have hstop : passed + 2 + i + closeBraces.length = passed + (i + 4) := by
                show passed + 2 + i + 2 = passed + (i + 4)
                omega
              simp [matchOf, run_lit, Progress.capture, Capture.text, hclose, hlength, hstop, htake]

end Tag

namespace StructureRules

/-- An opening stands at a place. -/
def opensAt (last : Option Char) (rest : Text) : Bool :=
  openBraces.isPrefixOf rest && !last.any (· == '@') && !(rest.drop 2).head?.any (· == '\x7b')

theorem matchAt?_tagOpenPattern (passed : Nat) (last : Option Char) (rest : Text) :
    tagOpenPattern.matchAt? ⟨passed, last, rest⟩ =
      if opensAt last rest then some ⟨passed, passed + 2, openBraces, []⟩ else none := by
  unfold matchAt? tagOpenPattern opensAt
  simp only [chain, ↓run_notAhead_one, run, run_lit]
  cases last.any (· == '@') with
  | true => simp
  | false =>
    cases hopen : openBraces.isPrefixOf rest with
    | false => simp
    | true =>
      obtain ⟨body, rfl⟩ := List.isPrefixOf_iff_prefix.mp hopen
      have hbody : (openBraces ++ body).drop 2 = body := rfl
      have htwo : openBraces.length = 2 := rfl
      have htake : (openBraces ++ body).take 2 = openBraces := rfl
      rw [htwo, hbody, Nat.add_sub_cancel_left, htake]
      cases body.head?.any (· == '\x7b') <;> simp

end StructureRules

/-! ## Reading across the end of a settled text -/

namespace Settled

variable {first rest : Text}

/-- No opening starts in a settled text and goes on behind it. -/
theorem isPrefixOf_append (h : Settled first) (hne : rest ≠ []) (hsuffix : rest <:+ first)
    (second : Text) : openBraces.isPrefixOf (rest ++ second) = openBraces.isPrefixOf rest := by
  cases rest with
  | nil => exact absurd rfl hne
  | cons c more =>
    cases more with
    | cons d more =>
      apply Text.isPrefixOf_append
      show 2 ≤ more.length + 1 + 1
      omega
    | nil =>
      -- a last brace would be the first half of an opening
      obtain ⟨before, rfl⟩ := hsuffix
      have hc := (h.last c (by simp)).2
      have hfalse : ('\x7b' == c) = false := by simpa using fun he => hc he.symm
      simp [openBraces, List.isPrefixOf, hfalse]

/-- Behind an opening of a settled text something follows in it, with closing braces in it. -/
theorem closed_of_isPrefixOf (h : Settled first) (hsuffix : rest <:+ first)
    (hopen : openBraces.isPrefixOf rest = true) : closeBraces <:+: rest.drop 2 := by
  obtain ⟨body, rfl⟩ := List.isPrefixOf_iff_prefix.mp hopen
  exact h.closed body hsuffix

theorem drop_append (h : Settled first) (hsuffix : rest <:+ first)
    (hopen : openBraces.isPrefixOf rest = true) (second : Text) :
    (rest ++ second).drop 2 = rest.drop 2 ++ second ∧
      ((rest ++ second).drop 2).head? = (rest.drop 2).head? := by
  obtain ⟨body, rfl⟩ := List.isPrefixOf_iff_prefix.mp hopen
  have hclosed := h.closed_of_isPrefixOf hsuffix hopen
  have hbody : (openBraces ++ body).drop 2 = body := rfl
  have hwhole : (openBraces ++ body ++ second).drop 2 = body ++ second := rfl
  rw [hbody] at hclosed ⊢
  refine ⟨hwhole, ?_⟩
  rw [hwhole]
  cases body with
  | nil => exact absurd hclosed (by decide)
  | cons c body => rfl

theorem innerAt?_append (h : Settled first) (last : Option Char) (hne : rest ≠ [])
    (hsuffix : rest <:+ first) (second : Text) :
    Tag.innerAt? last (rest ++ second) = Tag.innerAt? last rest := by
  unfold Tag.innerAt?
  rw [h.isPrefixOf_append hne hsuffix second]
  cases hopen : openBraces.isPrefixOf rest with
  | false => rfl
  | true =>
    obtain ⟨hdrop, hhead⟩ := h.drop_append hsuffix hopen second
    have hclosed := h.closed_of_isPrefixOf hsuffix hopen
    rw [hhead, hdrop, Text.indexOf?_append hclosed]
    cases hindex : Text.indexOf? closeBraces (rest.drop 2) with
    | none => rfl
    | some i =>
      have hle := Text.add_length_le_of_indexOf? hindex
      rw [Option.map_some, Option.map_some, List.take_append_of_le_length (by omega)]

theorem opensAt_append (h : Settled first) (last : Option Char) (hne : rest ≠ [])
    (hsuffix : rest <:+ first) (second : Text) :
    StructureRules.opensAt last (rest ++ second) = StructureRules.opensAt last rest := by
  unfold StructureRules.opensAt
  rw [h.isPrefixOf_append hne hsuffix second]
  cases hopen : openBraces.isPrefixOf rest with
  | false => rfl
  | true => rw [(h.drop_append hsuffix hopen second).2]

/-- The end of a settled text neither escapes what follows nor makes it a part of other braces. -/
theorem innerAt?_last (h : Settled first) (rest : Text) :
    Tag.innerAt? first.getLast? rest = Tag.innerAt? none rest := by
  have hlast : first.getLast?.any (among "@\x7b") = false := by
    cases hc : first.getLast? with
    | none => rfl
    | some c =>
      have hne := h.last c hc
      simpa [among] using hne
  unfold Tag.innerAt?
  rw [hlast]
  rfl

theorem opensAt_last (h : Settled first) (rest : Text) :
    StructureRules.opensAt first.getLast? rest = StructureRules.opensAt none rest := by
  have hlast : first.getLast?.any (· == '@') = false := by
    cases hc : first.getLast? with
    | none => rfl
    | some c => simpa using (h.last c hc).1
  unfold StructureRules.opensAt
  rw [hlast]
  rfl

end Settled

/-- **The tags behind a settled text are read as if they stood alone.** -/
theorem Tag.scan_append {first : Text} (h : Settled first) (second : Text) :
    scan (first ++ second) = scan first ++ (scan second).map (moved (first.length + ·)) := by
  have hinside : ∀ passed last rest, rest ≠ [] → rest <:+ first →
      pattern.matchAt? ⟨passed, last, rest ++ second⟩ =
        pattern.matchAt? ⟨passed, last, rest⟩ := by
    intro passed last rest hne hsuffix
    rw [matchAt?_pattern, matchAt?_pattern, h.innerAt?_append last hne hsuffix second]
  have hbehind : ∀ passed, pattern.matchAt? ⟨passed, first.getLast?, second⟩ =
      pattern.matchAt? ⟨passed, none, second⟩ := by
    intro passed
    rw [matchAt?_pattern, matchAt?_pattern, h.innerAt?_last second]
  unfold scan
  rw [findAll_append rfl hinside hbehind, List.map_append, List.map_map, List.map_map]
  simp only [Function.comp_def, ← parse_moved]
  rfl

namespace StructureRules

variable {first second : Text}

/-- The offsets of the openings of a text. -/
def openings (text : Text) : List Nat := (tagOpenPattern.findAll text).map (·.start)

/-- The openings of a text whose closing braces do not come before the next opening. -/
def unterminatedIn (text : Text) : List Nat := unterminated text (openings text)

theorem openings_append (h : Settled first) (second : Text) :
    openings (first ++ second) = openings first ++ (openings second).map (first.length + ·) := by
  have hinside : ∀ passed last rest, rest ≠ [] → rest <:+ first →
      tagOpenPattern.matchAt? ⟨passed, last, rest ++ second⟩ =
        tagOpenPattern.matchAt? ⟨passed, last, rest⟩ := by
    intro passed last rest hne hsuffix
    rw [matchAt?_tagOpenPattern, matchAt?_tagOpenPattern, h.opensAt_append last hne hsuffix second]
  have hbehind : ∀ passed, tagOpenPattern.matchAt? ⟨passed, first.getLast?, second⟩ =
      tagOpenPattern.matchAt? ⟨passed, none, second⟩ := by
    intro passed
    rw [matchAt?_tagOpenPattern, matchAt?_tagOpenPattern, h.opensAt_last second]
  unfold openings
  rw [findAll_append rfl hinside hbehind, List.map_append, List.map_map, List.map_map]
  rfl

/-- The opening braces stand at the offset of an opening. -/
theorem prefix_of_mem_openings {text : Text} {start : Nat} (h : start ∈ openings text) :
    openBraces <+: text.drop start := by
  obtain ⟨m, hm, rfl⟩ := List.mem_map.mp h
  obtain ⟨k, last, -, hmatch⟩ := mem_allFrom hm
  rw [matchAt?_tagOpenPattern] at hmatch
  split at hmatch
  · next hopens =>
    obtain rfl := Option.some.inj hmatch
    simp only [opensAt, Bool.and_eq_true] at hopens
    show openBraces <+: text.drop (0 + k)
    rw [Nat.zero_add]
    exact List.isPrefixOf_iff_prefix.mp hopens.1.1
  · cases hmatch

/-- Closing braces follow every opening of a settled text. -/
theorem closed_of_mem_openings (h : Settled first) {start : Nat} (hstart : start ∈ openings first) :
    start + 2 ≤ first.length ∧ closeBraces <:+: first.drop (start + 2) := by
  obtain ⟨body, hbody⟩ := prefix_of_mem_openings hstart
  have hlength := congrArg List.length hbody
  rw [List.length_append, List.length_drop] at hlength
  have htwo : openBraces.length = 2 := rfl
  refine ⟨by omega, ?_⟩
  rw [← List.drop_drop, ← hbody]
  exact h.closed body (hbody ▸ List.drop_suffix start first)

/-- What lies behind an offset. -/
theorem slice_length (text : Text) (start : Nat) :
    Text.slice text start text.length = text.drop start := by
  unfold Text.slice
  rw [← List.length_drop, List.take_length]

/-- What lies between two offsets of the first part. -/
theorem slice_append_left {start stop : Nat} (hstop : stop ≤ first.length) (second : Text) :
    Text.slice (first ++ second) start stop = Text.slice first start stop := by
  unfold Text.slice
  rcases Nat.le_total start first.length with hle | hle
  · rw [List.drop_append_of_le_length hle, List.take_append_of_le_length]
    rw [List.length_drop]
    omega
  · have hzero : stop - start = 0 := by omega
    rw [hzero, List.take_zero, List.take_zero]

/-- What lies between two offsets of the second part. -/
theorem slice_append_right (first second : Text) (start stop : Nat) :
    Text.slice (first ++ second) (first.length + start) (first.length + stop) =
      Text.slice second start stop := by
  unfold Text.slice
  rw [← List.drop_drop, List.drop_left, Nat.add_sub_add_left]

/-- Openings of a settled text lack their closing braces only before the next opening of the same
text. -/
theorem unterminated_append_left {starts later : List Nat}
    (hstarts : ∀ s ∈ starts, s + 2 ≤ first.length ∧ closeBraces <:+: first.drop (s + 2))
    (hlater : ∀ s ∈ later, first.length ≤ s) :
    unterminated (first ++ second) (starts ++ later) =
      unterminated first starts ++ unterminated (first ++ second) later := by
  induction starts with
  | nil => rfl
  | cons s starts ih =>
    have hrest := ih fun t ht => hstarts t (List.mem_cons_of_mem s ht)
    obtain ⟨hlength, hclosed⟩ := hstarts s List.mem_cons_self
    -- up to the next opening both texts say the same, and behind the last one both have the braces
    have hsame : Text.contains
          (Text.slice (first ++ second) (s + 2) ((starts ++ later).headD (first ++ second).length))
          closeBraces =
        Text.contains (Text.slice first (s + 2) (starts.headD first.length)) closeBraces := by
      cases starts with
      | cons next starts =>
        have hnext := (hstarts next (by simp)).1
        show Text.contains (Text.slice _ _ next) _ = Text.contains (Text.slice _ _ next) _
        rw [slice_append_left (by omega)]
      | nil =>
        have hlimit : first.length ≤ later.headD (first ++ second).length := by
          cases later with
          | nil =>
            rw [List.headD_nil, List.length_append]
            omega
          | cons next later => exact hlater next List.mem_cons_self
        have hprefix : first.drop (s + 2) <+:
            Text.slice (first ++ second) (s + 2) (later.headD (first ++ second).length) := by
          unfold Text.slice
          rw [List.drop_append_of_le_length hlength, List.take_append, List.take_of_length_le]
          · exact List.prefix_append _ _
          · rw [List.length_drop]
            omega
        have hboth := (Text.contains_iff _ _).mpr (hclosed.trans hprefix.isInfix)
        rw [List.nil_append, hboth, List.headD_nil, slice_length,
          (Text.contains_iff _ _).mpr hclosed]
    rw [List.cons_append]
    simp only [unterminated]
    rw [hsame, hrest]
    split <;> rfl

theorem unterminated_append_right (first second : Text) (starts : List Nat) :
    unterminated (first ++ second) (starts.map (first.length + ·)) =
      (unterminated second starts).map (first.length + ·) := by
  induction starts with
  | nil => rfl
  | cons s starts ih =>
    have hlimit : (starts.map (first.length + ·)).headD (first ++ second).length =
        first.length + starts.headD second.length := by
      cases starts with
      | nil => exact List.length_append
      | cons next starts => rfl
    rw [List.map_cons]
    simp only [unterminated]
    rw [hlimit, Nat.add_assoc, slice_append_right, ih]
    split <;> rfl

/-- **Openings behind a settled text lack their closing braces as if they stood alone.** -/
theorem unterminatedIn_append (h : Settled first) (second : Text) :
    unterminatedIn (first ++ second) =
      unterminatedIn first ++ (unterminatedIn second).map (first.length + ·) := by
  unfold unterminatedIn
  rw [openings_append h, unterminated_append_left, unterminated_append_right]
  · exact fun s hs => closed_of_mem_openings h hs
  · intro s hs
    obtain ⟨t, -, rfl⟩ := List.mem_map.mp hs
    exact Nat.le_add_right first.length t

end StructureRules
end TemplateLint
