import Mathlib.Data.List.Sort
import TemplateLint.Proofs.Antlers.Settled
import TemplateLint.Proofs.Text.Scanning

/-!
# The tags of a text

Where a tag may start is said by the characters around its opening braces, and it ends behind the nearest
closing braces.  A scan from left to right starts a tag wherever one may start, except inside a tag
before it.  The condition `Tag.Scanned` says just that of a list of tags, and the tags of a text are the
one list that satisfies it (`Tag.scan_scanned`).
-/
namespace TemplateLint
namespace Tag

open Pattern

variable {text : Text} {start stop : Nat}

/-- The braces at an offset may open a tag: they are neither escaped nor part of other braces, and they
open no comment. -/
structure OpensAt (text : Text) (start : Nat) : Prop where
  braces : openBraces <+: text.drop start
  before : ∀ k c, k + 1 = start → text[k]? = some c → c ≠ '@' ∧ c ≠ '\x7b'
  behind : ∀ c, text[start + 2]? = some c → c ≠ '\x7b' ∧ c ≠ '#'

/-- The nearest closing braces from an offset on end at another offset. -/
structure ClosesAt (text : Text) (origin stop : Nat) : Prop where
  le : origin + 2 ≤ stop
  braces : closeBraces <+: text.drop (stop - 2)
  nearest : ∀ k, origin ≤ k → k < stop - 2 → ¬ closeBraces <+: text.drop k

/-- The tag between two offsets. -/
def between (text : Text) (start stop : Nat) : Tag :=
  parse (Text.slice text (start + 2) (stop - 2)) start (Text.slice text start stop)

/-- What a scan from left to right makes of a text: an offset starts a tag exactly if it does not lie
before the end of an earlier tag, braces open a tag there, and closing braces follow; and each tag ends
behind the nearest ones. -/
structure Scanned (text : Text) (tags : List Tag) : Prop where
  starts_iff : ∀ start, (∃ t ∈ tags, t.start = start) ↔
    (∀ t ∈ tags, t.start < start → t.stop ≤ start) ∧ OpensAt text start ∧
      ∃ k, start + 2 ≤ k ∧ closeBraces <+: text.drop k
  closes : ∀ t ∈ tags, ClosesAt text (t.start + 2) t.stop
  reads : ∀ t ∈ tags, t = between text t.start t.stop
  increasing : tags.Pairwise fun t later => t.start < later.start

/-! ## Where a tag can be read -/

/-- Behind an offset the nearest closing braces are the first ones of the rest. -/
theorem closesAt_iff (text : Text) (origin stop : Nat) : ClosesAt text origin stop ↔
    ∃ i, Text.indexOf? closeBraces (text.drop origin) = some i ∧ stop = origin + i + 2 := by
  simp only [Text.indexOf?_eq_some_iff, List.drop_drop]
  constructor
  · rintro ⟨hle, hbraces, hnearest⟩
    have hplace : origin + (stop - 2 - origin) = stop - 2 := by omega
    refine ⟨stop - 2 - origin, ⟨by rwa [hplace], fun j hj => ?_⟩, by omega⟩
    exact hnearest (origin + j) (Nat.le_add_right origin j) (by omega)
  · rintro ⟨i, ⟨hbraces, hnone⟩, rfl⟩
    refine ⟨by omega, hbraces, fun k hk hlt => ?_⟩
    have hplace : origin + (k - origin) = k := by omega
    rw [← hplace]
    exact hnone (k - origin) (by omega)

theorem exists_closesAt_iff (text : Text) (origin : Nat) :
    (∃ stop, ClosesAt text origin stop) ↔ ∃ k, origin ≤ k ∧ closeBraces <+: text.drop k := by
  constructor
  · rintro ⟨stop, h⟩
    have hle := h.le
    exact ⟨stop - 2, by omega, h.braces⟩
  · rintro ⟨k, hk, hbraces⟩
    have hplace : origin + (k - origin) = k := by omega
    have hoccurs : closeBraces <:+: text.drop origin := by
      rw [← hplace, ← List.drop_drop] at hbraces
      exact hbraces.isInfix.trans (List.drop_suffix _ _).isInfix
    obtain ⟨i, hi⟩ := Option.isSome_iff_exists.mp ((Text.isSome_indexOf?_iff _ _).mpr hoccurs)
    exact ⟨origin + i + 2, (closesAt_iff text origin _).mpr ⟨i, hi, rfl⟩⟩

theorem ClosesAt.unique {origin stop' : Nat} (h : ClosesAt text origin stop)
    (h' : ClosesAt text origin stop') : stop = stop' := by
  obtain ⟨i, hi, rfl⟩ := (closesAt_iff text origin stop).mp h
  obtain ⟨i', hi', rfl⟩ := (closesAt_iff text origin stop').mp h'
  rw [Option.some.inj (hi.symm.trans hi')]

/-- Between the braces of a tag there are no closing braces. -/
theorem ClosesAt.no_braces_inside {origin : Nat} (h : ClosesAt text origin stop) :
    ¬ closeBraces <:+: Text.slice text origin (stop - 2) := by
  rintro ⟨front, after, hslice⟩
  obtain ⟨tail, htail⟩ : Text.slice text origin (stop - 2) <+: text.drop origin :=
    List.take_prefix _ _
  have hlength := congrArg List.length hslice
  rw [Text.slice, List.length_append, List.length_append, List.length_take] at hlength
  have htwo : closeBraces.length = 2 := rfl
  -- braces inside would be nearer ones
  apply h.nearest (origin + front.length) (Nat.le_add_right _ _) (by omega)
  rw [← List.drop_drop, ← htail, ← hslice, List.append_assoc, List.append_assoc, List.drop_left]
  exact List.prefix_append _ _

/-- The condition on the characters around the braces, as the search looks at it. -/
theorem opensAt_iff (text : Text) (start : Nat) : OpensAt text start ↔
    (openBraces.isPrefixOf (text.drop start) &&
      !(Spot.ofOffset text start).last.any (among "@\x7b") &&
      !((text.drop start).drop 2).head?.any (among "\x7b#")) = true := by
  have hbehind : ((text.drop start).drop 2).head? = text[start + 2]? := by
    rw [List.drop_drop, List.head?_drop]
  have hnot : ∀ (found : Option Char) (a b : Char), (!found.any (among [a, b])) = true ↔
      ∀ c, found = some c → c ≠ a ∧ c ≠ b := by
    intro found a b
    cases found <;> simp [among]
  rw [hbehind, Bool.and_eq_true, Bool.and_eq_true, List.isPrefixOf_iff_prefix]
  constructor
  · rintro ⟨hbraces, hbefore, hnext⟩
    have hlast := Spot.forall_last_ofOffset_iff.mpr hbefore
    exact ⟨⟨hbraces, (hnot _ '@' '\x7b').mpr hlast⟩, (hnot _ '\x7b' '#').mpr hnext⟩
  · rintro ⟨⟨hbraces, hbefore⟩, hnext⟩
    have hlast := (hnot _ '@' '\x7b').mp hbefore
    exact ⟨hbraces, Spot.forall_last_ofOffset_iff.mp hlast, (hnot _ '\x7b' '#').mp hnext⟩

/-- What can be read at an offset: a tag, if its braces open one there and closing braces follow. -/
theorem innerAt?_iff (text : Text) (start : Nat) (inner : Text) :
    innerAt? (Spot.ofOffset text start).last (text.drop start) = some inner ↔
      OpensAt text start ∧ ∃ stop, ClosesAt text (start + 2) stop ∧
        inner = Text.slice text (start + 2) (stop - 2) := by
  unfold innerAt?
  by_cases hopens : OpensAt text start
  · rw [if_pos ((opensAt_iff text start).mp hopens), Option.map_eq_some_iff, List.drop_drop]
    simp only [closesAt_iff]
    constructor
    · rintro ⟨i, hi, rfl⟩
      refine ⟨hopens, _, ⟨i, hi, rfl⟩, ?_⟩
      rw [Text.slice, Nat.add_sub_cancel, Nat.add_sub_cancel_left]
    · rintro ⟨-, stop, ⟨i, hi, rfl⟩, rfl⟩
      refine ⟨i, hi, ?_⟩
      rw [Text.slice, Nat.add_sub_cancel, Nat.add_sub_cancel_left]
  · rw [if_neg (fun h => hopens ((opensAt_iff text start).mpr h))]
    constructor
    · intro h
      cases h
    · rintro ⟨hopens', -⟩
      exact absurd hopens' hopens

/-! ## The scan -/

/-- The match of the tag between two offsets. -/
def matchBetween (text : Text) (start stop : Nat) : Match where
  start := start
  stop := stop
  text := Text.slice text start stop
  groups := [(1, Text.slice text (start + 2) (stop - 2))]

theorem matchOf_slice (hopens : OpensAt text start) (hcloses : ClosesAt text (start + 2) stop) :
    matchOf start (Text.slice text (start + 2) (stop - 2)) = matchBetween text start stop := by
  obtain ⟨i, hi, rfl⟩ := (closesAt_iff text (start + 2) stop).mp hcloses
  obtain ⟨body, hbody⟩ := hopens.braces
  have hdrop : text.drop (start + 2) = body := by
    rw [← List.drop_drop, ← hbody]
    rfl
  have hroom := Text.add_length_le_of_indexOf? hi
  have hwritten := take_of_indexOf? hi
  have hinner : Text.slice text (start + 2) (start + 2 + i + 2 - 2) =
      (text.drop (start + 2)).take i := by
    rw [Text.slice, Nat.add_sub_cancel, Nat.add_sub_cancel_left]
  have hwhole : Text.slice text start (start + 2 + i + 2) =
      (openBraces ++ text.drop (start + 2)).take (i + 4) := by
    have hcount : start + 2 + i + 2 - start = i + 4 := by omega
    rw [Text.slice, hcount, hdrop, hbody]
  have hlength : ((text.drop (start + 2)).take i).length = i := by
    rw [List.length_take, Nat.min_eq_left (by omega)]
  rw [matchBetween, hinner, hwhole, hwritten, matchOf, hlength, Match.mk.injEq]
  exact ⟨rfl, by omega, rfl, rfl⟩

/-- Which match the search finds at an offset. -/
theorem matchAt?_ofOffset_iff (text : Text) (start : Nat) (m : Match) :
    pattern.matchAt? (Spot.ofOffset text start) = some m ↔
      OpensAt text start ∧ ∃ stop, ClosesAt text (start + 2) stop ∧
        m = matchBetween text start stop := by
  have hspot : Spot.ofOffset text start =
      ⟨start, (Spot.ofOffset text start).last, text.drop start⟩ := rfl
  rw [hspot, matchAt?_pattern, Option.map_eq_some_iff]
  constructor
  · rintro ⟨inner, hinner, rfl⟩
    obtain ⟨hopens, stop, hcloses, rfl⟩ := (innerAt?_iff text start inner).mp hinner
    exact ⟨hopens, stop, hcloses, matchOf_slice hopens hcloses⟩
  · rintro ⟨hopens, stop, hcloses, rfl⟩
    exact ⟨_, (innerAt?_iff text start _).mpr ⟨hopens, stop, hcloses, rfl⟩,
      matchOf_slice hopens hcloses⟩

/-- A tag lies inside the text. -/
theorem ClosesAt.le_length {origin : Nat} (h : ClosesAt text origin stop) : stop ≤ text.length := by
  obtain ⟨i, hi, rfl⟩ := (closesAt_iff text origin stop).mp h
  have hroom := Text.add_length_le_of_indexOf? hi
  have htwo : closeBraces.length = 2 := rfl
  rw [List.length_drop] at hroom
  omega

theorem length_slice (hle : stop ≤ text.length) :
    (Text.slice text start stop).length = stop - start := by
  rw [Text.slice, List.length_take, List.length_drop]
  omega

theorem start_between (text : Text) (start stop : Nat) : (between text start stop).start = start := by
  unfold between parse
  rfl

theorem raw_between (text : Text) (start stop : Nat) :
    (between text start stop).raw = Text.slice text start stop := by
  unfold between parse
  rfl

/-- The tag between two offsets ends at the second one. -/
theorem stop_between (hcloses : ClosesAt text (start + 2) stop) :
    (between text start stop).stop = stop := by
  have hle := hcloses.le
  show start + (Text.slice text start stop).length = stop
  rw [length_slice hcloses.le_length]
  omega

/-- A tag of a text is the tag between its offsets, and its match has the same offsets. -/
theorem mem_scan_iff (t : Tag) : t ∈ scan text ↔
    ∃ m ∈ pattern.findAll text, OpensAt text m.start ∧ ClosesAt text (m.start + 2) m.stop ∧
      t = between text m.start m.stop := by
  unfold scan
  rw [List.mem_map]
  refine exists_congr fun m => and_congr_right fun hm => ?_
  obtain ⟨-, hmatch, -⟩ := mem_findAll_iff.mp hm
  obtain ⟨hopens, stop, hcloses, heq⟩ := (matchAt?_ofOffset_iff text m.start m).mp hmatch
  obtain rfl : m.stop = stop := congrArg Match.stop heq
  have hparse : parse (m.group 1) m.start m.text = between text m.start m.stop := by
    rw [congrArg (Match.group · 1) heq, congrArg Match.text heq]
    rfl
  rw [hparse]
  exact ⟨fun h => ⟨hopens, hcloses, h.symm⟩, fun h => h.2.2.symm⟩

/-- The tags of a text are what the scan makes of it. -/
theorem scanned_scan (text : Text) : Scanned text (scan text) where
  starts_iff start := by
    constructor
    · rintro ⟨t, ht, rfl⟩
      obtain ⟨m, hm, hopens, hcloses, rfl⟩ := (mem_scan_iff t).mp ht
      rw [start_between]
      refine ⟨fun earlier hearlier hlt => ?_, hopens, (exists_closesAt_iff _ _).mp ⟨_, hcloses⟩⟩
      obtain ⟨m', hm', -, hcloses', rfl⟩ := (mem_scan_iff earlier).mp hearlier
      rw [start_between] at hlt
      rw [stop_between hcloses']
      exact stop_le_start hm' hm hlt
    · rintro ⟨hearlier, hopens, hbraces⟩
      obtain ⟨stop, hcloses⟩ := (exists_closesAt_iff text (start + 2)).mpr hbraces
      have hmatch := (matchAt?_ofOffset_iff text start _).mpr ⟨hopens, stop, hcloses, rfl⟩
      have hstart : start ≤ text.length := by
        have hinside := hcloses.le
        have hend := hcloses.le_length
        omega
      have hbehind : ∀ m ∈ pattern.findAll text, m.start < start → m.stop ≤ start := by
        intro m hm hlt
        obtain ⟨-, hmatch', -⟩ := mem_findAll_iff.mp hm
        obtain ⟨hopens', stop', hcloses', heq⟩ := (matchAt?_ofOffset_iff text m.start m).mp hmatch'
        obtain rfl : m.stop = stop' := congrArg Match.stop heq
        have hmem := (mem_scan_iff _).mpr ⟨m, hm, hopens', hcloses', rfl⟩
        have hle := hearlier _ hmem (by rw [start_between]; exact hlt)
        rwa [stop_between hcloses'] at hle
      have hm : matchBetween text start stop ∈ pattern.findAll text :=
        mem_findAll_iff.mpr ⟨hstart, hmatch, hbehind⟩
      exact ⟨between text start stop, (mem_scan_iff _).mpr ⟨_, hm, hopens, hcloses, rfl⟩,
        start_between text start stop⟩
  closes t ht := by
    obtain ⟨m, -, -, hcloses, rfl⟩ := (mem_scan_iff t).mp ht
    rw [start_between, stop_between hcloses]
    exact hcloses
  reads t ht := by
    obtain ⟨m, -, -, hcloses, rfl⟩ := (mem_scan_iff t).mp ht
    rw [start_between, stop_between hcloses]
  increasing := by
    unfold scan
    exact List.pairwise_map.mpr ((findAll_pairwise pattern text).imp And.left)

namespace Scanned

variable {tags others : List Tag}

/-- A tag of a scan is told by its start. -/
theorem eq_of_start_eq (h : Scanned text tags) (h' : Scanned text others) {t t' : Tag}
    (ht : t ∈ tags) (ht' : t' ∈ others) (hstart : t.start = t'.start) : t = t' := by
  have hcloses := h'.closes t' ht'
  rw [← hstart] at hcloses
  rw [h.reads t ht, h'.reads t' ht', hstart, (h.closes t ht).unique hcloses]

/-- If two lists of scanned tags are the same up to an offset, both start a tag there or neither
does. -/
theorem mem_of_mem (h : Scanned text tags) (h' : Scanned text others) {t : Tag} (ht : t ∈ tags)
    (hbefore : ∀ t' ∈ others, t'.start < t.start → t' ∈ tags) : t ∈ others := by
  obtain ⟨hearlier, hopens, hbraces⟩ := (h.starts_iff t.start).mp ⟨t, ht, rfl⟩
  obtain ⟨t', ht', hstart⟩ := (h'.starts_iff t.start).mpr
    ⟨fun earlier hmem hlt => hearlier earlier (hbefore earlier hmem hlt) hlt, hopens, hbraces⟩
  rw [h.eq_of_start_eq h' ht ht' hstart.symm]
  exact ht'

theorem mem_iff (h : Scanned text tags) (h' : Scanned text others) (t : Tag) :
    t ∈ tags ↔ t ∈ others := by
  induction hn : t.start using Nat.strongRecOn generalizing t with
  | ind start ih =>
    subst hn
    exact ⟨fun ht => h.mem_of_mem h' ht fun t' ht' hlt => (ih _ hlt t' rfl).mpr ht',
      fun ht => h'.mem_of_mem h ht fun t' ht' hlt => (ih _ hlt t' rfl).mp ht'⟩

/-- A scan makes one list of tags only. -/
theorem unique (h : Scanned text tags) (h' : Scanned text others) : tags = others := by
  have : Std.Irrefl fun t later : Tag => t.start < later.start := ⟨fun _ => Nat.lt_irrefl _⟩
  have : Std.Antisymm fun t later : Tag => t.start < later.start :=
    ⟨fun _ _ hlt hgt => absurd hgt (Nat.lt_asymm hlt)⟩
  exact h.increasing.eq_of_mem_iff h'.increasing (h.mem_iff h')

end Scanned

/-- **The tags of a text are what a scan from left to right makes of it**, and nothing else is.  They
stand one behind the other, each is written as the text between its offsets, and no closing braces stand
between its braces. -/
theorem scan_scanned (text : Text) :
    (∀ tags, tags = scan text ↔ Scanned text tags) ∧
    ((scan text).Pairwise fun t later => t.start < t.stop ∧ t.stop ≤ later.start) ∧
    ∀ t ∈ scan text, t.raw = Text.slice text t.start t.stop ∧
      ¬ closeBraces <:+: Text.slice text (t.start + 2) (t.stop - 2) := by
  have h := scanned_scan text
  refine ⟨fun tags => ⟨fun htags => htags ▸ h, fun htags => htags.unique h⟩, ?_, fun t ht => ?_⟩
  · refine h.increasing.imp_of_mem fun {t later} ht hlater hlt => ?_
    have hle := (h.closes t ht).le
    exact ⟨by omega, ((h.starts_iff later.start).mp ⟨later, hlater, rfl⟩).1 t ht hlt⟩
  · refine ⟨?_, (h.closes t ht).no_braces_inside⟩
    conv_lhs => rw [h.reads t ht]
    exact raw_between text t.start t.stop

/-- Among three braces no two open a tag: a brace follows the first two and stands in front of the
last two. -/
example :
    let text : Text := "\x7b\x7b a \x7d\x7d\x7d\x7b\x7b\x7b b \x7d\x7d@\x7b\x7b c \x7d\x7d"
    (scan text).map (·.start) = [0] := by
  decide +kernel

end Tag
end TemplateLint
