import TemplateLint.Proofs.Block.Spans

/-!
# What only one loop repeats

The body of a loop is copied piece by piece, with a cursor that jumps behind each loop that is cut out.
A stretch that none of these loops reaches into is kept in one piece (`directBody_keeps`).  Where the
loops that are cut do not cross, one that starts before the cursor lies in one that was cut already, so
exactly the characters outside of all of them are kept (`cutLoops_eq`).  What is kept of a loop belongs to
no other loop of the given names inside it: every offset is kept for at most one of them, the innermost
one around it (`directBody_innermost`).
-/
namespace TemplateLint

/-! ## Texts at offsets -/

/-- Offsets from one place to another, by a place between them. -/
theorem range'_split {start middle stop : Nat} (h : start ≤ middle) (h' : middle ≤ stop) :
    List.range' start (stop - start) =
      List.range' start (middle - start) ++ List.range' middle (stop - middle) := by
  have hmiddle : start + (middle - start) = middle := Nat.add_sub_of_le h
  have hsize : stop - start = (middle - start) + (stop - middle) := by omega
  rw [hsize, ← List.range'_append_1, hmiddle]

namespace Text

/-- The characters of a text at some offsets. -/
def pick (text : Text) (offsets : List Nat) : Text := offsets.filterMap (text[·]?)

theorem pick_append (text : Text) (first second : List Nat) :
    pick text (first ++ second) = pick text first ++ pick text second :=
  List.filterMap_append

theorem take_drop_eq_pick (text : Text) (start size : Nat) :
    (text.drop start).take size = pick text (List.range' start size) := by
  induction size generalizing start with
  | zero => rfl
  | succ size ih =>
    rw [List.range'_succ, pick, List.filterMap_cons]
    by_cases hlt : start < text.length
    · rw [List.drop_eq_getElem_cons hlt, List.take_succ_cons, ih, List.getElem?_eq_getElem hlt]
      rfl
    · have hle : text.length ≤ start := Nat.le_of_not_lt hlt
      have hlater : [] = pick text (List.range' (start + 1) size) := by
        rw [← ih, List.drop_eq_nil_of_le (Nat.le_succ_of_le hle), List.take_nil]
      rw [List.drop_eq_nil_of_le hle, List.getElem?_eq_none hle, List.take_nil]
      exact hlater

theorem slice_eq_pick (text : Text) (start stop : Nat) :
    slice text start stop = pick text (List.range' start (stop - start)) :=
  take_drop_eq_pick text start (stop - start)

/-- A text between two places, by a place between them. -/
theorem slice_split (text : Text) {start middle stop : Nat} (h : start ≤ middle)
    (h' : middle ≤ stop) :
    slice text start stop = slice text start middle ++ slice text middle stop := by
  rw [slice_eq_pick, range'_split h h', pick_append, ← slice_eq_pick, ← slice_eq_pick]

/-- A text between two places holds what stands between places inside. -/
theorem exists_slice_eq (text : Text) {start first last stop : Nat} (hstart : start ≤ first)
    (hle : first ≤ last) (hstop : last ≤ stop) :
    ∃ before after, slice text start stop = before ++ slice text first last ++ after := by
  refine ⟨slice text start first, slice text last stop, ?_⟩
  rw [slice_split text hstart (hle.trans hstop), slice_split text hle hstop, List.append_assoc]

end Text

namespace Block

/-- The offsets of the body of a construct. -/
def bodyOffsets (b : Block) : List Nat :=
  List.range' b.opener.stop (b.closer.start - b.opener.stop)

theorem body_eq_pick (text : Text) (b : Block) : b.body text = Text.pick text b.bodyOffsets :=
  Text.slice_eq_pick text b.opener.stop b.closer.start

theorem mem_bodyOffsets_iff {b : Block} {offset : Nat} :
    offset ∈ b.bodyOffsets ↔ b.opener.stop ≤ offset ∧ offset < b.closer.start := by
  rw [bodyOffsets, List.mem_range'_1]
  omega

/-- An offset lies in the body of a construct, and in none of the other ones inside it. -/
def directOffsets (blocks : List Block) (b : Block) : List Nat :=
  b.bodyOffsets.filter fun offset =>
    decide (∀ c ∈ blocks, b.contains c = true → ¬ c.Covers offset)

/-- No opener of some constructs stands in the opener of another one, where only its argument list has
room for it. -/
def OpenersApart (blocks : List Block) : Prop :=
  ∀ b ∈ blocks, ∀ c ∈ blocks, b.start < c.start → b.opener.stop ≤ c.start

instance (blocks : List Block) : Decidable (OpenersApart blocks) :=
  inferInstanceAs (Decidable (∀ b ∈ blocks, ∀ c ∈ blocks, _ → _))

end Block

open Block

/-! ## Cutting loops out -/

/-- A stretch that no loop reaches into is kept in one piece. -/
theorem cutLoops_keeps {text : Text} {stop cursor first last : Nat} {loops : List Block}
    (hcursor : cursor ≤ first) (hle : first ≤ last) (hstop : last ≤ stop)
    (hapart : ∀ b ∈ loops, last ≤ b.start ∨ b.stop ≤ first) :
    ∃ before after, cutLoops text stop cursor loops = before ++ Text.slice text first last ++ after := by
  induction loops generalizing cursor with
  | nil => exact Text.exists_slice_eq text hcursor hle hstop
  | cons b more ih =>
    obtain ⟨hb, hmore⟩ := List.forall_mem_cons.mp hapart
    rw [cutLoops]
    split
    · exact ih hcursor hmore
    · rcases hb with hahead | hbehind
      · obtain ⟨before, after, heq⟩ := Text.exists_slice_eq text hcursor hle hahead
        refine ⟨before, after ++ cutLoops text stop b.stop more, ?_⟩
        rw [heq, List.append_assoc]
      · obtain ⟨before, after, heq⟩ := ih hbehind hmore
        refine ⟨Text.slice text cursor b.start ++ before, after, ?_⟩
        rw [heq, List.append_assoc, List.append_assoc, List.append_assoc]

/-- A stretch of the body of a loop that no loop of the names reaches into is left in one piece. -/
theorem directBody_keeps (text : Text) {loops : List Block} {names : List Text} {b : Block}
    {first last : Nat} (hfirst : b.opener.stop ≤ first) (hle : first ≤ last)
    (hlast : last ≤ b.closer.start) (hapart : ∀ c ∈ loops, c.name ∈ names → b.contains c = true →
      last ≤ c.start ∨ c.stop ≤ first) :
    ∃ before after, directBody text loops names b = before ++ Text.slice text first last ++ after := by
  refine cutLoops_keeps hfirst hle hlast fun c hc => ?_
  obtain ⟨hc, hcut⟩ := List.mem_filter.mp hc
  rw [Bool.and_eq_true, decide_eq_true_iff] at hcut
  exact hapart c hc hcut.2 hcut.1

/-- Where no loop of the names starts right behind such a stretch, nor the closer, the character there is
left behind it. -/
theorem directBody_keeps_next {text : Text} {loops : List Block} {names : List Text} {b : Block}
    {first last : Nat} (hfirst : b.opener.stop ≤ first) (hle : first ≤ last)
    (hlast : last < b.closer.start) (htext : b.closer.start ≤ text.length)
    (hapart : ∀ c ∈ loops, c.name ∈ names → b.contains c = true →
      last < c.start ∨ c.stop ≤ first) :
    ∃ before after, directBody text loops names b = before ++ Text.slice text first last ++ after ∧
      after.head? = text[last]? := by
  obtain ⟨before, after, hkept⟩ := directBody_keeps text hfirst (Nat.le_succ_of_le hle) hlast hapart
  have hinside : last < text.length := Nat.lt_of_lt_of_le hlast htext
  have hone : Text.slice text last (last + 1) = [text[last]] := by
    rw [Text.slice, Nat.add_sub_cancel_left, List.drop_eq_getElem_cons hinside, List.take_succ_cons,
      List.take_zero]
  refine ⟨before, text[last] :: after, ?_, ?_⟩
  · rw [hkept, Text.slice_split text hle (Nat.le_succ last), hone, ← List.append_assoc,
      List.append_assoc]
    rfl
  · rw [List.head?_cons, List.getElem?_eq_getElem hinside]

/-- The offsets that lie in none of some loops. -/
def uncovered (loops : List Block) (offsets : List Nat) : List Nat :=
  offsets.filter fun offset => decide (∀ b ∈ loops, ¬ b.Covers offset)

section
variable {b : Block} {more : List Block} {start size : Nat}

/-- A loop does not matter behind its end. -/
theorem uncovered_behind (h : b.stop ≤ start) :
    uncovered (b :: more) (List.range' start size) = uncovered more (List.range' start size) := by
  refine List.filter_congr fun offset hoffset => ?_
  have hge := (List.mem_range'_1.mp hoffset).1
  have houtside : ¬ b.Covers offset := fun hcovers =>
    absurd hcovers.2 (Nat.not_lt.mpr (h.trans hge))
  simp [houtside]

/-- In front of the first loop all offsets are free. -/
theorem uncovered_ahead (hfirst : ∀ c ∈ more, b.start < c.start) (h : start + size ≤ b.start) :
    uncovered (b :: more) (List.range' start size) = List.range' start size := by
  refine List.filter_eq_self.mpr fun offset hoffset => decide_eq_true fun c hc hcovers => ?_
  have hbefore := (List.mem_range'_1.mp hoffset).2
  have hstart := hcovers.1
  rcases List.mem_cons.mp hc with rfl | hc
  · omega
  · have hlater := hfirst c hc
    omega

/-- Inside of a loop no offset is free. -/
theorem uncovered_inside (h : b.start ≤ start) (h' : start + size ≤ b.stop) :
    uncovered (b :: more) (List.range' start size) = [] := by
  refine List.filter_eq_nil_iff.mpr fun offset hoffset hkept => ?_
  have hmem := List.mem_range'_1.mp hoffset
  exact of_decide_eq_true hkept b List.mem_cons_self ⟨by omega, by omega⟩

theorem uncovered_append (loops : List Block) (first second : List Nat) :
    uncovered loops (first ++ second) = uncovered loops first ++ uncovered loops second :=
  List.filter_append ..

end

/-- From a cursor on that lies in none of some loops, the characters outside of all of them are kept. -/
theorem cutLoops_eq {text : Text} {stop cursor : Nat} {loops : List Block}
    (hincreasing : loops.Pairwise (·.start < ·.start)) (hnone : NoneCross loops)
    (hspans : ∀ b ∈ loops, b.start < b.stop ∧ b.stop ≤ stop)
    (hcursor : ∀ b ∈ loops, b.start < cursor → b.stop ≤ cursor) :
    cutLoops text stop cursor loops =
      Text.pick text (uncovered loops (List.range' cursor (stop - cursor))) := by
  induction loops generalizing cursor with
  | nil => simp [cutLoops, uncovered, Text.slice_eq_pick]
  | cons b more ih =>
    obtain ⟨hfirst, hincreasing⟩ := List.pairwise_cons.mp hincreasing
    obtain ⟨⟨hlt, hle⟩, hspans'⟩ := List.forall_mem_cons.mp hspans
    have hnone' : NoneCross more := fun c hc d hd =>
      hnone c (List.mem_cons_of_mem b hc) d (List.mem_cons_of_mem b hd)
    rw [cutLoops]
    split
    · next hbehind =>
      -- the loop was cut with one around it
      rw [ih hincreasing hnone' hspans' fun c hc => hcursor c (List.mem_cons_of_mem b hc),
        uncovered_behind (hcursor b List.mem_cons_self hbehind)]
    · next hahead =>
      have hahead : cursor ≤ b.start := Nat.le_of_not_lt hahead
      have hinner : ∀ c ∈ more, c.start < b.stop → c.stop ≤ b.stop := by
        intro c hc hstart
        have hlater := hfirst c hc
        have hcovers : c.Covers c.start := ⟨Nat.le_refl _, (hspans' c hc).1⟩
        rcases (hnone b List.mem_cons_self c (List.mem_cons_of_mem b hc)).of_covers
          ⟨Nat.le_of_lt hlater, hstart⟩ hcovers with rfl | h | h
        · exact Nat.le_refl _
        · exact (contains_iff.mp h).2
        · exact absurd hlater (Nat.lt_asymm (contains_iff.mp h).1)
      rw [ih hincreasing hnone' hspans' hinner, range'_split (hahead.trans (Nat.le_of_lt hlt)) hle,
        range'_split hahead (Nat.le_of_lt hlt), uncovered_append, uncovered_append,
        uncovered_ahead hfirst (by omega), uncovered_inside (Nat.le_refl _) (by omega),
        uncovered_behind (Nat.le_refl _), List.append_nil, Text.pick_append, Text.slice_eq_pick]

/-- The loops of some names. -/
def loopsNamed (loops : List Block) (names : List Text) : List Block :=
  loops.filter fun b => decide (b.name ∈ names)

/-- Where the loops of some names neither cross nor stand in the opener of one another, cutting them out of
one of them leaves what lies in none of those inside it. -/
theorem directBody_eq {text : Text} {loops : List Block} {names : List Text} {b : Block}
    (harranged : Arranged loops) (hnone : NoneCross (loopsNamed loops names))
    (hapart : OpenersApart (loopsNamed loops names)) (hb : b ∈ loopsNamed loops names) :
    directBody text loops names b = Text.pick text (directOffsets (loopsNamed loops names) b) := by
  have hmem : ∀ c, c ∈ (loops.filter fun inner => b.contains inner && decide (inner.name ∈ names)) ↔
      c ∈ loopsNamed loops names ∧ b.contains c = true := by
    intro c
    rw [loopsNamed, List.mem_filter, List.mem_filter, Bool.and_eq_true]
    tauto
  have hloop : ∀ {c}, c ∈ loopsNamed loops names → c ∈ loops := fun hc => List.mem_of_mem_filter hc
  rw [directBody, cutLoops_eq (harranged.increasing.sublist List.filter_sublist)]
  · rw [directOffsets, bodyOffsets, uncovered]
    simp only [hmem, and_imp]
  · intro c hc d hd
    exact hnone c ((hmem c).mp hc).1 d ((hmem d).mp hd).1
  · intro c hc
    obtain ⟨hc, hcontains⟩ := (hmem c).mp hc
    exact ⟨harranged.start_lt_stop (hloop hc), harranged.stop_le_closer (hloop hb) (hloop hc) hcontains⟩
  · -- a loop inside starts behind the opener, so none starts before the first cursor
    intro c hc hstart
    obtain ⟨hc, hcontains⟩ := (hmem c).mp hc
    exact absurd hstart (Nat.not_lt.mpr (hapart b hb c hc (contains_iff.mp hcontains).1))

/-- The loops of some names in a text. -/
def namedLoops (dialect : Dialect) (text : Text) (names : List Text) : List Block :=
  loopsNamed (loopsOf dialect text) names

/-- **The direct bodies of the loops of a text.**  Where the loops of some names do not cross and none
opens in the opener of another one, the direct body of each of them is its body without what lies in one
of them inside it.  So a character is left to the innermost of the loops around it alone. -/
theorem directBody_innermost (dialect : Dialect) (text : Text) (names : List Text)
    (hnone : NoneCross (namedLoops dialect text names))
    (hapart : OpenersApart (namedLoops dialect text names)) :
    (∀ b ∈ namedLoops dialect text names,
      b.body text = Text.pick text b.bodyOffsets ∧
        directBody text (loopsOf dialect text) names b =
          Text.pick text (directOffsets (namedLoops dialect text names) b)) ∧
      ∀ b ∈ namedLoops dialect text names,
        ∀ offset ∈ directOffsets (namedLoops dialect text names) b,
          b.Covers offset ∧ ∀ c ∈ namedLoops dialect text names,
            (c.Covers offset → c = b ∨ c.contains b = true) ∧
              (offset ∈ directOffsets (namedLoops dialect text names) c → c = b) := by
  have harranged := arranged_loopsOf dialect text
  have hloop : ∀ b ∈ namedLoops dialect text names, b ∈ loopsOf dialect text :=
    fun b hb => List.mem_of_mem_filter hb
  have hcovers : ∀ b ∈ namedLoops dialect text names,
      ∀ offset ∈ directOffsets (namedLoops dialect text names) b, b.Covers offset := by
    intro b hb offset hoffset
    have hbody := mem_bodyOffsets_iff.mp (List.mem_of_mem_filter hoffset)
    have hopener := harranged.openers b (hloop b hb)
    have hends := harranged.ends b (hloop b hb)
    exact ⟨by omega, by omega⟩
  refine ⟨fun b hb => ⟨body_eq_pick text b, directBody_eq harranged hnone hapart hb⟩,
    fun b hb offset hoffset => ⟨hcovers b hb offset hoffset, fun c hc => ⟨fun hcover => ?_, ?_⟩⟩⟩
  · have houtside := of_decide_eq_true (List.mem_filter.mp hoffset).2
    rcases (hnone b hb c hc).of_covers (hcovers b hb offset hoffset) hcover with rfl | h | h
    · exact Or.inl rfl
    · exact absurd hcover (houtside c hc h)
    · exact Or.inr h
  · -- kept for both, so neither of the two is inside the other
    intro hoffset'
    have hown := hcovers b hb offset hoffset
    have hown' := hcovers c hc offset hoffset'
    rcases (hnone b hb c hc).of_covers hown hown' with rfl | h | h
    · rfl
    · exact absurd hown' (of_decide_eq_true (List.mem_filter.mp hoffset).2 c hc h)
    · exact absurd hown (of_decide_eq_true (List.mem_filter.mp hoffset').2 b hb h)

/-- Two loops of the names inside another one, one of them in a loop of another name. -/
theorem directBody_innermost_three :
    let text : Text :=
      "@foreach(a) 1 @for(b) 2 @foreach(c) 3 @endforeach 4 @endfor 5 @forelse(d) 6 @endforelse @endforeach"
    let names : List Text := ["foreach", "forelse"]
    NoneCross (namedLoops .blade text names) ∧ OpenersApart (namedLoops .blade text names) ∧
      (namedLoops .blade text names).map (directBody text (loopsOf .blade text) names) =
        [(" 1 @for(b) 2  4 @endfor 5  " : Text), " 3 ", " 6 "] ∧
      ∀ b ∈ namedLoops .blade text names, directBody text (loopsOf .blade text) names b =
        Text.pick text (directOffsets (namedLoops .blade text names) b) := by
  intro text names
  have hcomputed : NoneCross (namedLoops .blade text names) ∧
      OpenersApart (namedLoops .blade text names) ∧
        (namedLoops .blade text names).map (directBody text (loopsOf .blade text) names) =
          [(" 1 @for(b) 2  4 @endfor 5  " : Text), " 3 ", " 6 "] := by
    rw [namedLoops, loopsOf_eq]
    decide +kernel
  obtain ⟨hnone, hapart, hbodies⟩ := hcomputed
  exact ⟨hnone, hapart, hbodies, fun b hb =>
    ((directBody_innermost .blade text names hnone hapart).1 b hb).2⟩

end TemplateLint
