import TemplateLint.Proofs.Antlers.Scanned
import TemplateLint.Rule.TagRules

/-!
# Scans that start behind a tag

A tag ends in closing braces, and these close every opening in front of them.  So the text up to the end
of a tag is settled (`Tag.settled_take_stop`), and what stands behind is read as if it stood alone: a
scan that starts there finds the later tags of the document, and the closing tag that a rule looks for
behind a tag is one of these (`Tag.scan_resumed`).
-/
namespace TemplateLint

/-- What a test accepts behind a place, if it accepts nothing in front of it. -/
theorem filter_append_of_cut {α : Type} {test : α → Bool} {front behind : List α}
    (hfront : ∀ a ∈ front, ¬ test a = true) (hbehind : ∀ a ∈ behind, test a = true) :
    (front ++ behind).filter test = behind := by
  rw [List.filter_append, List.filter_eq_nil_iff.mpr hfront, List.filter_eq_self.mpr hbehind,
    List.nil_append]

namespace Tag

variable {text : Text} {front later : List Tag} {t : Tag}

/-- The text up to the end of one of its tags ends in closing braces, so nothing is open there. -/
theorem settled_take_stop (ht : t ∈ scan text) : Settled (text.take t.stop) := by
  have hcloses := (scanned_scan text).closes t ht
  obtain ⟨after, hafter⟩ := hcloses.braces
  have hle := hcloses.le
  have hstop : t.stop = t.stop - 2 + 2 := by omega
  apply Settled.of_closed
  rw [hstop, List.take_add, ← hafter]
  exact List.suffix_append _ _

/-- A tag and those in front of it start before its end. -/
theorem start_lt_stop (h : scan text = front ++ t :: later) :
    ∀ u ∈ front ++ [t], u.start < t.stop := by
  have hscanned := scanned_scan text
  rw [h] at hscanned
  have hle := (hscanned.closes t (List.mem_append_right front List.mem_cons_self)).le
  have hfront := (List.pairwise_append.mp hscanned.increasing).2.2
  refine List.forall_mem_append.mpr ⟨fun u hu => ?_, List.forall_mem_singleton.mpr (by omega)⟩
  have hlt := hfront u hu t List.mem_cons_self
  omega

/-- The tags behind a tag start at its end or later. -/
theorem stop_le_start_of_later (h : scan text = front ++ t :: later) :
    ∀ u ∈ later, t.stop ≤ u.start := by
  have hscanned := scanned_scan text
  rw [h] at hscanned
  have ht : t ∈ front ++ t :: later := List.mem_append_right front List.mem_cons_self
  have hincreasing := (List.pairwise_append.mp hscanned.increasing).2.1
  intro u hu
  have hmem : u ∈ front ++ t :: later := List.mem_append_right front (List.mem_cons_of_mem t hu)
  have hlt := (List.pairwise_cons.mp hincreasing).1 u hu
  exact ((hscanned.starts_iff u.start).mp ⟨u, hmem, rfl⟩).1 t ht hlt

/-- The tags behind a tag are those that a scan of the rest finds, moved to where they stand. -/
theorem map_moved_scan_drop (h : scan text = front ++ t :: later) :
    (scan (text.drop t.stop)).map (moved (t.stop + ·)) = later := by
  have ht : t ∈ scan text := h ▸ List.mem_append_right front List.mem_cons_self
  have hinside := ((scanned_scan text).closes t ht).le_length
  have hlength : (text.take t.stop).length = t.stop := List.length_take_of_le hinside
  -- the tags are cut at the end of this one, by the list and by the two parts of the text
  have hcut := scan_append (settled_take_stop ht) (text.drop t.stop)
  rw [List.take_append_drop, h, hlength, List.append_cons] at hcut
  let test : Tag → Bool := fun u => t.stop ≤ u.start
  have hlisted : (front ++ [t] ++ later).filter test = later := by
    apply filter_append_of_cut
    · intro u hu hle
      exact Nat.not_le.mpr (start_lt_stop h u hu) (of_decide_eq_true hle)
    · intro u hu
      exact decide_eq_true (stop_le_start_of_later h u hu)
  have hread : (scan (text.take t.stop) ++
      (scan (text.drop t.stop)).map (moved (t.stop + ·))).filter test =
        (scan (text.drop t.stop)).map (moved (t.stop + ·)) := by
    apply filter_append_of_cut
    · intro u hu hle
      have hstop := ((scanned_scan _).closes u hu).le_length
      have hopens := ((scanned_scan _).closes u hu).le
      have hbehind : t.stop ≤ u.start := of_decide_eq_true hle
      omega
    · intro u hu
      obtain ⟨v, -, rfl⟩ := List.mem_map.mp hu
      exact decide_eq_true (Nat.le_add_right t.stop v.start)
  rw [← hread, ← hcut, hlisted]

/-- **A scan that starts behind a tag finds the later tags.**  So a rule that looks for a closing tag
behind a tag finds one exactly if some later tag of the whole text is one. -/
theorem scan_resumed (h : scan text = front ++ t :: later) :
    (scan (text.drop t.stop)).map (moved (t.stop + ·)) = later ∧
      ∀ name, TagRules.hasCloser (text.drop t.stop) name = true ↔
        ∃ u ∈ later, u.isClosing = true ∧ u.blockName = name := by
  have hlater := map_moved_scan_drop h
  refine ⟨hlater, fun name => ?_⟩
  have hsame : TagRules.hasCloser (text.drop t.stop) name =
      later.any fun u => u.isClosing && u.blockName == name := by
    rw [← hlater, List.any_map]
    rfl
  rw [hsame, List.any_eq_true]
  refine exists_congr fun u => and_congr_right fun _ => ?_
  rw [Bool.and_eq_true, beq_iff_eq]

/-- A relationship that is closed behind escaped braces and another tag. -/
theorem scan_resumed_pair :
    let text : Text :=
      "\x7b\x7b posts \x7d\x7d@\x7b\x7b x \x7d\x7d\x7b\x7b title \x7d\x7d\x7b\x7b /posts \x7d\x7d"
    let t := between text 0 11
    let later := [between text 19 30, between text 30 42]
    scan text = [] ++ t :: later ∧ (scan (text.drop 11)).map (moved (11 + ·)) = later ∧
      TagRules.hasCloser (text.drop 11) "posts" = true := by
  intro text t later
  have h : scan text = [] ++ t :: later := by decide +kernel
  have hresumed := scan_resumed h
  refine ⟨h, hresumed.1, (hresumed.2 "posts").mpr ?_⟩
  exact ⟨between text 30 42, List.mem_cons_of_mem _ List.mem_cons_self, by decide +kernel⟩

end Tag
end TemplateLint
