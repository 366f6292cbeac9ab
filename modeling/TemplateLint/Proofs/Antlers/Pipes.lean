import TemplateLint.Proofs.Antlers.Written
import TemplateLint.Proofs.Text.Reading

/-!
# Pipes in values

Tags are cut into pieces before their parameters are read, and the pieces do not know of quotes.  So the
value of a parameter is read back from its quotes exactly if it holds no lone pipe.  A modifier that is
written behind the parameter is added to those that were read before (`Tag.parse_append_modifier`), and
changes nothing else (`TagParts.parse_piped`).
-/
namespace TemplateLint

open Text Pattern

namespace Tag

variable {last : Option Char} {c : Char} {text : Text}

/-! ## Modifiers that are written behind a tag -/

theorem map_stripRight_glue {after : Text} (hafter : ∀ c ∈ after, isBlank c = true) (piece : Text)
    (pieces : List Text) :
    (glue (piece :: pieces) [after]).map stripRight = (piece :: pieces).map stripRight := by
  induction pieces generalizing piece with
  | nil =>
    have hpiece : stripRight (piece ++ after) = stripRight piece := by
      rw [stripRight_append, if_pos (stripRight_eq_nil_iff.mpr hafter)]
    exact congrArg ([·]) hpiece
  | cons next pieces ih => exact congrArg (stripRight piece :: ·) (ih next)

/-- Blanks behind a text change neither the word in front of its modifiers nor their names. -/
theorem splitPipes_append_blanks {after : Text} (hafter : ∀ c ∈ after, isBlank c = true) :
    ∃ piece piece' pieces pieces', splitPipes last text = piece :: pieces ∧
      splitPipes last (text ++ after) = piece' :: pieces' ∧ strip piece' = strip piece ∧
      pieces'.map modifierName = pieces.map modifierName := by
  have hplain : '|' ∉ after := fun hmem => absurd (hafter _ hmem) (by decide)
  have hmeet : ¬ Meet text after := fun h => hplain (List.mem_of_mem_head? h.2)
  obtain ⟨piece, pieces, hpieces⟩ := exists_splitPipes last text
  obtain ⟨piece', pieces', hpieces'⟩ := exists_splitPipes last (text ++ after)
  have hsame : (piece' :: pieces').map stripRight = (piece :: pieces).map stripRight := by
    rw [← hpieces', splitPipes_append_eq hmeet, hpieces, splitPipes_of_not_mem hplain,
      map_stripRight_glue hafter]
  obtain ⟨hfirst, hlater⟩ := List.cons.inj hsame
  refine ⟨piece, piece', pieces, pieces', hpieces, hpieces', congrArg stripLeft hfirst, ?_⟩
  -- the name of a modifier is read from what is left of the piece
  have hnames := congrArg (List.map fun piece => (stripLeft piece).takeWhile
    fun c => !isBlank c && c != ':' && c != '(') hlater
  rwa [List.map_map, List.map_map] at hnames

theorem modifierName_space {m : Text} (hm : ∀ c ∈ m, isBlank c = false ∧ c ≠ ':' ∧ c ≠ '(') :
    modifierName (' ' :: m) = m := by
  have hspace : ∀ c ∈ [' '], isBlank c = true := List.forall_mem_singleton.mpr (by decide)
  have hstrip := strip_surrounded hspace (List.forall_mem_nil _)
    (Tight.of_forall fun c hc => (hm c hc).1)
  rw [List.append_nil] at hstrip
  exact modifierName_of_strip hstrip hm

/-- **A modifier that is written behind a tag is added to its modifiers**, and the parameters stay as
they are. -/
theorem parse_append_modifier {inner inner' m : Text} (hne : strip inner ≠ [])
    (hfirst : (strip inner).head? ≠ some '/') (hlast : (strip inner).getLast? ≠ some '/')
    (hinner : strip inner' = strip inner ++ [' '] ++ '|' :: ' ' :: m) (hm : m ≠ [])
    (hplain : ∀ c ∈ m, isBlank c = false ∧ c ≠ ':' ∧ c ≠ '(' ∧ c ≠ '|')
    (hslash : m.getLast? ≠ some '/') (start start' : Nat) (raw raw' : Text) :
    (parse inner' start' raw').params = (parse inner start raw).params ∧
      (parse inner' start' raw').modifiers = (parse inner start raw).modifiers ++ [m] := by
  have hfirst' : (strip inner').head? ≠ some '/' := by
    rwa [hinner, List.append_assoc, List.head?_append_of_ne_nil _ hne]
  have hlast' : (strip inner').getLast? ≠ some '/' := by
    have hend : strip inner ++ [' '] ++ '|' :: ' ' :: m = strip inner ++ [' ', '|', ' '] ++ m := by simp
    rwa [hinner, hend, List.getLast?_append_of_ne_nil _ hm]
  have hname : modifierName (' ' :: m) = m :=
    modifierName_space fun c hc => ⟨(hplain c hc).1, (hplain c hc).2.1, (hplain c hc).2.2.1⟩
  have hpipe : '|' ∉ ' ' :: m := by
    rw [List.mem_cons, not_or]
    exact ⟨by decide, fun hmem => (hplain _ hmem).2.2.2 rfl⟩
  obtain ⟨piece, piece', pieces, pieces', hpieces, hpieces', hword, hnames⟩ :=
    @splitPipes_append_blanks none (strip inner) [' '] (List.forall_mem_singleton.mpr (by decide))
  have hsplit : splitPipes none (strip inner') = piece' :: (pieces' ++ [' ' :: m]) := by
    rw [hinner, splitPipes_append_pipe (by simp) (by simp), hpieces', splitPipes_of_not_mem hpipe]
    rfl
  rw [parse_eq hfirst hlast hpieces rfl rfl, parse_eq hfirst' hlast' hsplit rfl rfl]
  constructor
  · show readParams ((cutAt ' ' (strip piece')).2.getD []) = _
    rw [hword]
    rfl
  · show ((pieces' ++ [' ' :: m]).map modifierName).filter (!·.isEmpty) = _
    rw [List.map_append, hnames, List.map_singleton, hname, List.filter_append]
    congr 1
    simpa using hm

/-! ## Parameters that were read -/

/-- No blank stands in a name. -/
theorem isBlank_of_isParamChar (h : isParamChar c = true) : isBlank c = false := by
  rw [Bool.eq_false_iff]
  intro hblank
  have hnone : ∀ n ∈ List.range 33 ++ wideBlanks, isParamChar (Char.ofNat n) = false := by
    decide +kernel
  have hmem : c.toNat ∈ List.range 33 ++ wideBlanks := by
    rw [List.mem_append, List.mem_range]
    unfold isBlank at hblank
    split at hblank
    · refine Or.inl ?_
      simp only [Bool.or_eq_true, Bool.and_eq_true, decide_eq_true_eq, beq_iff_eq] at hblank
      omega
    · exact Or.inr (List.contains_iff_mem.mp hblank)
  have hnot := hnone c.toNat hmem
  rw [Char.ofNat_toNat, h] at hnot
  cases hnot

/-- What is read has a name, and its value stands in the text. -/
theorem get?_readParams {name value : Text} (h : (readParams text).get? name = some value) :
    name ≠ [] ∧ value <:+: text := by
  rw [readParams_eq, Entries.get?_putAll] at h
  obtain ⟨before, after, hfound, -⟩ := List.lookup_eq_some_iff.mp ((Option.or_none).symm.trans h)
  have hmem : (name, value) ∈ (paramPattern.findAll text).map fun m => (m.group 1, m.group 2) := by
    rw [← List.mem_reverse, hfound]
    exact List.mem_append_right before List.mem_cons_self
  obtain ⟨m, hm, heq⟩ := List.mem_map.mp hmem
  obtain ⟨rfl, rfl⟩ := Prod.mk.inj heq
  exact ⟨paramName_ne_nil hm, (group_of_mem_findAll 2 (fun _ => true) hm).1⟩

/-- A space stands in front of a value that is read behind the first space of a word. -/
theorem sublist_of_readParams {name value word : Text}
    (h : (readParams ((cutAt ' ' word).2.getD [])).get? name = some value) :
    name ≠ [] ∧ (' ' :: value).Sublist word := by
  cases hbehind : (cutAt ' ' word).2 with
  | none =>
    have hnone : readParams [] = [] := by decide
    rw [hbehind, Option.getD_none, hnone] at h
    cases h
  | some behind =>
    rw [hbehind] at h
    obtain ⟨hname, hinside⟩ := get?_readParams h
    refine ⟨hname, ?_⟩
    rw [(cutAt_spec ' ' word).2 behind hbehind]
    exact (hinside.sublist.cons_cons ' ').trans (List.sublist_append_right _ _)

end Tag

namespace TagParts

variable {head name value : Text}

/-- What stands in front of the first parameter when the blanks at the ends are stripped. -/
def lead (head : Text) : Text := if head = [] then [] else head ++ [' ']

/-- A parameter up to the value. -/
def opened (head name : Text) : Text := lead head ++ name ++ ['=', '"']

/-- A parameter starts and ends in characters that are no blanks. -/
theorem tight_param (value : Text) (hname : ∀ c ∈ name, Tag.isParamChar c = true) {after : Text}
    (hafter : ∀ c, after.getLast? = some c → isBlank c = false) :
    Tight (param (name, value) ++ after) := by
  constructor
  · intro c hc
    cases name with
    | nil =>
      obtain rfl := Option.some.inj hc
      decide
    | cons first name =>
      obtain rfl := Option.some.inj hc
      exact Tag.isBlank_of_isParamChar (hname first List.mem_cons_self)
  · intro c hc
    cases after with
    | nil =>
      have hquote : param (name, value) ++ [] = (name ++ '=' :: '"' :: value) ++ ['"'] := by
        simp [param]
      rw [hquote, List.getLast?_concat] at hc
      obtain rfl := Option.some.inj hc
      decide
    | cons first after =>
      rw [List.getLast?_append_of_ne_nil _ (List.cons_ne_nil first after)] at hc
      exact hafter c hc

/-- The blanks at the ends of what was written are stripped. -/
theorem strip_written_param (value : Text) (hhead : ∀ c ∈ head, isBlank c = false)
    (hname : ∀ c ∈ name, Tag.isParamChar c = true) {after : Text}
    (hafter : ∀ c, after.getLast? = some c → isBlank c = false) :
    strip (head ++ ' ' :: (param (name, value) ++ after)) =
      opened head name ++ value ++ '"' :: after := by
  have htight := tight_param value hname hafter
  by_cases hempty : head = []
  · subst hempty
    have hspace : ∀ c ∈ [' '], isBlank c = true := List.forall_mem_singleton.mpr (by decide)
    have hstrip := strip_surrounded hspace (List.forall_mem_nil _) htight
    rw [List.append_nil] at hstrip
    rw [List.nil_append, ← List.singleton_append, hstrip]
    simp [opened, lead, param]
  · have hwhole : Tight (head ++ ' ' :: (param (name, value) ++ after)) := by
      constructor
      · intro c hc
        rw [List.head?_append_of_ne_nil _ hempty] at hc
        exact hhead c (List.mem_of_mem_head? hc)
      · intro c hc
        have hne : param (name, value) ++ after ≠ [] := by simp [param]
        rw [← List.singleton_append, ← List.append_assoc, List.getLast?_append_of_ne_nil _ hne] at hc
        exact htight.last c hc
    rw [strip_of_tight hwhole]
    simp [opened, lead, hempty, param]

/-- What is no space, equals sign or quote stands in front of the value only if it stands in the head or in
the name. -/
theorem not_mem_opened {c : Char} (hhead : c ∉ head) (hname : c ∉ name) (hc : c ∉ [' ', '=', '"']) :
    c ∉ opened head name := by
  have hlead : c ∉ lead head := by
    unfold lead
    split
    · exact List.not_mem_nil
    · simp_all
  simp_all [opened]

theorem splitPipes_opened (hopened : '|' ∉ opened head name) (rest : Text) :
    Tag.splitPipes none (opened head name ++ rest) =
      (Tag.splitPipes (some '"') rest).modifyHead (opened head name ++ ·) := by
  have hquote : (opened head name).getLast?.or none = some '"' := by simp [opened]
  have hmeet : ¬ Tag.Meet (opened head name) rest := fun h => hopened (List.mem_of_getLast? h.1)
  rw [Tag.splitPipes_append_of_not_lonePipe (Tag.not_lonePipe_of_not_mem hopened) hmeet, hquote]

theorem not_meet_quote (value : Text) : ¬ Tag.Meet value ['"'] := fun h => absurd h.2 (by decide)

/-- Without a lone pipe in its value a parameter is one piece with the head. -/
theorem splitPipes_whole (hopened : '|' ∉ opened head name) (hlone : ¬ Tag.LonePipe none value) :
    Tag.splitPipes none (opened head name ++ value ++ ['"']) =
      [opened head name ++ value ++ ['"']] := by
  have hlone' : ¬ Tag.LonePipe (some '"') value :=
    mt (Tag.lonePipe_congr (by decide) (by decide)).mp hlone
  rw [List.append_assoc, splitPipes_opened hopened,
    Tag.splitPipes_append_of_not_lonePipe hlone' (not_meet_quote value),
    Tag.splitPipes_of_not_mem (by decide)]
  rfl

/-- With a lone pipe in its value the first piece ends in the value. -/
theorem splitPipes_cut (hopened : '|' ∉ opened head name) (hlone : Tag.LonePipe none value) :
    ∃ front back pieces, value = front ++ '|' :: back ∧
      Tag.splitPipes none (opened head name ++ value ++ ['"']) =
        (opened head name ++ front) :: pieces := by
  have hlone' : Tag.LonePipe (some '"') value :=
    (Tag.lonePipe_congr (by decide) (by decide)).mp hlone
  obtain ⟨front, back, piece, pieces, hvalue, hsplit⟩ := Tag.splitPipes_of_lonePipe hlone'
  refine ⟨front, back, Tag.glue (piece :: pieces) (Tag.splitPipes (value.getLast?.or (some '"')) ['"']),
    hvalue, ?_⟩
  rw [List.append_assoc, splitPipes_opened hopened, Tag.splitPipes_append_eq (not_meet_quote value),
    hsplit]
  rfl

theorem strip_bare (value : Text) (hhead : ∀ c ∈ head, isBlank c = false)
    (hname : ∀ c ∈ name, Tag.isParamChar c = true) :
    strip (written ⟨head, [(name, value)], []⟩) = opened head name ++ value ++ ['"'] := by
  have hnone : ∀ c, List.getLast? [] = some c → isBlank c = false := fun c hc => nomatch hc
  have hstrip := strip_written_param value hhead hname hnone
  rw [← hstrip]
  simp [written, writtenParams, writtenModifiers]

theorem strip_modified (value : Text) (hhead : ∀ c ∈ head, isBlank c = false)
    (hname : ∀ c ∈ name, Tag.isParamChar c = true) {m : Text} (hm : m ≠ [])
    (hplain : ∀ c ∈ m, isBlank c = false) :
    strip (written ⟨head, [(name, value)], [m]⟩) =
      strip (written ⟨head, [(name, value)], []⟩) ++ [' '] ++ '|' :: ' ' :: m := by
  have hafter : ∀ c, ([' ', '|', ' '] ++ m).getLast? = some c → isBlank c = false := by
    intro c hc
    rw [List.getLast?_append_of_ne_nil _ hm] at hc
    exact hplain c (List.mem_of_getLast? hc)
  have hstrip := strip_written_param value hhead hname hafter
  rw [strip_bare value hhead hname]
  simpa [written, writtenParams, writtenModifiers] using hstrip

/-- The parameter is read back, if there is a head, and it has a name. -/
theorem readParams_whole (hhead : head ≠ []) (hspace : ' ' ∉ head) (hname : name ≠ [])
    (hparam : ∀ c ∈ name, Tag.isParamChar c = true) (hvalue : '"' ∉ value) :
    Tag.readParams ((cutAt ' ' (opened head name ++ value ++ ['"'])).2.getD []) =
      [(name, value)] := by
  have hwritten : opened head name ++ value ++ ['"'] =
      head ++ ' ' :: (writtenParams [(name, value)]).drop 1 := by
    simp [opened, lead, hhead, writtenParams, param]
  rw [hwritten, cutAt_append hspace]
  have hdistinct : (Entries.keys [(name, value)]).Nodup := List.nodup_singleton name
  refine (Tag.readParams_written hdistinct ?_ ?_).mpr ?_
  · exact List.forall_mem_singleton.mpr hparam
  · exact List.forall_mem_singleton.mpr fun c hc heq => hvalue (heq ▸ hc)
  · exact List.forall_mem_singleton.mpr hname

/-- A value is only read back if there are a head and a name and it holds no lone pipe. -/
theorem whole_of_get? (hhead : '|' ∉ head) (hparam : ∀ c ∈ name, Tag.isParamChar c = true)
    (h : (Tag.readParams ((cutAt ' ' (strip ((Tag.splitPipes none
      (opened head name ++ value ++ ['"'])).headD []))).2.getD [])).get? name = some value) :
    head ≠ [] ∧ name ≠ [] ∧ ¬ Tag.LonePipe none value := by
  have hpipe : '|' ∉ name := fun hmem => absurd (hparam _ hmem) (by decide)
  have hopened : '|' ∉ opened head name := not_mem_opened hhead hpipe (by decide)
  obtain ⟨hname, hword⟩ := Tag.sublist_of_readParams h
  have hpiece := hword.trans (strip_infix_self _).sublist
  have hlone : ¬ Tag.LonePipe none value := by
    intro hlone
    -- the first piece has fewer pipes than the value
    obtain ⟨front, back, pieces, rfl, hsplit⟩ := splitPipes_cut hopened hlone
    rw [hsplit, List.headD_cons] at hpiece
    have hle := hpiece.count_le '|'
    rw [List.count_cons_of_ne (by decide), List.count_append, List.count_append,
      List.count_eq_zero.mpr hopened, List.count_cons_self] at hle
    omega
  refine ⟨?_, hname, hlone⟩
  rintro rfl
  -- without a head the spaces are those of the value, and one stands in front of it
  have hspace : ' ' ∉ opened [] name := by
    have hplain : ' ' ∉ name := fun hmem => absurd (hparam _ hmem) (by decide)
    simp [opened, lead, hplain]
  rw [splitPipes_whole hopened hlone, List.headD_cons] at hpiece
  have hle := hpiece.count_le ' '
  have hquote : List.count ' ' ['"'] = 0 := rfl
  rw [List.count_cons_self, List.count_append, List.count_append, List.count_eq_zero.mpr hspace,
    hquote] at hle
  omega

/-- **A pipe in quotes.**  The value of one parameter behind a head is read back, and no modifier is,
exactly if there are a head and a name and the value holds no lone pipe.  A modifier that is written
behind the parameter is added to those that were read. -/
theorem parse_piped {m : Text} (hhead : ∀ c ∈ head, isBlank c = false ∧ c ≠ '|' ∧ c ≠ '/')
    (hname : ∀ c ∈ name, Tag.isParamChar c = true) (hvalue : '"' ∉ value) (hm : m ≠ [])
    (hplain : ∀ c ∈ m, isBlank c = false ∧ c ≠ ':' ∧ c ≠ '(' ∧ c ≠ '|')
    (hslash : m.getLast? ≠ some '/') (start start' : Nat) (raw raw' : Text) :
    let t := Tag.parse (written ⟨head, [(name, value)], []⟩) start raw
    let t' := Tag.parse (written ⟨head, [(name, value)], [m]⟩) start' raw'
    (head ≠ [] ∧ name ≠ [] ∧ ¬ Tag.LonePipe none value →
      t.params = [(name, value)] ∧ t.modifiers = []) ∧
    (t.params.get? name = some value → head ≠ [] ∧ name ≠ [] ∧ ¬ Tag.LonePipe none value) ∧
    t'.params = t.params ∧ t'.modifiers = t.modifiers ++ [m] := by
  intro t t'
  have hblank : ∀ c ∈ head, isBlank c = false := fun c hc => (hhead c hc).1
  have hspace : ' ' ∉ head := fun hmem => absurd (hblank _ hmem) (by decide)
  have hpipe : '|' ∉ head := fun hmem => (hhead _ hmem).2.1 rfl
  have hopened : '|' ∉ opened head name :=
    not_mem_opened hpipe (fun hmem => absurd (hname _ hmem) (by decide)) (by decide)
  have hopened' : '/' ∉ opened head name :=
    not_mem_opened (fun hmem => (hhead _ hmem).2.2 rfl)
      (fun hmem => absurd (hname _ hmem) (by decide)) (by decide)
  have hcontent : strip (written ⟨head, [(name, value)], []⟩) =
      opened head name ++ value ++ ['"'] := strip_bare value hblank hname
  have hcontent' := strip_modified value hblank hname hm fun c hc => (hplain c hc).1
  have hfirst : (strip (written ⟨head, [(name, value)], []⟩)).head? ≠ some '/' := by
    rw [hcontent, List.append_assoc, List.head?_append_of_ne_nil _ (by simp [opened])]
    exact fun h => hopened' (List.mem_of_mem_head? h)
  have hlast : (strip (written ⟨head, [(name, value)], []⟩)).getLast? ≠ some '/' := by
    rw [hcontent, List.getLast?_concat]
    decide
  have hne : strip (written ⟨head, [(name, value)], []⟩) ≠ [] := by
    rw [hcontent]
    simp
  refine ⟨?_, ?_, Tag.parse_append_modifier hne hfirst hlast hcontent' hm hplain hslash _ _ _ _⟩
  · rintro ⟨hsome, hnamed, hlone⟩
    have hpieces := splitPipes_whole hopened hlone
    rw [← hcontent] at hpieces
    show (Tag.parse _ _ _).params = _ ∧ (Tag.parse _ _ _).modifiers = _
    rw [Tag.parse_eq hfirst hlast hpieces rfl rfl]
    refine ⟨?_, rfl⟩
    show Tag.readParams ((cutAt ' ' (strip (strip _))).2.getD []) = _
    rw [strip_of_tight (tight_strip _), hcontent]
    exact readParams_whole hsome hspace hnamed hname hvalue
  · intro hread
    have hparams : t.params = _ := congrArg Tag.params (Tag.parse_eq hfirst hlast rfl rfl rfl start raw)
    rw [hparams, hcontent] at hread
    exact whole_of_get? hpipe hname hread

/-- Two pipes stay in the value, and one behind the quotes starts a modifier. -/
theorem parse_piped_pair :
    let params : Entries Text := [("from", "a||b")]
    let t := Tag.parse (written ⟨"nav", params, []⟩) 0 []
    let t' := Tag.parse (written ⟨"nav", params, ["upper"]⟩) 0 []
    t.params = params ∧ t.modifiers = [] ∧ t'.params = params ∧ t'.modifiers = ["upper"] := by
  intro params t t'
  have hhead : ∀ c ∈ String.toList "nav", isBlank c = false ∧ c ≠ '|' ∧ c ≠ '/' :=
    List.all_iff_forall_prop.mp (by decide)
  have hname : ∀ c ∈ String.toList "from", Tag.isParamChar c = true := List.all_eq_true.mp (by decide)
  have hvalue : '"' ∉ String.toList "a||b" := by decide
  have hm : ∀ c ∈ String.toList "upper", isBlank c = false ∧ c ≠ ':' ∧ c ≠ '(' ∧ c ≠ '|' :=
    List.all_iff_forall_prop.mp (by decide)
  obtain ⟨hread, -, hparams, hmodifiers⟩ :=
    parse_piped hhead hname hvalue (by decide) hm (by decide) 0 0 [] []
  obtain ⟨hsame, hnone⟩ := hread ⟨by decide, by decide, by decide⟩
  exact ⟨hsame, hnone, hparams.trans hsame, hmodifiers.trans (by rw [hnone]; rfl)⟩

/-- One pipe cuts the value, and what stands behind it is read as a modifier. -/
theorem parse_lonePipe :
    let value : Text := "a|b"
    let t := Tag.parse (written ⟨"nav", [("from", value)], []⟩) 0 []
    '"' ∉ value ∧ t.params.get? "from" ≠ some value ∧ t.modifiers = ["b\""] := by
  decide +kernel

end TagParts
end TemplateLint
