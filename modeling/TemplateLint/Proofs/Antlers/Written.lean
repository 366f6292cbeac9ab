import Mathlib.Data.Bool.AllAny
import Mathlib.Data.List.TakeWhile
import TemplateLint.Proofs.Antlers.Pieces
import TemplateLint.Proofs.Entries
import TemplateLint.Proofs.Text.Forward

/-!
# Written tags

A tag is written from its parts: the head, each parameter with its value in double quotes behind a
space, and each modifier behind a pipe.  Parsing what was written gives the parts back, as long as every
parameter has a name (`TagParts.parse_written`).  Pipes only stand in front of modifiers, so the first
piece between them is the head with its parameters (`Tag.map_strip_splitPipes`); the head ends at the
first space, and behind it a search for parameters goes from one written parameter to the next
(`Tag.findParams_written`).  What has no name is never found (`Tag.paramName_ne_nil`).
-/
namespace TemplateLint

open Text Pattern

/-- What a tag is written from. -/
structure TagParts where
  head : Text
  params : Entries Text
  modifiers : List Text

namespace TagParts

/-- A parameter as it is written. -/
def param (p : Text × Text) : Text := p.1 ++ '=' :: '"' :: (p.2 ++ ['"'])

/-- Some parameters as they are written, each behind a space. -/
def writtenParams (params : Entries Text) : Text := params.flatMap fun p => ' ' :: param p

/-- Some modifiers as they are written, each behind a pipe. -/
def writtenModifiers (modifiers : List Text) : Text :=
  modifiers.flatMap fun m => ' ' :: '|' :: ' ' :: m

theorem writtenParams_cons (p : Text × Text) (params : Entries Text) :
    writtenParams (p :: params) = ' ' :: (param p ++ writtenParams params) := by
  rw [writtenParams, List.flatMap_cons]
  rfl

/-- The tag as it is written between its braces. -/
def written (t : TagParts) : Text :=
  t.head ++ writtenParams t.params ++ writtenModifiers t.modifiers

/-- The parts of a tag that can be told apart once they are written. -/
structure WellFormed (t : TagParts) : Prop where
  head_ne_nil : t.head ≠ []
  head_plain : ∀ c ∈ t.head, isBlank c = false ∧ c ≠ '|'
  head_first : t.head.head? ≠ some '/'
  head_last : t.head.getLast? ≠ some '/'
  distinct : t.params.keys.Nodup
  names : ∀ p ∈ t.params, ∀ c ∈ p.1, Tag.isParamChar c = true
  values : ∀ p ∈ t.params, ∀ c ∈ p.2, c ≠ '"' ∧ c ≠ '|'
  modifiers : ∀ m ∈ t.modifiers,
    m ≠ [] ∧ ∀ c ∈ m, isBlank c = false ∧ c ≠ ':' ∧ c ≠ '(' ∧ c ≠ '|'
  modifiers_last : ∀ m, t.modifiers.getLast? = some m → m.getLast? ≠ some '/'

end TagParts

namespace Tag

/-! ## Parameters -/

/-- A value in double quotes is read up to the quote behind it. -/
theorem run_quoted {α : Type} {value : Text} (hvalue : ∀ c ∈ value, c ≠ '"') (passed : Nat)
    (last : Option Char) (rest : Text) (groups : List Capture) {go : Progress → Option α} {a : α}
    (hgo : go ⟨⟨passed + (value.length + 2), some '"', rest⟩,
      ⟨2, value ++ '"' :: rest, value.length⟩ :: groups⟩ = some a) :
    run (chain [lit "\"", group 2 (many 0 (Pattern.except "\"")), lit "\""])
      ⟨⟨passed, last, '"' :: (value ++ '"' :: rest)⟩, groups⟩ go = some a := by
  have hplain : ∀ c ∈ value, Pattern.except ['"'] c = true := by
    intro c hc
    simpa [Pattern.except] using hvalue c hc
  have hquote : ('"' :: rest).head?.any (Pattern.except ['"']) = false := by
    show Pattern.except ['"'] '"' = false
    decide
  have hplace : passed + 1 + value.length + 1 = passed + (value.length + 2) := by omega
  simp only [chain, run]
  refine (run_lit_cons '"' _ _ _ _ _).trans (runMany_longest hplain hquote (Nat.zero_le _) ?_)
  refine (run_lit_cons '"' _ _ _ _ _).trans ?_
  show go ⟨⟨_, _, _⟩, ⟨2, _, passed + 1 + value.length - (passed + 1)⟩ :: groups⟩ = some a
  rw [Nat.add_sub_cancel_left, hplace]
  exact hgo

/-- A written parameter is read up to the quote behind its value. -/
theorem run_param {α : Type} {name value : Text} (hname : ∀ c ∈ name, isParamChar c = true)
    (hne : name ≠ []) (hvalue : ∀ c ∈ value, c ≠ '"') (passed : Nat) (last : Option Char)
    (rest : Text) {go : Progress → Option α} {a : α}
    (hgo : go ⟨⟨passed + (TagParts.param (name, value)).length, some '"', rest⟩,
      [⟨2, value ++ '"' :: rest, value.length⟩,
        ⟨1, TagParts.param (name, value) ++ rest, name.length⟩]⟩ = some a) :
    run paramPattern ⟨⟨passed, last, TagParts.param (name, value) ++ rest⟩, []⟩ go = some a := by
  have hshape : TagParts.param (name, value) ++ rest =
      name ++ '=' :: '"' :: (value ++ '"' :: rest) := by
    simp [TagParts.param]
  have hplace : passed + name.length + 1 + (value.length + 2) =
      passed + (TagParts.param (name, value)).length := by
    simp only [TagParts.param, List.length_append, List.length_cons, List.length_nil]
    omega
  have hstop : ('=' :: '"' :: (value ++ '"' :: rest)).head?.any isParamChar = false := by
    show isParamChar '=' = false
    decide
  rw [hshape] at hgo ⊢
  simp only [paramPattern, chain, run]
  refine runMany_longest hname hstop (List.length_pos_iff.mpr hne) ?_
  rw [Progress.capture, run_blanks rfl]
  refine (run_lit_cons '=' _ _ _ _ _).trans ?_
  rw [run_blanks rfl]
  refine run_alt_left (run_quoted hvalue (passed + name.length + 1) _ rest _ ?_)
  show go ⟨_, [_, ⟨1, _, passed + name.length - passed⟩]⟩ = some a
  rw [hplace, Nat.add_sub_cancel_left]
  exact hgo

/-- A written parameter is found as a whole, whatever stands around it. -/
theorem matchAt?_param {name value : Text} (hname : ∀ c ∈ name, isParamChar c = true)
    (hne : name ≠ []) (hvalue : ∀ c ∈ value, c ≠ '"') (passed : Nat) (last : Option Char)
    (rest : Text) :
    ∃ m, paramPattern.matchAt? ⟨passed, last, TagParts.param (name, value) ++ rest⟩ = some m ∧
      m.stop = passed + (TagParts.param (name, value)).length ∧
      m.group 1 = name ∧ m.group 2 = value := by
  refine ⟨_, run_param hname hne hvalue passed last rest rfl, rfl, ?_, ?_⟩
  · show (TagParts.param (name, value) ++ rest).take name.length = name
    rw [TagParts.param, List.append_assoc, List.take_left]
  · show (value ++ '"' :: rest).take value.length = value
    rw [List.take_left]

/-- A search goes from one written parameter to the next. -/
theorem findParams_written {p : Text × Text} {params : Entries Text}
    (hnames : ∀ q ∈ p :: params, q.1 ≠ [] ∧ ∀ c ∈ q.1, isParamChar c = true)
    (hvalues : ∀ q ∈ p :: params, ∀ c ∈ q.2, c ≠ '"') (passed : Nat) (last : Option Char) :
    (paramPattern.allFrom passed passed last
      (TagParts.param p ++ TagParts.writtenParams params)).map (fun m => (m.group 1, m.group 2)) =
        p :: params := by
  induction params generalizing p passed last with
  | nil =>
    obtain ⟨hne, hname⟩ := hnames p List.mem_cons_self
    have hvalue := hvalues p List.mem_cons_self
    obtain ⟨m, hmatch, hstop, hfirst, hsecond⟩ := matchAt?_param hname hne hvalue passed last []
    have hparam : TagParts.param p ≠ [] := by simp [TagParts.param]
    rw [TagParts.writtenParams, List.flatMap_nil,
      allFrom_of_matchAt? hmatch hstop hparam (Nat.le_refl passed), List.map_cons, hfirst, hsecond,
      allFrom_nil (by decide), List.map_nil]
  | cons q params ih =>
    obtain ⟨⟨hne, hname⟩, hnames⟩ := List.forall_mem_cons.mp hnames
    obtain ⟨hvalue, hvalues⟩ := List.forall_mem_cons.mp hvalues
    obtain ⟨m, hmatch, hstop, hfirst, hsecond⟩ := matchAt?_param hname hne hvalue passed last
      (TagParts.writtenParams (q :: params))
    have hparam : TagParts.param p ≠ [] := by simp [TagParts.param]
    rw [allFrom_of_matchAt? hmatch hstop hparam (Nat.le_refl passed), List.map_cons, hfirst,
      hsecond, TagParts.writtenParams_cons]
    -- the space between is passed over
    rw [allFrom_cons_of_startsNot (by decide),
      allFrom_resume (Nat.le_succ _) (Nat.le_refl _), ih hnames hvalues]

/-- The parameters of a text are those that a search finds. -/
theorem readParams_eq (text : Text) : readParams text =
    Entries.putAll [] ((paramPattern.findAll text).map fun m => (m.group 1, m.group 2)) := by
  rw [Entries.putAll, List.foldl_map]
  rfl

/-- A parameter that is found has a name. -/
theorem paramName_ne_nil {text : Text} {m : Match} (h : m ∈ paramPattern.findAll text) :
    m.group 1 ≠ [] := by
  intro hnone
  obtain ⟨k, last, -, hmatch⟩ := mem_allFrom h
  obtain ⟨r, hr, hreads⟩ := group_of_front hmatch (by decide)
  have hpassed := passed_lt_of_many hr
  rw [hreads.passed, hnone] at hpassed
  exact Nat.lt_irrefl _ hpassed

/-- The parameters are read back from what stands behind the first space, if they have names. -/
theorem readParams_written {params : Entries Text} (hdistinct : params.keys.Nodup)
    (hnames : ∀ p ∈ params, ∀ c ∈ p.1, isParamChar c = true)
    (hvalues : ∀ p ∈ params, ∀ c ∈ p.2, c ≠ '"') :
    readParams ((TagParts.writtenParams params).drop 1) = params ↔ ∀ p ∈ params, p.1 ≠ [] := by
  rw [readParams_eq]
  constructor
  · intro hread p hp
    have hkey : p.1 ∈ params.keys := List.mem_map_of_mem hp
    rw [← hread, Entries.keys_putAll, mem_firstSeen] at hkey
    obtain ⟨found, hfound, hname⟩ := List.mem_map.mp hkey
    obtain ⟨m, hm, rfl⟩ := List.mem_map.mp hfound
    exact hname ▸ paramName_ne_nil hm
  · intro hnamed
    have hfound : (paramPattern.findAll ((TagParts.writtenParams params).drop 1)).map
        (fun m => (m.group 1, m.group 2)) = params := by
      cases params with
      | nil => rw [TagParts.writtenParams, List.flatMap_nil, List.drop_nil, findAll,
          allFrom_nil (by decide), List.map_nil]
      | cons p params =>
        exact findParams_written (fun q hq => ⟨hnamed q hq, hnames q hq⟩) hvalues 0 none
    rw [hfound, Entries.putAll_of_nodup hdistinct]

/-! ## Modifiers -/

theorem splitPipes_of_not_mem {piece : Text} (hpiece : '|' ∉ piece) (last : Option Char) :
    splitPipes last piece = [piece] :=
  splitPipes_of_not_lonePipe (not_lonePipe_of_not_mem hpiece)

/-- A pipe behind a piece without pipes ends the piece, unless another pipe follows. -/
theorem splitPipes_append {piece rest : Text} (hpiece : '|' ∉ piece)
    (hrest : rest.head? ≠ some '|') {last : Option Char} (hlast : piece = [] → last ≠ some '|') :
    splitPipes last (piece ++ '|' :: rest) = piece :: splitPipes (some '|') rest := by
  have hbefore : piece.getLast?.or last ≠ some '|' := by
    cases hend : piece.getLast? with
    | none => exact hlast (List.getLast?_eq_none_iff.mp hend)
    | some c =>
      rintro hc
      exact hpiece (List.mem_of_getLast? (hend.trans hc))
  rw [splitPipes_append_pipe hbefore hrest, splitPipes_of_not_mem hpiece]
  rfl

/-- The pieces between the pipes are what was written there, with blanks around it. -/
theorem map_strip_splitPipes {body : Text} (hbody : Tight body) (hplain : '|' ∉ body)
    {modifiers : List Text} (hmodifiers : ∀ m ∈ modifiers, Tight m ∧ '|' ∉ m) {before : Text}
    (hbefore : ∀ c ∈ before, isBlank c = true) (last : Option Char) :
    (splitPipes last (before ++ body ++ TagParts.writtenModifiers modifiers)).map strip =
      body :: modifiers := by
  have hpipe : isBlank '|' = false := by decide
  have hpiece : ∀ {before body : Text}, (∀ c ∈ before, isBlank c = true) → '|' ∉ body →
      '|' ∉ before ++ body := by
    intro before body hbefore hplain hmem
    rcases List.mem_append.mp hmem with h | h
    · exact absurd (hbefore _ h) (by rw [hpipe]; decide)
    · exact hplain h
  induction modifiers generalizing before body last with
  | nil =>
    have hstrip := strip_surrounded hbefore (List.forall_mem_nil (isBlank · = true)) hbody
    rw [TagParts.writtenModifiers, List.flatMap_nil, List.append_nil,
      splitPipes_of_not_mem (hpiece hbefore hplain)]
    rw [List.append_nil] at hstrip
    rw [List.map_singleton, hstrip]
  | cons m modifiers ih =>
    obtain ⟨⟨hm, hmplain⟩, hmodifiers⟩ := List.forall_mem_cons.mp hmodifiers
    have hspace : ∀ c ∈ [' '], isBlank c = true :=
      List.forall_mem_cons.mpr ⟨by decide, List.forall_mem_nil _⟩
    have hshape : before ++ body ++ TagParts.writtenModifiers (m :: modifiers) =
        (before ++ body ++ [' ']) ++
          '|' :: ([' '] ++ m ++ TagParts.writtenModifiers modifiers) := by
      simp [TagParts.writtenModifiers]
    have hfront : '|' ∉ before ++ body ++ [' '] := by
      intro hmem
      rcases List.mem_append.mp hmem with h | h
      · exact hpiece hbefore hplain h
      · exact absurd h (by decide)
    have hrest : ([' '] ++ m ++ TagParts.writtenModifiers modifiers).head? ≠ some '|' := by
      simp
    have hnext := ih hm hmplain hmodifiers hspace (some '|')
    rw [hshape, splitPipes_append hfront hrest (by simp), List.map_cons,
      strip_surrounded hbefore hspace hbody, hnext]

/-- The name of a modifier is what was written, if no argument follows it. -/
theorem modifierName_of_strip {piece m : Text} (hstrip : strip piece = m)
    (hm : ∀ c ∈ m, isBlank c = false ∧ c ≠ ':' ∧ c ≠ '(') : modifierName piece = m := by
  rw [modifierName, hstrip, List.takeWhile_eq_self_iff]
  intro c hc
  obtain ⟨hblank, hcolon, hparenthesis⟩ := hm c hc
  simp [hblank, hcolon, hparenthesis]

/-! ## Tags without a slash at their ends -/

/-- A text without a slash at its ends is cut at its pipes, and its first piece at its first space. -/
theorem parse_eq {inner : Text} (hfirst : inner.strip.head? ≠ some '/')
    (hlast : inner.strip.getLast? ≠ some '/') {head rest : Text} {pieces : List Text}
    (hpieces : splitPipes none inner.strip = pieces)
    (hhead : (cutAt ' ' (strip (pieces.headD []))).1 = head)
    (hrest : (cutAt ' ' (strip (pieces.headD []))).2.getD [] = rest) (start : Nat) (raw : Text) :
    parse inner start raw =
      { raw := raw
        inner := inner.strip
        start := start
        stop := start + raw.length
        head := head
        rest := rest.strip
        isClosing := false
        space := (splitHead head).1
        method := (splitHead head).2
        params := readParams rest
        modifiers := ((pieces.drop 1).map modifierName).filter (!·.isEmpty)
        selfClosing := false } := by
  have hopen : (inner.strip.head? == some '/') = false := by simpa using hfirst
  have hclose : (inner.strip.getLast? == some '/') = false := by simpa using hlast
  subst hpieces hhead hrest
  simp only [parse, hopen, hclose, Bool.false_and, Bool.false_eq_true, if_false]

/-- A head is divided at its first colon, unless it starts with one. -/
theorem splitHead_of_colon {space : Text} (hsome : space ≠ []) (hfirst : ':' ∉ space)
    (method : Text) :
    splitHead (space ++ ':' :: method) = (some space, some method) := by
  have hhead : (space ++ ':' :: method).head? ≠ some ':' := by
    rw [List.head?_append_of_ne_nil _ hsome]
    exact fun h => hfirst (List.mem_of_mem_head? h)
  rw [splitHead, if_neg hhead, cutAt_append hfirst]

theorem splitHead_undivided {head : Text} (h : ':' ∉ head ∨ head.head? = some ':') :
    splitHead head = (none, none) := by
  rw [splitHead]
  split
  · rfl
  · next hfirst =>
    rw [cutAt_of_not_mem (h.resolve_right hfirst)]

end Tag

namespace TagParts

variable {t : TagParts}

/-! ## The ends of what was written -/

/-- The head with its parameters. -/
def body (t : TagParts) : Text := t.head ++ writtenParams t.params

theorem WellFormed.written_head? (h : t.WellFormed) : t.written.head? = t.head.head? := by
  rw [written, List.append_assoc, List.head?_append_of_ne_nil _ h.head_ne_nil]

/-- What was written ends in a character of the head, a quote or a character of a modifier. -/
theorem WellFormed.written_last (h : t.WellFormed) {c : Char} (hc : t.written.getLast? = some c) :
    isBlank c = false ∧ c ≠ '/' := by
  rw [written] at hc
  rcases List.eq_nil_or_concat t.modifiers with hnone | ⟨others, m, hconcat⟩
  · rw [hnone, writtenModifiers, List.flatMap_nil, List.append_nil] at hc
    rcases List.eq_nil_or_concat t.params with hnone | ⟨others, p, hconcat⟩
    · rw [hnone, writtenParams, List.flatMap_nil, List.append_nil] at hc
      refine ⟨(h.head_plain c (List.mem_of_getLast? hc)).1, ?_⟩
      rintro rfl
      exact h.head_last hc
    · have hquote : t.head ++ writtenParams t.params =
          (t.head ++ writtenParams others ++ ' ' :: p.1 ++ '=' :: '"' :: p.2) ++ ['"'] := by
        simp [hconcat, writtenParams, param]
      rw [hquote, List.getLast?_concat] at hc
      obtain rfl := Option.some.inj hc
      decide
  · have hmem : m ∈ t.modifiers := by simp [hconcat]
    have hlast : t.modifiers.getLast? = some m := by simp [hconcat]
    obtain ⟨hne, hplain⟩ := h.modifiers m hmem
    have hend : t.head ++ writtenParams t.params ++ writtenModifiers t.modifiers =
        (t.head ++ writtenParams t.params ++ writtenModifiers others ++ [' ', '|', ' ']) ++ m := by
      simp [hconcat, writtenModifiers]
    rw [hend, List.getLast?_append_of_ne_nil _ hne] at hc
    refine ⟨(hplain c (List.mem_of_getLast? hc)).1, ?_⟩
    rintro rfl
    exact h.modifiers_last m hlast hc

theorem WellFormed.tight (h : t.WellFormed) : Tight t.written := by
  refine ⟨fun c hc => ?_, fun c hc => (h.written_last hc).1⟩
  rw [h.written_head?] at hc
  exact (h.head_plain c (List.mem_of_mem_head? hc)).1

/-- A tag without its modifiers. -/
theorem WellFormed.body_tight (h : t.WellFormed) : Tight t.body := by
  have hbare : WellFormed { t with modifiers := [] } :=
    { h with
      modifiers := List.forall_mem_nil _
      modifiers_last := fun m hm => nomatch hm }
  have htight := hbare.tight
  rw [written, writtenModifiers, List.flatMap_nil, List.append_nil] at htight
  exact htight

/-- A pipe stands in no head and in no parameter. -/
theorem WellFormed.pipe_not_mem_body (h : t.WellFormed) : '|' ∉ t.body := by
  intro hmem
  rcases List.mem_append.mp hmem with hmem | hmem
  · exact (h.head_plain _ hmem).2 rfl
  · obtain ⟨p, hp, hmem⟩ := List.mem_flatMap.mp hmem
    simp only [param, List.mem_cons, List.mem_append, List.not_mem_nil, or_false] at hmem
    rcases hmem with hmem | hname | hmem | hmem | hvalue | hmem
    · cases hmem
    · exact absurd (h.names p hp _ hname) (by decide)
    · cases hmem
    · cases hmem
    · exact (h.values p hp _ hvalue).2 rfl
    · cases hmem

/-! ## The parts of what was written -/

/-- A tag holds the head and the modifiers, and nothing of a parameter has got into them.  The
namespace and the method are the parts of the head around its first colon. -/
structure HeldBy (t : TagParts) (tag : Tag) : Prop where
  head : tag.head = t.head
  modifiers : tag.modifiers = t.modifiers
  isClosing : tag.isClosing = false
  selfClosing : tag.selfClosing = false
  divided : ∀ space method, t.head = space ++ ':' :: method → space ≠ [] → ':' ∉ space →
    tag.space = some space ∧ tag.method = some method
  undivided : ':' ∉ t.head ∨ t.head.head? = some ':' → tag.space = none ∧ tag.method = none

theorem WellFormed.map_strip_splitPipes (h : t.WellFormed) :
    (Tag.splitPipes none t.written).map strip = t.body :: t.modifiers := by
  have hmodifiers : ∀ m ∈ t.modifiers, Tight m ∧ '|' ∉ m := by
    intro m hm
    obtain ⟨-, hplain⟩ := h.modifiers m hm
    exact ⟨Tight.of_forall fun c hc => (hplain c hc).1, fun hmem => (hplain _ hmem).2.2.2 rfl⟩
  exact Tag.map_strip_splitPipes h.body_tight h.pipe_not_mem_body hmodifiers
    (List.forall_mem_nil _) none

/-- The head ends at the first space; the parameters stand behind it. -/
theorem WellFormed.cutAt_body (h : t.WellFormed) : (cutAt ' ' t.body).1 = t.head ∧
    (cutAt ' ' t.body).2.getD [] = (writtenParams t.params).drop 1 := by
  have hspace : ' ' ∉ t.head := fun hmem => by
    have hblank := (h.head_plain _ hmem).1
    exact absurd hblank (by decide)
  rw [body]
  cases t.params with
  | nil =>
    rw [writtenParams, List.flatMap_nil, List.append_nil, cutAt_of_not_mem hspace]
    exact ⟨rfl, rfl⟩
  | cons p params =>
    rw [writtenParams_cons, cutAt_append hspace]
    exact ⟨rfl, rfl⟩

/-- **Parsing undoes writing.**  The text of a tag that is written from its parts is parsed into a tag
with the same head and the same modifiers, whatever its values hold besides quotes and pipes; and with
the same parameters if and only if each of them has a name. -/
theorem parse_written (t : TagParts) (h : t.WellFormed) (start : Nat) (raw : Text) :
    t.HeldBy (Tag.parse t.written start raw) ∧
      ((Tag.parse t.written start raw).params = t.params ↔ ∀ p ∈ t.params, p.1 ≠ []) := by
  have hcontent : strip t.written = t.written := strip_of_tight h.tight
  have hfirst : (strip t.written).head? ≠ some '/' := by
    rw [hcontent, h.written_head?]
    exact h.head_first
  have hlast : (strip t.written).getLast? ≠ some '/' := by
    rw [hcontent]
    exact fun hslash => (h.written_last hslash).2 rfl
  obtain ⟨first, others, hsplit, hbody, hothers⟩ := List.map_eq_cons_iff.mp h.map_strip_splitPipes
  obtain ⟨hhead, hparams⟩ := h.cutAt_body
  rw [← hbody] at hhead hparams
  have hmodifiers : (others.map Tag.modifierName).filter (!·.isEmpty) = t.modifiers := by
    have hnames : others.map Tag.modifierName = t.modifiers := by
      have hplain : ∀ piece ∈ others, Tag.modifierName piece = strip piece := by
        intro piece hpiece
        have hmem : strip piece ∈ t.modifiers := hothers ▸ List.mem_map_of_mem hpiece
        refine Tag.modifierName_of_strip rfl fun c hc => ?_
        obtain ⟨hblank, hcolon, hparenthesis, -⟩ := (h.modifiers _ hmem).2 c hc
        exact ⟨hblank, hcolon, hparenthesis⟩
      rw [List.map_congr_left hplain, hothers]
    rw [hnames, List.filter_eq_self]
    intro m hm
    simpa using (h.modifiers m hm).1
  rw [← hcontent] at hsplit
  rw [Tag.parse_eq hfirst hlast hsplit hhead hparams]
  refine ⟨?_, Tag.readParams_written h.distinct h.names fun p hp c hc => (h.values p hp c hc).1⟩
  exact
    { head := rfl
      modifiers := hmodifiers
      isClosing := rfl
      selfClosing := rfl
      divided := by
        intro space method heq hsome hcolon
        have hsplit := Tag.splitHead_of_colon hsome hcolon method
        rw [← heq] at hsplit
        exact ⟨congrArg Prod.fst hsplit, congrArg Prod.snd hsplit⟩
      undivided := by
        intro hnone
        have hsplit := Tag.splitHead_undivided hnone
        exact ⟨congrArg Prod.fst hsplit, congrArg Prod.snd hsplit⟩ }

/-- A value that looks like another parameter, an empty one, and two modifiers. -/
theorem parse_written_nav :
    let t : TagParts :=
      { head := "nav:main"
        params := [("from", "a/ b='c' x=y"), (":to-do", "")]
        modifiers := ["upper", "/first"] }
    t.WellFormed ∧ t.HeldBy (Tag.parse t.written 7 []) ∧
      (Tag.parse t.written 7 []).params = t.params := by
  intro t
  have h : t.WellFormed :=
    { head_ne_nil := by decide
      head_plain := List.all_iff_forall_prop.mp (by decide)
      head_first := by decide
      head_last := by decide
      distinct := by decide
      names := List.forall_mem_cons.mpr ⟨List.all_eq_true.mp (by decide),
        List.forall_mem_cons.mpr ⟨List.all_eq_true.mp (by decide), List.forall_mem_nil _⟩⟩
      values := List.forall_mem_cons.mpr ⟨List.all_iff_forall_prop.mp (by decide),
        List.forall_mem_cons.mpr ⟨List.all_iff_forall_prop.mp (by decide), List.forall_mem_nil _⟩⟩
      modifiers := List.forall_mem_cons.mpr ⟨⟨by decide, List.all_iff_forall_prop.mp (by decide)⟩,
        List.forall_mem_cons.mpr ⟨⟨by decide, List.all_iff_forall_prop.mp (by decide)⟩,
          List.forall_mem_nil _⟩⟩
      modifiers_last := by simp [t] }
  obtain ⟨hheld, hparams⟩ := parse_written t h 7 []
  exact ⟨h, hheld, hparams.mpr (by decide)⟩

/-- A parameter without a name is not read back. -/
theorem parse_nameless :
    let t : TagParts := { head := "nav", params := [("", "x")], modifiers := [] }
    t.WellFormed ∧ (Tag.parse t.written 0 []).params ≠ t.params := by
  intro t
  refine ⟨?_, by decide +kernel⟩
  exact
    { head_ne_nil := by decide
      head_plain := List.all_iff_forall_prop.mp (by decide)
      head_first := by decide
      head_last := by decide
      distinct := by decide
      names := List.forall_mem_cons.mpr ⟨List.forall_mem_nil _, List.forall_mem_nil _⟩
      values := List.forall_mem_cons.mpr
        ⟨List.all_iff_forall_prop.mp (by decide), List.forall_mem_nil _⟩
      modifiers := List.forall_mem_nil _
      modifiers_last := by simp [t] }

end TagParts

end TemplateLint
