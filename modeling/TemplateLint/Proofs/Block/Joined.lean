import TemplateLint.Proofs.Block.Moved
import TemplateLint.Proofs.Block.Walk
import TemplateLint.Proofs.Text.Occurrences
import TemplateLint.Rule.Structure

/-!
# Documents one behind the other

Which tags open a construct depends on the names that are closed anywhere in the document.  So a tag of
one document may change its part when another document follows: a variable may become an opener, and an
opener that was named for its namespace may take its whole head as a name (`BlockToken.role?_change`).
Each change adds an opener, or one with a colon in its name, while the closers stay what they were.  By
the balance of openers and closers (`Pairing.walk_count`) two balanced documents stay balanced together
exactly if no tag changes its part (`StructureRules.blockBalance_joined_iff`).
-/
namespace TemplateLint

namespace Tag

/-- The namespace of a head stands in front of a colon. -/
theorem splitHead_space {head space : Text} (h : (splitHead head).1 = some space) :
    ':' ∉ space ∧ ':' ∈ head := by
  unfold splitHead at h
  split at h
  · cases h
  · split at h
    · cases h
    · next front method hcut =>
      obtain rfl : front = space := Option.some.inj h
      obtain ⟨hfront, hhead⟩ := Text.cutAt_spec ':' head
      rw [hcut] at hfront hhead
      rw [hhead method rfl]
      exact ⟨hfront, by simp⟩

/-- The namespace of a tag is that of its head. -/
theorem space_parse (inner : Text) (start : Nat) (raw : Text) :
    (parse inner start raw).space = (splitHead (parse inner start raw).head).1 := by
  unfold parse
  dsimp only

theorem space_of_mem_scan {text space : Text} {t : Tag} (ht : t ∈ scan text)
    (hspace : t.space = some space) : ':' ∉ space ∧ ':' ∈ t.head := by
  obtain ⟨m, -, rfl⟩ := List.mem_map.mp ht
  rw [space_parse] at hspace
  exact splitHead_space hspace

end Tag

namespace BlockToken

variable {closed closed' : List Text} {t : Tag}

/-- What may become of the part of a tag when more names are closed: a tag without a part may open a
construct, and a construct that was named for the namespace of its tag may be named for the whole
head. -/
inductive RoleChange (t : Tag) : Option (Text × Bool) → Option (Text × Bool) → Prop where
  | same (role : Option (Text × Bool)) : RoleChange t role role
  | gained (name : Text) : RoleChange t none (some (name, false))
  | renamed {space : Text} (hspace : t.space = some space) :
      RoleChange t (some (space, false)) (some (t.head, false))

/-- A part that does not depend on the closed names stays as it is. -/
theorem RoleChange.ite {c : Prop} [Decidable c] {role later later' : Option (Text × Bool)}
    (h : ¬ c → RoleChange t later later') :
    RoleChange t (if c then role else later) (if c then role else later') := by
  by_cases hc : c
  · rw [if_pos hc, if_pos hc]
    exact .same role
  · rw [if_neg hc, if_neg hc]
    exact h hc

/-- **The part of a tag changes in two ways only** when more names are closed. -/
theorem role?_change (h : ∀ name ∈ closed, name ∈ closed') (t : Tag) :
    RoleChange t (role? closed t) (role? closed' t) := by
  unfold role?
  refine .ite fun _ => .ite fun _ => .ite fun _ => .ite fun hblock => .ite fun _ => .ite fun _ => ?_
  by_cases hname : pairName t ∈ closed
  · rw [if_pos hname, if_pos (h _ hname)]
    exact .same _
  rw [if_neg hname]
  cases hspace : t.space with
  | none =>
    dsimp only
    split
    · exact .gained _
    · exact .same none
  | some space =>
    dsimp only
    -- a namespace that is no block tag pairs under the whole head first
    have hhead : pairName t = t.head := by
      rw [hspace] at hblock
      rw [pairName, hspace]
      exact if_neg (by simpa using hblock)
    by_cases hold : space ∈ closed
    · rw [if_pos hold, if_pos (h _ hold), hhead]
      split
      · exact .renamed hspace
      · exact .same _
    · rw [if_neg hold]
      split
      · exact .gained _
      · split
        · exact .gained _
        · exact .same none

/-! ## Openers and closers among closed names -/

/-- A part that opens, or closes, a construct whose name satisfies a condition. -/
def isPart (p : Text → Bool) (closes : Bool) (role : Option (Text × Bool)) : Bool :=
  role.any fun named => named.2 == closes && p named.1

/-- A name with a colon, as the whole head of a tag with a namespace has it. -/
def hasColon (name : Text) : Bool := decide (':' ∈ name)

namespace RoleChange

variable {role role' : Option (Text × Bool)}

theorem isCloser_eq (h : RoleChange t role role') (p : Text → Bool) :
    isPart p true role' = isPart p true role := by
  cases h <;> rfl

/-- What opens a construct goes on to open one, and its name keeps a property that heads take over
from their namespaces. -/
theorem isOpener_mono (h : RoleChange t role role') {p : Text → Bool}
    (hp : ∀ space, t.space = some space → p space = true → p t.head = true)
    (hopens : isPart p false role = true) : isPart p false role' = true := by
  cases h with
  | same => exact hopens
  | gained name => cases hopens
  | @renamed space hspace =>
    have hnamed : p space = true := by simpa [isPart] using hopens
    simp [isPart, hp space hspace hnamed]

/-- A part that opens a construct as before, with a colon in its name as before, is the same. -/
theorem eq_of_opens (h : RoleChange t role role')
    (hcolon : ∀ space, t.space = some space → ':' ∉ space ∧ ':' ∈ t.head)
    (hany : isPart (fun _ => true) false role' = isPart (fun _ => true) false role)
    (hnamed : isPart hasColon false role' = isPart hasColon false role) : role' = role := by
  cases h with
  | same => rfl
  | gained name => cases hany
  | renamed hspace =>
    obtain ⟨hnot, hmem⟩ := hcolon _ hspace
    simp [isPart, hasColon, hnot, hmem] at hnamed

end RoleChange

/-- The number of tags that open, or close, a construct whose name satisfies a condition. -/
def partCount (p : Text → Bool) (closes : Bool) (closed : List Text) (tags : List Tag) : Nat :=
  tags.countP fun t => isPart p closes (role? closed t)

theorem kindCount_filterMap (p : Text → Bool) (closes : Bool) (text : Text) (closed : List Text)
    (tags : List Tag) : Pairing.kindCount p closes (tags.filterMap (ofTag? text closed)) =
      partCount p closes closed tags := by
  rw [Pairing.kindCount, partCount, List.countP_filterMap]
  congr 1
  funext t
  rw [ofTag?]
  cases role? closed t <;> rfl

theorem partCount_moved (p : Text → Bool) (closes : Bool) (closed : List Text)
    (move : Nat → Nat) (tags : List Tag) :
    partCount p closes closed (tags.map (Tag.moved move)) = partCount p closes closed tags := by
  rw [partCount, List.countP_map]
  rfl

/-- What closes a construct does not depend on the closed names. -/
theorem closers_eq (h : ∀ name ∈ closed, name ∈ closed') (p : Text → Bool) (tags : List Tag) :
    partCount p true closed' tags = partCount p true closed tags := by
  unfold partCount
  congr 1
  funext t
  exact (role?_change h t).isCloser_eq p

/-- A property of names that the heads of tags take over from their namespaces. -/
def Inherited (p : Text → Bool) : Prop :=
  ∀ text, ∀ t ∈ Tag.scan text, ∀ space, t.space = some space → p space = true → p t.head = true

theorem openers_mono (h : ∀ name ∈ closed, name ∈ closed') {p : Text → Bool} (hp : Inherited p)
    (text : Text) :
    partCount p false closed (Tag.scan text) ≤ partCount p false closed' (Tag.scan text) :=
  List.countP_mono_left fun t ht hopens => (role?_change h t).isOpener_mono (hp text t ht) hopens

/-- A test that no fewer elements pass than a weaker one is passed by the same elements. -/
private theorem eq_of_countP_le {α : Type} {p q : α → Bool} {l : List α}
    (himp : ∀ x ∈ l, p x = true → q x = true) (hcount : l.countP q ≤ l.countP p) :
    ∀ x ∈ l, q x = p x := by
  induction l with
  | nil => exact fun x hx => nomatch hx
  | cons x l ih =>
    have htail := fun y hy => himp y (List.mem_cons_of_mem x hy)
    have hle := List.countP_mono_left htail
    rw [List.countP_cons, List.countP_cons] at hcount
    have hhead : q x = p x := by
      cases hp : p x with
      | true => exact himp x List.mem_cons_self hp
      | false =>
        cases hq : q x with
        | false => rfl
        | true =>
          simp only [hp, hq, if_true, Bool.false_eq_true, if_false] at hcount
          omega
    rw [hhead] at hcount
    rintro y (_ | ⟨_, hy⟩)
    · exact hhead
    · exact ih htail (Nat.le_of_add_le_add_right hcount) y hy

/-- The tags of a document keep the parts that they have among the names it closes itself. -/
def KeepsRoles (closed : List Text) (tags : List Tag) : Prop :=
  ∀ t ∈ tags, role? closed t = role? (closedNames tags) t

instance (closed : List Text) (tags : List Tag) : Decidable (KeepsRoles closed tags) :=
  inferInstanceAs (Decidable (∀ t ∈ tags, role? closed t = role? (closedNames tags) t))

/-- If no more tags open constructs than among the names of the document itself, with a colon in the
name or without, the tags keep their parts. -/
theorem keepsRoles_of_openers_le {text : Text}
    (hsub : ∀ name ∈ closedNames (Tag.scan text), name ∈ closed)
    (hcount : ∀ p, Inherited p → partCount p false closed (Tag.scan text) ≤
      partCount p false (closedNames (Tag.scan text)) (Tag.scan text)) :
    KeepsRoles closed (Tag.scan text) := by
  intro t ht
  have hsame : ∀ p, Inherited p →
      isPart p false (role? closed t) = isPart p false (role? (closedNames (Tag.scan text)) t) := by
    intro p hp
    refine eq_of_countP_le (fun u hu hopens => ?_) (hcount p hp) t ht
    exact (role?_change hsub u).isOpener_mono (hp text u hu) hopens
  apply (role?_change hsub t).eq_of_opens fun space hspace => Tag.space_of_mem_scan ht hspace
  · exact hsame _ fun _ _ _ _ _ _ => rfl
  · exact hsame _ fun _ _ hu _ hspace _ => decide_eq_true (Tag.space_of_mem_scan hu hspace).2

/-! ## Two documents -/

variable {first second joined : Text} {move : Nat → Nat}

/-- The names that are closed in either of two documents. -/
def closedInEither (first second : Text) : List Text :=
  closedNames (Tag.scan first) ++ closedNames (Tag.scan second)

theorem ofAntlers_joined
    (htags : Tag.scan joined = Tag.scan first ++ (Tag.scan second).map (Tag.moved move)) :
    ofAntlers joined =
      (Tag.scan first).filterMap (ofTag? joined (closedInEither first second)) ++
        ((Tag.scan second).map (Tag.moved move)).filterMap
          (ofTag? joined (closedInEither first second)) := by
  unfold ofAntlers closedInEither
  dsimp only
  rw [htags, closedNames_append, closedNames_moved, List.filterMap_append]

/-- In a complete document as many tags open constructs as close them. -/
theorem openers_eq_closers {text : Text} (h : (Pairing.walk (ofAntlers text) []).Complete)
    (p : Text → Bool) : partCount p false (closedNames (Tag.scan text)) (Tag.scan text) =
      partCount p true (closedNames (Tag.scan text)) (Tag.scan text) := by
  have hcount := h.kindCount_eq p
  rw [ofAntlers, kindCount_filterMap, kindCount_filterMap] at hcount
  exact hcount

/-- If two documents and the joined one are complete, the joined one has as many openers as both of
them, and so no tag has changed its part. -/
theorem keepsRoles_of_complete
    (htags : Tag.scan joined = Tag.scan first ++ (Tag.scan second).map (Tag.moved move))
    (hfirst : (Pairing.walk (ofAntlers first) []).Complete)
    (hsecond : (Pairing.walk (ofAntlers second) []).Complete)
    (hjoined : (Pairing.walk (ofAntlers joined) []).Complete) :
    KeepsRoles (closedInEither first second) (Tag.scan first) ∧
      KeepsRoles (closedInEither first second) (Tag.scan second) := by
  have hsub₁ : ∀ name ∈ closedNames (Tag.scan first), name ∈ closedInEither first second :=
    fun name hname => List.mem_append_left _ hname
  have hsub₂ : ∀ name ∈ closedNames (Tag.scan second), name ∈ closedInEither first second :=
    fun name hname => List.mem_append_right _ hname
  -- the closers are the same in both readings, so the openers are as many
  have hsum : ∀ p,
      partCount p false (closedInEither first second) (Tag.scan first) +
          partCount p false (closedInEither first second) (Tag.scan second) =
        partCount p false (closedNames (Tag.scan first)) (Tag.scan first) +
          partCount p false (closedNames (Tag.scan second)) (Tag.scan second) := by
    intro p
    have hcount := hjoined.kindCount_eq p
    simp only [ofAntlers_joined htags, Pairing.kindCount_append, kindCount_filterMap,
      partCount_moved] at hcount
    rw [hcount, closers_eq hsub₁ p (Tag.scan first), closers_eq hsub₂ p (Tag.scan second),
      openers_eq_closers hfirst, openers_eq_closers hsecond]
  constructor
  · apply keepsRoles_of_openers_le hsub₁
    intro p hp
    have hmono := openers_mono hsub₂ hp second
    have hboth := hsum p
    omega
  · apply keepsRoles_of_openers_le hsub₂
    intro p hp
    have hmono := openers_mono hsub₁ hp first
    have hboth := hsum p
    omega

/-- Where tokens stand does not matter for their pairing. -/
theorem complete_movedTo_iff (target : Text) (move : Nat → Nat) (tokens : List BlockToken) :
    (Pairing.walk (tokens.map (movedTo target move)) []).Complete ↔
      (Pairing.walk tokens []).Complete :=
  Pairing.complete_map_iff (f := movedTo target move) (fun _ => rfl) (fun _ => rfl) tokens

/-- If every tag keeps its part, the tokens are those of the first document, followed by those of the
second. -/
theorem ofAntlers_of_keepsRoles
    (htags : Tag.scan joined = Tag.scan first ++ (Tag.scan second).map (Tag.moved move))
    (hfirst : KeepsRoles (closedInEither first second) (Tag.scan first))
    (hsecond : KeepsRoles (closedInEither first second) (Tag.scan second)) :
    ofAntlers joined =
      (ofAntlers first).map (movedTo joined id) ++ (ofAntlers second).map (movedTo joined move) := by
  have hunmoved : (Tag.scan first).map (Tag.moved id) = Tag.scan first := List.map_id _
  have hpart := filterMap_ofTag?_moved first joined id hfirst
  rw [hunmoved] at hpart
  rw [ofAntlers_joined htags, hpart, filterMap_ofTag?_moved second joined move hsecond]
  rfl

end BlockToken

namespace StructureRules

/-- The rule reports nothing if no end of a construct stays alone. -/
theorem blockBalance_eq_nil_iff (ctx : RuleContext) :
    blockBalance ctx = [] ↔ (pairingOf ctx).Complete := by
  unfold blockBalance
  rw [List.append_eq_nil_iff, List.map_eq_nil_iff, List.map_eq_nil_iff]
  exact ⟨fun h => ⟨h.1, h.2⟩, fun h => ⟨h.unmatched, h.unclosed⟩⟩

/-- What the rules read of a tag template. -/
def antlersContext (ctx : RuleContext) (text : Text) : RuleContext :=
  { ctx with text := text, dialect := .antlers }

theorem blockBalance_antlers_iff (ctx : RuleContext) (text : Text) :
    blockBalance (antlersContext ctx text) = [] ↔
      (Pairing.walk (BlockToken.ofAntlers text) []).Complete :=
  (blockBalance_eq_nil_iff _).trans (Pairing.complete_ofTokens_iff _)

/-- **Two balanced documents are balanced together exactly if no tag changes its part**, that is, if
every tag of either plays the same part among the names that are closed in one of them as among those
that its own document closes. -/
theorem blockBalance_joined_iff (ctx : RuleContext) {first second : Text}
    (htags : Tag.scan (first ++ '\n' :: second) =
      Tag.scan first ++ (Tag.scan second).map (Tag.moved (first.length + 1 + ·)))
    (hfirst : blockBalance (antlersContext ctx first) = [])
    (hsecond : blockBalance (antlersContext ctx second) = []) :
    blockBalance (antlersContext ctx (first ++ '\n' :: second)) = [] ↔
      BlockToken.KeepsRoles (BlockToken.closedInEither first second) (Tag.scan first) ∧
        BlockToken.KeepsRoles (BlockToken.closedInEither first second) (Tag.scan second) := by
  rw [blockBalance_antlers_iff] at hfirst hsecond ⊢
  constructor
  · exact BlockToken.keepsRoles_of_complete htags hfirst hsecond
  · rintro ⟨hkeeps₁, hkeeps₂⟩
    rw [BlockToken.ofAntlers_of_keepsRoles htags hkeeps₁ hkeeps₂, Pairing.complete_append_iff]
    · exact (BlockToken.complete_movedTo_iff _ _ _).mpr hsecond
    · exact (BlockToken.complete_movedTo_iff _ _ _).mpr hfirst

theorem blockBalance_joined_iff_pairs :
    let ctx : RuleContext := ⟨[], .antlers, .default, .default, true, []⟩
    let first : Text := "\x7b\x7b form:contact \x7d\x7d\x7b\x7b /form \x7d\x7d"
    let second : Text := "\x7b\x7b title \x7d\x7d\x7b\x7b if a \x7d\x7d\x7b\x7b endif \x7d\x7d"
    Tag.scan (first ++ '\n' :: second) =
        Tag.scan first ++ (Tag.scan second).map (Tag.moved (first.length + 1 + ·)) ∧
      blockBalance (antlersContext ctx first) = [] ∧ blockBalance (antlersContext ctx second) = [] ∧
      blockBalance (antlersContext ctx (first ++ '\n' :: second)) = [] := by
  intro ctx first second
  have htags : Tag.scan (first ++ '\n' :: second) =
      Tag.scan first ++ (Tag.scan second).map (Tag.moved (first.length + 1 + ·)) := by
    decide +kernel
  have hfirst : blockBalance (antlersContext ctx first) = [] := by decide +kernel
  have hsecond : blockBalance (antlersContext ctx second) = [] := by decide +kernel
  refine ⟨htags, hfirst, hsecond, (blockBalance_joined_iff ctx htags hfirst hsecond).mpr ?_⟩
  exact ⟨by decide +kernel, by decide +kernel⟩

/-- A variable of one document opens a construct if the other document closes its name. -/
theorem blockBalance_joined_ne_nil :
    let ctx : RuleContext := ⟨[], .antlers, .default, .default, true, []⟩
    let first : Text := "\x7b\x7b title \x7d\x7d"
    let second : Text := "\x7b\x7b title \x7d\x7dx\x7b\x7b /title \x7d\x7d"
    Tag.scan (first ++ '\n' :: second) =
        Tag.scan first ++ (Tag.scan second).map (Tag.moved (first.length + 1 + ·)) ∧
      blockBalance (antlersContext ctx first) = [] ∧ blockBalance (antlersContext ctx second) = [] ∧
      blockBalance (antlersContext ctx (first ++ '\n' :: second)) ≠ [] := by
  decide +kernel

end StructureRules
end TemplateLint
