import Mathlib.Data.Set.Card
import TemplateLint.Proofs.Block.Roles

/-!
# The depth of constructs

The depth of a construct is read off the stack when its closer comes, at which time openers of other
constructs have been taken out of the middle.  It can be told from the finished pairing as well: an
opener in front of a construct is still open at its closer exactly if it is closed only behind it or
never (`Pairing.openAt_before_iff`).  So the depth counts these openers (`Pairing.ofTokens_depth`).
-/
namespace TemplateLint
namespace Pairing

variable {tokens : List BlockToken}

/-- An opener stands around the construct between two places: it comes in front of the opener there, and
it is never closed or closed only behind the closer there. -/
def StandsAround (tokens : List BlockToken) (places : Nat × Nat) (h : Nat) : Prop :=
  h < places.1 ∧ (LoneOpener tokens h ∨ ∃ k, places.2 < k ∧ Matched tokens h k)

/-- The openers in front of a construct that are open at its closer are those that stand around it. -/
theorem openAt_before_iff {h i j : Nat} (hm : Matched tokens i j) (hhi : h < i) :
    OpenAt tokens j h ↔ LoneOpener tokens h ∨ ∃ k, j < k ∧ Matched tokens h k := by
  constructor
  · intro hopen
    by_cases hex : ∃ k, Matched tokens h k
    · obtain ⟨k, hk⟩ := hex
      refine Or.inr ⟨k, ?_, hk⟩
      have hle : j ≤ k := Nat.le_of_not_lt fun hlt => hopen.alone k hlt hk
      have hne : j ≠ k := by
        rintro rfl
        exact absurd (hk.opener_unique hm) (Nat.ne_of_lt hhi)
      omega
    · exact Or.inl (loneOpener_iff.mpr ⟨hopen.opens, fun k hk => hex ⟨k, hk⟩⟩)
  · have hij : i < j := hm.openAt.lt
    rintro (hlone | ⟨k, hjk, hk⟩)
    · obtain ⟨hopens, halone⟩ := loneOpener_iff.mp hlone
      exact ⟨by omega, hopens, fun j' _ => halone j'⟩
    · refine ⟨by omega, hk.openAt.opens, fun j' hj' hm' => ?_⟩
      have hsame := hm'.closer_unique hk
      omega

/-- The depth of a construct between two matched places. -/
theorem BlockAt.depth_eq {b : Block} {places : Nat × Nat} (hb : BlockAt tokens b places)
    (hm : Matched tokens places.1 places.2) :
    b.depth = {h | StandsAround tokens places h}.ncard := by
  obtain ⟨below, hnodup, hdepth, hbelow⟩ := hb.depth
  have hset : {h | StandsAround tokens places h} = below.toFinset := by
    ext h
    rw [Finset.mem_coe, List.mem_toFinset, hbelow h]
    exact and_congr_right fun hlt => (openAt_before_iff hm hlt).symm
  rw [hset, Set.ncard_coe_finset, List.toFinset_card_of_nodup hnodup, hdepth]

variable (tokens) in
/-- The constructs of a pairing stand at the matched places, each at one pair of them. -/
theorem blockAt_ofTokens : ∃ pairs : List (Nat × Nat), pairs.Nodup ∧
    (∀ i j, (i, j) ∈ pairs ↔ Matched tokens i j) ∧
      List.Forall₂ (BlockAt tokens) (ofTokens tokens).blocks pairs := by
  obtain ⟨pairs, closers, openers, r⟩ := walk_tokens_roles tokens
  have hperm := List.mergeSort_perm (walk tokens []).blocks fun a b => a.start ≤ b.start
  obtain ⟨sorted, hsorted, hpairs⟩ := List.perm_comp_forall₂ hperm r.blocks
  have hnodup : pairs.Nodup :=
    r.pairs_increasing.imp fun hlt he => Nat.ne_of_lt hlt (congrArg Prod.snd he)
  refine ⟨sorted, hpairs.nodup_iff.mpr hnodup, fun i j => ?_, hsorted⟩
  rw [hpairs.mem_iff, r.pairs_iff]
  exact ⟨fun h => h.2, fun h => ⟨Nat.zero_le j, h⟩⟩

/-- **The depth of a construct is the number of openers around it**: those that come before its own and
are never closed or closed only behind its closer. -/
theorem ofTokens_depth (tokens : List BlockToken) :
    ∃ pairs : List (Nat × Nat), pairs.Nodup ∧ (∀ i j, (i, j) ∈ pairs ↔ Matched tokens i j) ∧
      List.Forall₂
        (fun b places => tokens[places.1]? = some b.opener ∧ tokens[places.2]? = some b.closer ∧
          b.depth = {h | StandsAround tokens places h}.ncard)
        (ofTokens tokens).blocks pairs := by
  obtain ⟨pairs, hnodup, hmatched, hblocks⟩ := blockAt_ofTokens tokens
  refine ⟨pairs, hnodup, hmatched, ?_⟩
  refine List.forall₂_iff_zip.mpr ⟨hblocks.length_eq, fun {b places} hzip => ?_⟩
  have hb := List.forall₂_zip hblocks hzip
  exact ⟨hb.opener, hb.closer, hb.depth_eq ((hmatched _ _).mp (List.of_mem_zip hzip).2)⟩

/-- Two constructs around a third one, of which one is closed later and one never; what is closed before
does not count. -/
example :
    let token (name : Text) (closes : Bool) : BlockToken := ⟨name, closes, 0, 0, ⟨1, 1⟩, []⟩
    let tokens := [token "a" false, token "b" false, token "c" false, token "d" false,
      token "c" true, token "d" true, token "b" true]
    (ofTokens tokens).blocks.map (fun b => (b.name, b.depth)) =
      [(("c" : Text), 2), ("d", 2), ("b", 1)] := by
  cbv

end Pairing
end TemplateLint
