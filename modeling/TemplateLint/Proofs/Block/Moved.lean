import Mathlib.Data.List.Basic
import TemplateLint.Block.Token

/-!
# Moved tags and tokens

What a tag says, and the part that it takes among the blocks, does not depend on where it stands.  So if
the tags of one text are those of another at other offsets, the same holds of their block tokens
(`BlockToken.ofAntlers_of_moved`).
-/
namespace TemplateLint

/-- A tag that stands elsewhere. -/
def Tag.moved (move : Nat → Nat) (t : Tag) : Tag :=
  { t with start := move t.start, stop := move t.stop }

/-- A tag is read the same way behind more characters. -/
theorem Tag.parse_moved (n : Nat) (inner : Text) (start : Nat) (raw : Text) :
    parse inner (n + start) raw = (parse inner start raw).moved (n + ·) := by
  unfold moved parse
  simp only [Nat.add_assoc]

namespace BlockToken

variable {source target : Text} {move : Nat → Nat}

/-- A token that stands elsewhere, in a text that gives it its position. -/
def movedTo (target : Text) (move : Nat → Nat) (t : BlockToken) : BlockToken :=
  { t with
    start := move t.start
    stop := move t.stop
    position := Position.ofOffset target (move t.start) }

theorem role?_moved (closed : List Text) (move : Nat → Nat) (t : Tag) :
    role? closed (t.moved move) = role? closed t := rfl

theorem closedNames_moved (move : Nat → Nat) (tags : List Tag) :
    closedNames (tags.map (Tag.moved move)) = closedNames tags := by
  unfold closedNames
  rw [List.filter_map, List.map_map]
  rfl

theorem closedNames_append (tags others : List Tag) :
    closedNames (tags ++ others) = closedNames tags ++ closedNames others := by
  unfold closedNames
  rw [List.filter_append, List.map_append]

/-- The token of a moved tag is the moved token. -/
theorem ofTag?_moved (source target : Text) (move : Nat → Nat) (closed : List Text) (t : Tag) :
    ofTag? target closed (t.moved move) = (ofTag? source closed t).map (movedTo target move) := by
  unfold ofTag?
  rw [role?_moved, Option.map_map]
  rfl

/-- Tags that play the same parts among two lists of closed names give the same tokens, moved as they
are. -/
theorem filterMap_ofTag?_moved (source target : Text) (move : Nat → Nat) {closed closed' : List Text}
    {tags : List Tag} (h : ∀ t ∈ tags, role? closed' t = role? closed t) :
    (tags.map (Tag.moved move)).filterMap (ofTag? target closed') =
      (tags.filterMap (ofTag? source closed)).map (movedTo target move) := by
  rw [List.filterMap_map, List.map_filterMap]
  apply List.filterMap_congr
  intro t ht
  have hrole : ofTag? source closed' t = ofTag? source closed t := by
    unfold ofTag?
    rw [h t ht]
  show ofTag? target closed' (t.moved move) = _
  rw [ofTag?_moved source, hrole]

/-- If the tags of one text are the moved tags of another, its tokens are the moved tokens. -/
theorem ofAntlers_of_moved (h : Tag.scan target = (Tag.scan source).map (Tag.moved move)) :
    ofAntlers target = (ofAntlers source).map (movedTo target move) := by
  unfold ofAntlers
  dsimp only
  rw [h, closedNames_moved]
  exact filterMap_ofTag?_moved source target move fun _ _ => rfl

end BlockToken
end TemplateLint
