import TemplateLint.Text.Blank
import TemplateLint.Text.Digits
import TemplateLint.Text.Letters

/-!
# Patterns

A pattern describes how to read on from a place in a text.  There may be several ways to read; they
are ordered, and the first one that lets everything behind it succeed is taken.  `Pattern.ways` lists
them in that order.  `Pattern.run` tries them one after another without building the list, and the
main statement `run_eq_findSome?` says that it finds the first that succeeds.  Only runs of single
characters repeat, so every reading ends.
-/
namespace TemplateLint

/-- A place in a text: how many characters were passed, the last of them, and what follows. -/
structure Spot where
  passed : Nat
  last : Option Char
  rest : Text
deriving DecidableEq

namespace Spot

/-- The place before the first character. -/
def start (text : Text) : Spot := ⟨0, none, text⟩

/-- The place at an offset. -/
def ofOffset (text : Text) (offset : Nat) : Spot :=
  ⟨offset, if offset = 0 then none else text[offset - 1]?, text.drop offset⟩

/-- The place behind a given text, compared character by character under a key. -/
def advance? (key : Char → Char) : Text → Spot → Option Spot
  | [], spot => some spot
  | _ :: _, ⟨_, _, []⟩ => none
  | c :: wanted, ⟨passed, _, d :: rest⟩ =>
    if key c = key d then advance? key wanted ⟨passed + 1, some d, rest⟩ else none

/-- A text starts with a given one, compared character by character under a key. -/
def startsWith (key : Char → Char) : Text → Text → Bool
  | [], _ => true
  | _ :: _, [] => false
  | c :: wanted, d :: text => key c = key d && startsWith key wanted text

/-- The nearest place, from a given one on, where a text follows. -/
def before? (key : Char → Char) (closing : Text) : Nat → Option Char → Text → Option Spot
  | passed, last, [] => if startsWith key closing [] then some ⟨passed, last, []⟩ else none
  | passed, last, c :: rest =>
    if startsWith key closing (c :: rest) then some ⟨passed, last, c :: rest⟩
    else before? key closing (passed + 1) (some c) rest

end Spot

/-- What a group has read: the text behind the place where it started, and how much of it. -/
structure Capture where
  index : Nat
  origin : Text
  length : Nat
deriving DecidableEq

/-- The text that a group has read. -/
def Capture.text (c : Capture) : Text := c.origin.take c.length

/-- A place together with what the groups have read, the latest first. -/
structure Progress where
  spot : Spot
  groups : List Capture
deriving DecidableEq

namespace Progress

/-- The progress with what a group has read on the way to it. -/
def capture (q : Progress) (index : Nat) (origin : Spot) : Progress :=
  ⟨q.spot, ⟨index, origin.rest, q.spot.passed - origin.passed⟩ :: q.groups⟩

/-- The text that a group has read last. -/
def textOf? (p : Progress) (index : Nat) : Option Text :=
  (p.groups.find? (·.index = index)).map (·.text)

end Progress

/-- The ways to read on from a place in a text. -/
inductive Pattern where
  /-- Reads nothing. -/
  | empty
  /-- Reads one accepted character. -/
  | one (accepts : Char → Bool)
  /-- Reads the first, then the second. -/
  | seq (first second : Pattern)
  /-- Reads as the first does, or else as the second does. -/
  | alt (first second : Pattern)
  /-- Reads a run of accepted characters, a longer one first. -/
  | many (least : Nat) (accepts : Char → Bool)
  /-- Reads a run of accepted characters, a shorter one first. -/
  | few (least : Nat) (accepts : Char → Bool)
  /-- Reads up to the nearest place where a text follows, compared under a key. -/
  | upTo (closing : Text) (key : Char → Char)
  /-- Reads as the body does and keeps the text. -/
  | group (index : Nat) (body : Pattern)
  /-- Reads nothing where the body can be read. -/
  | ahead (body : Pattern)
  /-- Reads nothing where the body cannot be read. -/
  | notAhead (body : Pattern)
  /-- Reads nothing unless the last character passed is refused. -/
  | notAfter (refused : Char → Bool)
  /-- Reads nothing where a word starts or ends. -/
  | edge
  /-- Reads the text of a group once more, compared under a key. -/
  | same (index : Nat) (key : Char → Char)

/-- A word starts or ends between two characters. -/
def isEdge (last next : Option Char) : Bool :=
  last.any isWord != next.any isWord

/-- The places that a run of accepted characters passes, the nearest first. -/
def runSpots (accepts : Char → Bool) : Nat → Option Char → Text → List Spot
  | passed, last, [] => [⟨passed, last, []⟩]
  | passed, last, c :: rest =>
    ⟨passed, last, c :: rest⟩ ::
      if accepts c then runSpots accepts (passed + 1) (some c) rest else []

theorem Spot.before?_eq_find? (key : Char → Char) (closing : Text) (passed : Nat)
    (last : Option Char) (rest : Text) :
    before? key closing passed last rest =
      (runSpots (fun _ => true) passed last rest).find? fun s => startsWith key closing s.rest := by
  induction rest generalizing passed last with
  | nil => by_cases h : startsWith key closing [] <;> simp [before?, runSpots, h]
  | cons c rest ih =>
    by_cases h : startsWith key closing (c :: rest) <;> simp [before?, runSpots, h, ih]

namespace Pattern

variable {α : Type}

/-- All ways to read a pattern, in the order of preference. -/
def ways : Pattern → Progress → List Progress
  | empty, p => [p]
  | one accepts, ⟨⟨passed, _, rest⟩, groups⟩ =>
    match rest with
    | [] => []
    | c :: rest => if accepts c then [⟨⟨passed + 1, some c, rest⟩, groups⟩] else []
  | seq first second, p => (ways first p).flatMap (ways second)
  | alt first second, p => ways first p ++ ways second p
  | many least accepts, ⟨⟨passed, last, rest⟩, groups⟩ =>
    (((runSpots accepts passed last rest).drop least).reverse).map (⟨·, groups⟩)
  | few least accepts, ⟨⟨passed, last, rest⟩, groups⟩ =>
    ((runSpots accepts passed last rest).drop least).map (⟨·, groups⟩)
  | upTo closing key, ⟨⟨passed, last, rest⟩, groups⟩ =>
    ((runSpots (fun _ => true) passed last rest).find? fun s =>
      Spot.startsWith key closing s.rest).toList.map (⟨·, groups⟩)
  | group index body, p => (ways body p).map fun q => q.capture index p.spot
  | ahead body, p => if (ways body p).isEmpty then [] else [p]
  | notAhead body, p => if (ways body p).isEmpty then [p] else []
  | notAfter refused, p => if p.spot.last.any refused then [] else [p]
  | edge, p => if isEdge p.spot.last p.spot.rest.head? then [p] else []
  | same index key, p =>
    match p.textOf? index with
    | none => []
    | some text => ((p.spot.advance? key text).toList).map (⟨·, p.groups⟩)

/-- Reads a run of accepted characters and goes on from its longest prefix that succeeds. -/
def runMany (accepts : Char → Bool) (go : Spot → Option α) :
    Nat → Nat → Option Char → Text → Option α
  | least, passed, last, [] => if least = 0 then go ⟨passed, last, []⟩ else none
  | least, passed, last, c :: rest =>
    match if accepts c then runMany accepts go (least - 1) (passed + 1) (some c) rest else none with
    | some a => some a
    | none => if least = 0 then go ⟨passed, last, c :: rest⟩ else none

/-- Reads a run of accepted characters and goes on from its shortest prefix that succeeds. -/
def runFew (accepts : Char → Bool) (go : Spot → Option α) :
    Nat → Nat → Option Char → Text → Option α
  | least, passed, last, [] => if least = 0 then go ⟨passed, last, []⟩ else none
  | least, passed, last, c :: rest =>
    match if least = 0 then go ⟨passed, last, c :: rest⟩ else none with
    | some a => some a
    | none =>
      if accepts c then runFew accepts go (least - 1) (passed + 1) (some c) rest else none

/-- Tries the ways to read a pattern and gives the first answer that `go` has for one of them. -/
def run : Pattern → {β : Type} → Progress → (Progress → Option β) → Option β
  | empty, _, p, go => go p
  | one accepts, _, ⟨⟨passed, _, rest⟩, groups⟩, go =>
    match rest with
    | [] => none
    | c :: rest => if accepts c then go ⟨⟨passed + 1, some c, rest⟩, groups⟩ else none
  | seq first second, _, p, go => run first p fun q => run second q go
  | alt first second, _, p, go =>
    match run first p go with
    | some a => some a
    | none => run second p go
  | many least accepts, _, ⟨⟨passed, last, rest⟩, groups⟩, go =>
    runMany accepts (fun spot => go ⟨spot, groups⟩) least passed last rest
  | few least accepts, _, ⟨⟨passed, last, rest⟩, groups⟩, go =>
    runFew accepts (fun spot => go ⟨spot, groups⟩) least passed last rest
  | upTo closing key, _, ⟨⟨passed, last, rest⟩, groups⟩, go =>
    match Spot.before? key closing passed last rest with
    | none => none
    | some spot => go ⟨spot, groups⟩
  | group index body, _, p, go => run body p fun q => go (q.capture index p.spot)
  | ahead body, _, p, go =>
    match run body p some with
    | none => none
    | some _ => go p
  | notAhead body, _, p, go =>
    match run body p some with
    | none => go p
    | some _ => none
  | notAfter refused, _, p, go => if p.spot.last.any refused then none else go p
  | edge, _, p, go => if isEdge p.spot.last p.spot.rest.head? then go p else none
  | same index key, _, p, go =>
    match p.textOf? index with
    | none => none
    | some text =>
      match p.spot.advance? key text with
      | none => none
      | some spot => go ⟨spot, p.groups⟩

theorem runMany_eq_findSome? (accepts : Char → Bool) (go : Spot → Option α) (least passed : Nat)
    (last : Option Char) (rest : Text) :
    runMany accepts go least passed last rest =
      ((runSpots accepts passed last rest).drop least).reverse.findSome? go := by
  induction rest generalizing least passed last with
  | nil => cases least <;> simp [runMany, runSpots]
  | cons c rest ih =>
    cases least with
    | zero =>
      by_cases h : accepts c
      · simp only [runMany, runSpots, h, if_true, ih]
        simp only [Nat.zero_sub, List.drop_zero, List.reverse_cons, List.findSome?_append]
        cases List.findSome? go (runSpots accepts (passed + 1) (some c) rest).reverse <;> simp
      · simp [runMany, runSpots, h]
    | succ least =>
      by_cases h : accepts c
      · simp only [runMany, runSpots, h, if_true, ih, List.drop_succ_cons, Nat.add_sub_cancel]
        cases List.findSome? go
          (List.drop least (runSpots accepts (passed + 1) (some c) rest)).reverse <;> simp
      · simp [runMany, runSpots, h]

theorem runFew_eq_findSome? (accepts : Char → Bool) (go : Spot → Option α) (least passed : Nat)
    (last : Option Char) (rest : Text) :
    runFew accepts go least passed last rest =
      ((runSpots accepts passed last rest).drop least).findSome? go := by
  induction rest generalizing least passed last with
  | nil => cases least <;> simp [runFew, runSpots]
  | cons c rest ih =>
    cases least with
    | zero =>
      simp only [runFew, runSpots, if_true, ih, List.drop_zero, List.findSome?_cons, Nat.zero_sub]
      cases go ⟨passed, last, c :: rest⟩ with
      | some a => rfl
      | none => by_cases h : accepts c <;> simp [h]
    | succ least =>
      by_cases h : accepts c <;>
        simp [runFew, runSpots, h, ih]

theorem findSome?_flatMap {β γ : Type} (f : β → List γ) (go : γ → Option α) (l : List β) :
    (l.flatMap f).findSome? go = l.findSome? fun b => (f b).findSome? go := by
  induction l with
  | nil => rfl
  | cons b l ih =>
    simp only [List.flatMap_cons, List.findSome?_append, List.findSome?_cons, ih]
    cases List.findSome? go (f b) <;> simp

/-- The matcher finds the first way for which there is an answer. -/
theorem run_eq_findSome? (pattern : Pattern) (p : Progress) (go : Progress → Option α) :
    run pattern p go = (ways pattern p).findSome? go := by
  induction pattern generalizing α p with
  | empty => simp [run, ways]
  | one accepts =>
    obtain ⟨⟨passed, last, rest⟩, groups⟩ := p
    cases rest with
    | nil => simp [run, ways]
    | cons c rest => by_cases h : accepts c <;> simp [run, ways, h]
  | seq first second ihf ihs =>
    simp only [run, ways, ihf, ihs, findSome?_flatMap]
  | alt first second ihf ihs =>
    simp only [run, ways, ihf, ihs, List.findSome?_append]
    cases List.findSome? go (ways first p) <;> simp
  | many least accepts =>
    obtain ⟨⟨passed, last, rest⟩, groups⟩ := p
    simp only [run, ways, runMany_eq_findSome?, List.findSome?_map]
    rfl
  | few least accepts =>
    obtain ⟨⟨passed, last, rest⟩, groups⟩ := p
    simp only [run, ways, runFew_eq_findSome?, List.findSome?_map]
    rfl
  | upTo closing key =>
    obtain ⟨⟨passed, last, rest⟩, groups⟩ := p
    simp only [run, ways, Spot.before?_eq_find?]
    cases (runSpots (fun _ => true) passed last rest).find? fun s =>
      Spot.startsWith key closing s.rest <;> simp
  | group index body ih =>
    simp only [run, ways, ih, List.findSome?_map]
    rfl
  | ahead body ih =>
    simp only [run, ways, ih]
    cases ways body p <;> simp
  | notAhead body ih =>
    simp only [run, ways, ih]
    cases ways body p <;> simp
  | notAfter refused => by_cases h : p.spot.last.any refused <;> simp [run, ways, h]
  | edge => by_cases h : isEdge p.spot.last p.spot.rest.head? <;> simp [run, ways, h]
  | same index key =>
    simp only [run, ways]
    cases p.textOf? index with
    | none => simp
    | some text => cases h : p.spot.advance? key text <;> simp [h]

/-- A given text, character by character. -/
def lit (wanted : Text) : Pattern :=
  wanted.foldr (fun c p => seq (one (· == c)) p) empty

/-- One of some patterns, an earlier one first. -/
def oneOf : List Pattern → Pattern
  | [] => notAhead empty
  | [p] => p
  | p :: more => alt p (oneOf more)

/-- One pattern after another. -/
def chain : List Pattern → Pattern
  | [] => empty
  | [p] => p
  | p :: more => seq p (chain more)

/-- A pattern that may be left out. -/
def maybe (p : Pattern) : Pattern := alt p empty

/-- Any run of blanks, the longest first. -/
def blanks : Pattern := many 0 isBlank

/-- The character is one of the listed ones. -/
def among (wanted : Text) (c : Char) : Bool := decide (c ∈ wanted)

/-- The character is none of the listed ones. -/
def except (refused : Text) (c : Char) : Bool := decide (c ∉ refused)

/-- The small ASCII letter that stands for a character when case is ignored; besides the capitals,
the long s, the Kelvin sign and the dotted and dotless i have one. -/
def caseless (c : Char) : Char :=
  if c.toNat < 128 then c.toLower
  else if c.toNat = 0x17F then 's'
  else if c.toNat = 0x212A then 'k'
  else if c.toNat = 0x130 || c.toNat = 0x131 then 'i'
  else c

/-- A given text in small letters, read without regard to case. -/
def caselessLit (wanted : Text) : Pattern :=
  wanted.foldr (fun c p => seq (one (caseless · == c)) p) empty

end Pattern

end TemplateLint
