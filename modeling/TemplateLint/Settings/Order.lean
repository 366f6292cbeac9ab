import TemplateLint.Room
import TemplateLint.Settings.Refusal

/-!
# The order of settings

Comparing and listing the values of settings.  Numbers, texts, moments and lists have an order among
themselves; whatever has none is refused.  A comparison goes down into lists and tables as far as they are
the same, and is given up where there is no room for another level.
-/
namespace TemplateLint
namespace Value

mutual

/-- Two values are the same. -/
def same : Value → Value → Bool
  | null, null => true
  | text s, text t => s = t
  | moment k p, moment l q => k = l && p = q
  | list xs, list ys => sameAll xs ys
  | table xs, table ys => xs.length = ys.length && sameEntries xs ys
  | number m, number n => m.le n && n.le m
  | number m, flag b | flag b, number m =>
    let n : Number := .int (if b then 1 else 0)
    m.le n && n.le m
  | flag a, flag b => a = b
  | _, _ => false

/-- Two lists have the same values. -/
def sameAll : List Value → List Value → Bool
  | [], [] => true
  | x :: xs, y :: ys => same x y && sameAll xs ys
  | _, _ => false

/-- Every entry of a table is in another one, whatever the order. -/
def sameEntries : List (Text × Value) → List (Text × Value) → Bool
  | [], _ => true
  | (k, x) :: xs, ys => (ys.lookup k).any (same x) && sameEntries xs ys

end

mutual

/-- The lists and tables that are open at once while two values are compared for being the same. -/
def sameDepth : Value → Value → Nat
  | list xs, list ys => if xs.length = ys.length then sameDepthAll xs ys + 1 else 1
  | table xs, table ys => if xs.length = ys.length then sameDepthEntries xs ys + 1 else 1
  | _, _ => 0

/-- Two lists of values are compared up to the first that differ. -/
def sameDepthAll : List Value → List Value → Nat
  | x :: xs, y :: ys => max (sameDepth x y) (if same x y then sameDepthAll xs ys else 0)
  | _, _ => 0

/-- The entries of a table are looked up in another one, up to the first that differs. -/
def sameDepthEntries : List (Text × Value) → List (Text × Value) → Nat
  | [], _ => 0
  | (k, x) :: xs, ys =>
    match ys.lookup k with
    | some y => max (sameDepth x y) (if same x y then sameDepthEntries xs ys else 0)
    | none => 0

end

/-- One moment is earlier than another. -/
def earlier (k : MomentKind) (p : Int) (l : MomentKind) (q : Int) : Except Refusal Bool :=
  if k = l then .ok (p < q)
  else
    match k, l with
    | .time, _ | _, .time =>
      .error (.notComparable "<" (moment k p).kind (moment l q).kind)
    | .date, _ | _, .date => .error .datesWithoutOrder
    | _, _ => .error .offsetsWithoutOrder

/-- One value is less than another. -/
def less : Value → Value → Except Refusal Bool
  | text s, text t => .ok (Text.le s t && s ≠ t)
  | moment k p, moment l q => earlier k p l q
  | list xs, list ys => lessAll xs ys
  | x, y =>
    match x.toNumber?, y.toNumber? with
    | some m, some n => .ok (m.lt n)
    | _, _ => .error (.notComparable "<" x.kind y.kind)
where
  /-- The first two values that differ decide. -/
  lessAll : List Value → List Value → Except Refusal Bool
    | [], ys => .ok !ys.isEmpty
    | _ :: _, [] => .ok false
    | x :: xs, y :: ys => if same x y then lessAll xs ys else less x y

/-- The lists and tables that are open at once while one value is told to be less than another. -/
def lessDepth : Value → Value → Nat
  | list xs, list ys => lessDepthAll xs ys + 1
  | _, _ => 0
where
  /-- The first two values that differ are compared once more. -/
  lessDepthAll : List Value → List Value → Nat
    | x :: xs, y :: ys => max (sameDepth x y) (if same x y then lessDepthAll xs ys else lessDepth x y)
    | _, _ => 0

/-- One value is less than another, if there is room for comparing them. -/
def lessWithin (room : Room) (x y : Value) : Except Refusal Bool :=
  if room.levels x y < lessDepth x y then .error .tooDeep else less x y

/-- A value is at most zero. -/
def atMostZero (x : Value) : Except Refusal Bool :=
  match x.toNumber? with
  | some n => .ok (n.le 0)
  | none => .error (.notComparable "<=" x.kind "int")

/-- A value as a list: a list itself, the characters of a text or the keys of a table. -/
def items : Value → Except Refusal (List Value)
  | list values => .ok values
  | text t => .ok (t.map fun c => text [c])
  | table entries => .ok (entries.map fun e => text e.1)
  | x => .error (.notIterable x.kind)

end Value

end TemplateLint
