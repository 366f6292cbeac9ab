import TemplateLint.Block.Arguments

/-!
# The grammar of argument lists

An argument list is a pair of parentheses around items, and an item is an argument list, a text in
quotes, or another single character.  The counter of open parentheses and the quote that is open decide
this grammar: behind an opening parenthesis they stop exactly behind the items and the parenthesis that
closes them (`Arguments.close?_iff`).  So the offset behind a list is unique, and it depends on nothing
but the list itself and the blanks in front of it (`Arguments.stop_listAt`).
-/
namespace TemplateLint

/-- The two quotes. -/
def IsQuote (c : Char) : Prop := c = '\'' ∨ c = '"'

/-- What stands between two quotes of a kind: a backslash takes the next character, whatever it is, and
any other character is neither a backslash nor the quote. -/
inductive QuotedBody (quote : Char) : Text → Prop
  | nil : QuotedBody quote []
  | escaped (c : Char) {rest : Text} (hrest : QuotedBody quote rest) :
      QuotedBody quote ('\\' :: c :: rest)
  | plain {c : Char} {rest : Text} (hc : c ≠ '\\' ∧ c ≠ quote) (hrest : QuotedBody quote rest) :
      QuotedBody quote (c :: rest)

/-- An item of an argument list. -/
inductive ArgumentItem : Text → Prop
  | list {items : List Text} (hitems : ∀ item ∈ items, ArgumentItem item) :
      ArgumentItem ('(' :: items.flatten ++ [')'])
  | quoted {quote : Char} {body : Text} (hquote : IsQuote quote) (hbody : QuotedBody quote body) :
      ArgumentItem (quote :: body ++ [quote])
  | plain {c : Char} (hc : c ≠ '(' ∧ c ≠ ')' ∧ ¬ IsQuote c) : ArgumentItem [c]

/-- An argument list: items between parentheses. -/
def ArgumentList (text : Text) : Prop :=
  ∃ items : List Text, (∀ item ∈ items, ArgumentItem item) ∧
    text = '(' :: items.flatten ++ [')']

namespace Arguments

/-! ## Reading what the grammar makes -/

theorem close?_some_cons {depth : Nat} {quote c : Char} (hc : c ≠ '\\' ∧ c ≠ quote) (rest : Text) :
    close? depth (some quote) (c :: rest) = (close? depth (some quote) rest).map (· + 1) := by
  rw [close?.eq_def]
  simp only [hc, if_false]

/-- What stands between quotes is read up to the closing one. -/
theorem close?_quotedBody {quote : Char} (hquote : quote ≠ '\\') {body : Text}
    (hbody : QuotedBody quote body) (depth : Nat) (rest : Text) :
    close? depth (some quote) (body ++ quote :: rest) =
      (close? depth none rest).map (· + (body.length + 1)) := by
  induction hbody with
  | nil =>
    rw [List.nil_append, close?.eq_def]
    simp only [hquote, if_false, if_true]
    rfl
  | escaped c hrest ih =>
    rw [List.cons_append, List.cons_append, close?.eq_def]
    simp only [if_true, ih, Option.map_map]
    congr 1
  | plain hc hrest ih =>
    rw [List.cons_append, close?_some_cons hc, ih, Option.map_map]
    congr 1

section Steps

variable (depth : Nat) (rest : Text)

theorem close?_quote {quote : Char} (hquote : IsQuote quote) :
    close? depth none (quote :: rest) = (close? depth (some quote) rest).map (· + 1) := by
  rw [close?.eq_def]
  exact if_pos hquote

theorem close?_open :
    close? depth none ('(' :: rest) = (close? (depth + 1) none rest).map (· + 1) := by
  rw [close?.eq_def]
  rfl

theorem close?_last : close? 1 none (')' :: rest) = some 1 := by
  rw [close?.eq_def]
  rfl

theorem close?_close :
    close? (depth + 2) none (')' :: rest) = (close? (depth + 1) none rest).map (· + 1) := by
  rw [close?.eq_def]
  rfl

theorem close?_plain {c : Char} (hc : c ≠ '(' ∧ c ≠ ')' ∧ ¬ IsQuote c) :
    close? depth none (c :: rest) = (close? depth none rest).map (· + 1) := by
  obtain ⟨hopen, hclose, hquote⟩ := hc
  rw [close?.eq_def]
  simp only [hopen, hclose, if_false]
  exact if_neg hquote

end Steps

/-- Inside a list the text is read as a whole, and what is open behind it is what was open in front. -/
def ReadInside (text : Text) : Prop :=
  ∀ depth rest, close? (depth + 1) none (text ++ rest) =
    (close? (depth + 1) none rest).map (· + text.length)

theorem ReadInside.flatten {items : List Text} (h : ∀ item ∈ items, ReadInside item) :
    ReadInside items.flatten := by
  induction items with
  | nil =>
    intro depth rest
    exact Option.map_id'.symm
  | cons item items ih =>
    obtain ⟨hitem, hitems⟩ := List.forall_mem_cons.mp h
    intro depth rest
    rw [List.flatten_cons, List.append_assoc, hitem, ih hitems, Option.map_map, List.length_append]
    congr 1
    funext n
    show n + items.flatten.length + item.length = _
    omega

theorem readInside_of_item {item : Text} (h : ArgumentItem item) : ReadInside item := by
  induction h with
  | @list items hitems ih =>
    intro depth rest
    have hinner := ReadInside.flatten ih (depth + 1) (')' :: rest)
    rw [List.cons_append, List.cons_append, List.append_assoc, List.singleton_append, close?_open,
      hinner, close?_close, Option.map_map, Option.map_map]
    congr 1
    funext n
    show n + 1 + items.flatten.length + 1 = n + (items.flatten ++ [')']).length.succ
    rw [List.length_append, List.length_singleton]
    omega
  | @quoted quote body hquote hbody =>
    intro depth rest
    have hslash : quote ≠ '\\' := by rcases hquote with rfl | rfl <;> decide
    have hinner := close?_quotedBody hslash hbody (depth + 1) rest
    rw [List.cons_append, List.cons_append, List.append_assoc, List.singleton_append,
      close?_quote _ _ hquote, hinner, Option.map_map]
    congr 1
    funext n
    show n + (body.length + 1) + 1 = n + (body ++ [quote]).length.succ
    rw [List.length_append, List.length_singleton]
    omega
  | plain hc => exact fun depth rest => close?_plain (depth + 1) rest hc

/-! ## What is read is made by the grammar -/

/-- The text closes that many lists, with items in front of each closing parenthesis. -/
def Closes : Nat → Text → Prop
  | 0, text => text = []
  | depth + 1, text =>
    ∃ (items : List Text) (later : Text), (∀ item ∈ items, ArgumentItem item) ∧
      Closes depth later ∧ text = items.flatten ++ ')' :: later

/-- The text closes that many lists, behind the rest of a quoted text if a quote is open. -/
def ClosesFrom (depth : Nat) : Option Char → Text → Prop
  | none, text => Closes depth text
  | some quote, text =>
    ∃ body later, QuotedBody quote body ∧ Closes depth later ∧ text = body ++ quote :: later

namespace Closes

variable {depth : Nat} {text : Text}

theorem close (h : Closes depth text) : Closes (depth + 1) (')' :: text) :=
  ⟨[], text, List.forall_mem_nil _, h, rfl⟩

/-- One more item may stand in front. -/
theorem item {item : Text} (hitem : ArgumentItem item) (h : Closes (depth + 1) text) :
    Closes (depth + 1) (item ++ text) := by
  obtain ⟨items, later, hitems, hlater, rfl⟩ := h
  refine ⟨item :: items, later, List.forall_mem_cons.mpr ⟨hitem, hitems⟩, hlater, ?_⟩
  rw [List.flatten_cons, List.append_assoc]

/-- What is closed first belongs to the parenthesis that was opened last. -/
theorem «open» (h : Closes (depth + 2) text) : Closes (depth + 1) ('(' :: text) := by
  obtain ⟨items, later, hitems, hlater, rfl⟩ := h
  have hlist := hlater.item (ArgumentItem.list hitems)
  simpa using hlist

theorem quoted {quote : Char} (hquote : IsQuote quote) (h : ClosesFrom (depth + 1) (some quote) text) :
    Closes (depth + 1) (quote :: text) := by
  obtain ⟨body, later, hbody, hlater, rfl⟩ := h
  have hitem := hlater.item (ArgumentItem.quoted hquote hbody)
  simpa using hitem

end Closes

/-- Where the search for the closing parenthesis stops, all that was open has been closed. -/
theorem closesFrom_of_close? {depth : Nat} {quote : Option Char} {text : Text} {size : Nat}
    (h : close? (depth + 1) quote text = some size) :
    size ≤ text.length ∧ ClosesFrom (depth + 1) quote (text.take size) := by
  generalize hcount : depth + 1 = count at h
  -- every step but the last one reads on behind one or two characters, which the grammar adds in front
  fun_induction close? count quote text generalizing depth size with
  | case1 => cases h
  | case2 => cases h
  | case3 count quote c rest ih =>
    obtain ⟨size, hsize, rfl⟩ := Option.map_eq_some_iff.mp h
    obtain ⟨hle, body, later, hbody, hlater, htake⟩ := ih hcount hsize
    refine ⟨Nat.add_le_add_right hle 2, '\\' :: c :: body, later, .escaped c hbody, hlater, ?_⟩
    rw [List.take_succ_cons, List.take_succ_cons, htake]
    rfl
  | case4 count quote rest hslash ih =>
    obtain ⟨size, hsize, rfl⟩ := Option.map_eq_some_iff.mp h
    obtain ⟨hle, hlater⟩ := ih hcount hsize
    exact ⟨Nat.succ_le_succ hle, [], rest.take size, .nil, hlater, rfl⟩
  | case5 count quote c rest hslash hother ih =>
    obtain ⟨size, hsize, rfl⟩ := Option.map_eq_some_iff.mp h
    obtain ⟨hle, body, later, hbody, hlater, htake⟩ := ih hcount hsize
    refine ⟨Nat.succ_le_succ hle, c :: body, later, .plain ⟨hslash, hother⟩ hbody, hlater, ?_⟩
    rw [List.take_succ_cons, htake]
    rfl
  | case6 count quote rest hquote ih =>
    obtain ⟨size, hsize, rfl⟩ := Option.map_eq_some_iff.mp h
    subst hcount
    obtain ⟨hle, hlater⟩ := ih rfl hsize
    exact ⟨Nat.succ_le_succ hle, .quoted hquote hlater⟩
  | case7 count rest hquote ih =>
    obtain ⟨size, hsize, rfl⟩ := Option.map_eq_some_iff.mp h
    subst hcount
    obtain ⟨hle, hlater⟩ := ih rfl hsize
    exact ⟨Nat.succ_le_succ hle, hlater.open⟩
  | case8 count rest hquote hopen hlast =>
    obtain rfl := Option.some.inj h
    obtain rfl : depth = 0 := by omega
    subst hcount
    exact ⟨Nat.succ_le_succ (Nat.zero_le _), .close rfl⟩
  | case9 count rest hquote hopen hlast ih =>
    obtain ⟨size, hsize, rfl⟩ := Option.map_eq_some_iff.mp h
    obtain ⟨below, rfl⟩ : ∃ below, depth = below + 1 := ⟨depth - 1, by omega⟩
    subst hcount
    obtain ⟨hle, hlater⟩ := ih rfl hsize
    exact ⟨Nat.succ_le_succ hle, .close hlater⟩
  | case10 count c rest hquote hopen hclose ih =>
    obtain ⟨size, hsize, rfl⟩ := Option.map_eq_some_iff.mp h
    subst hcount
    obtain ⟨hle, hlater⟩ := ih rfl hsize
    exact ⟨Nat.succ_le_succ hle, .item (.plain ⟨hopen, hclose, hquote⟩) hlater⟩

/-- **The counter decides the grammar**: it stops behind items and the parenthesis that closes them. -/
theorem close?_iff (text : Text) (size : Nat) :
    close? 1 none text = some size ↔
      size ≤ text.length ∧ ArgumentList ('(' :: text.take size) := by
  constructor
  · intro h
    obtain ⟨hle, items, later, hitems, rfl, htake⟩ := closesFrom_of_close? h
    exact ⟨hle, items, hitems, congrArg ('(' :: ·) htake⟩
  · rintro ⟨hle, items, hitems, htake⟩
    have hinside : text.take size = items.flatten ++ [')'] := (List.cons.inj htake).2
    have htext : text = items.flatten ++ ')' :: text.drop size := by
      have happend := List.take_append_drop size text
      rw [hinside, List.append_assoc] at happend
      exact happend.symm
    have hlength := congrArg List.length hinside
    rw [List.length_take, Nat.min_eq_left hle, List.length_append, List.length_singleton] at hlength
    have hread := ReadInside.flatten fun item hitem => readInside_of_item (hitems item hitem)
    rw [htext, hread, close?_last, hlength, Nat.add_comm]
    rfl

/-! ## Argument lists at an offset -/

/-- The first offset from a given one on at which neither a space nor a tab stands. -/
def begin (text : Text) (index : Nat) : Nat :=
  index + (text.drop index).findIdx fun c => c != ' ' && c != '\t'

/-- An argument list stands between the blanks behind an offset and another offset of the text. -/
structure ListAt (text : Text) (index stop : Nat) : Prop where
  stop_le : stop ≤ text.length
  list : ArgumentList (Text.slice text (begin text index) stop)

end Arguments

/-- An argument list starts with its parenthesis. -/
theorem ArgumentList.exists_cons {text : Text} (h : ArgumentList text) :
    ∃ inside, text = '(' :: inside := by
  obtain ⟨items, -, rfl⟩ := h
  exact ⟨items.flatten ++ [')'], rfl⟩

namespace Arguments

theorem takeWhile_gap (text : Text) :
    (text.takeWhile fun c => c == ' ' || c == '\t').length =
      text.findIdx fun c => c != ' ' && c != '\t' := by
  rw [List.takeWhile_eq_take_findIdx_not, List.length_take, Nat.min_eq_left List.findIdx_le_length]
  congr 1
  funext c
  simp [bne]

/-- The list ends behind its start. -/
theorem ListAt.begin_lt {text : Text} {index stop : Nat} (h : ListAt text index stop) :
    begin text index < stop := by
  obtain ⟨inside, hinside⟩ := h.list.exists_cons
  apply Nat.lt_of_not_le
  intro hle
  rw [Text.slice, Nat.sub_eq_zero_of_le hle, List.take_zero] at hinside
  cases hinside

/-- Behind an offset the list stands as in the text that is left there. -/
theorem listAt_iff_drop (text : Text) (index stop : Nat) :
    ListAt text index stop ↔ ∃ size, stop = index + size ∧ ListAt (text.drop index) 0 size := by
  have hbegin : begin text index = index + begin (text.drop index) 0 := by
    rw [begin, begin, List.drop_zero, Nat.zero_add]
  have hslice : ∀ size, Text.slice text (begin text index) (index + size) =
      Text.slice (text.drop index) (begin (text.drop index) 0) size := by
    intro size
    rw [hbegin, Text.slice, Text.slice, List.drop_drop, Nat.add_sub_add_left]
  constructor
  · intro h
    have hlt := h.begin_lt
    have hle := h.stop_le
    obtain ⟨size, rfl⟩ : ∃ size, stop = index + size := ⟨stop - index, by omega⟩
    refine ⟨size, rfl, ?_, hslice size ▸ h.list⟩
    rw [List.length_drop]
    omega
  · rintro ⟨size, rfl, h⟩
    have hlt := h.begin_lt
    have hle := h.stop_le
    rw [List.length_drop] at hle
    exact ⟨by omega, hslice size ▸ h.list⟩

/-- A span is the length of the blanks and the list, if there is one. -/
theorem span_iff (text : Text) (size : Nat) :
    span text = size ∧ 0 < size ↔ ListAt text 0 size := by
  have hbegin : begin text 0 = (text.takeWhile fun c => c == ' ' || c == '\t').length := by
    rw [takeWhile_gap, begin, List.drop_zero, Nat.zero_add]
  rw [span]
  generalize (text.takeWhile fun c => c == ' ' || c == '\t').length = gap at hbegin ⊢
  constructor
  · rintro ⟨hspan, hpos⟩
    split at hspan
    · next rest hdrop =>
      split at hspan
      · next inside hclose =>
        subst hspan
        obtain ⟨hle, hlist⟩ := (close?_iff rest inside).mp hclose
        have hlength := congrArg List.length hdrop
        rw [List.length_drop, List.length_cons] at hlength
        have hcount : gap + 1 + inside - gap = inside + 1 := by omega
        refine ⟨by omega, ?_⟩
        rw [hbegin, Text.slice, hdrop, hcount, List.take_succ_cons]
        exact hlist
      · omega
    · omega
  · intro h
    have hlt := h.begin_lt
    obtain ⟨hle, hlist⟩ := h
    obtain ⟨inside, hinside⟩ := hlist.exists_cons
    rw [hbegin] at hlt hlist hinside
    obtain ⟨count, rfl⟩ : ∃ count, size = gap + 1 + count := ⟨size - gap - 1, by omega⟩
    have hcount : gap + 1 + count - gap = count + 1 := by omega
    rw [Text.slice, hcount] at hlist hinside
    cases hdrop : text.drop gap with
    | nil =>
      rw [hdrop] at hinside
      cases hinside
    | cons c rest =>
      rw [hdrop, List.take_succ_cons] at hlist hinside
      obtain ⟨rfl, -⟩ := List.cons.inj hinside
      have hlength := congrArg List.length hdrop
      rw [List.length_drop, List.length_cons] at hlength
      have hclose := (close?_iff rest count).mpr ⟨by omega, hlist⟩
      simp only [hclose]
      exact ⟨trivial, by omega⟩

/-- The offset behind a list is where one ends. -/
theorem stop_iff (text : Text) (index r : Nat) :
    stop text index = r ∧ index < r ↔ ListAt text index r := by
  rw [listAt_iff_drop, stop]
  constructor
  · rintro ⟨rfl, hlt⟩
    exact ⟨_, rfl, (span_iff _ _).mp ⟨rfl, by omega⟩⟩
  · rintro ⟨size, rfl, h⟩
    obtain ⟨hspan, hpos⟩ := (span_iff _ _).mpr h
    exact ⟨by rw [hspan], by omega⟩

/-- Whether a list stands at the start of a text depends on no character behind it. -/
theorem ListAt.of_take_eq {text other : Text} {size : Nat} (h : ListAt text 0 size)
    (htake : other.take size = text.take size) : ListAt other 0 size := by
  have hlt := h.begin_lt
  have hlength := congrArg List.length htake
  rw [List.length_take, List.length_take, Nat.min_eq_left h.stop_le] at hlength
  have hbegin : begin other 0 = begin text 0 := by
    have hfind := congrArg (List.findIdx fun c => c != ' ' && c != '\t') htake
    rw [List.findIdx_take, List.findIdx_take] at hfind
    rw [begin, List.drop_zero] at hlt ⊢
    rw [begin, List.drop_zero]
    omega
  refine ⟨by omega, ?_⟩
  rw [hbegin, Text.slice, ← List.drop_take, htake, List.drop_take]
  exact h.list

/-- **Argument lists end where the grammar says.**  An offset behind the given one is the answer exactly
if the text between, without the blanks in front, is an argument list; without a list the offset itself
is.  At most one list stands at an offset.  The list alone decides: the answer is the same wherever
the same characters stand, whatever follows them, and in particular behind more characters. -/
theorem stop_listAt :
    (∀ text index r, stop text index = r ∧ index < r ↔ ListAt text index r) ∧
    (∀ text index, (∀ r, ¬ ListAt text index r) → stop text index = index) ∧
    (∀ text index r r', ListAt text index r → ListAt text index r' → r = r') ∧
    (∀ text index size other place, ListAt text index (index + size) →
      Text.slice other place (place + size) = Text.slice text index (index + size) →
      stop other place = place + size) ∧
    ∀ front text index,
      stop (front ++ text) (front.length + index) = front.length + stop text index := by
  refine ⟨stop_iff, fun text index hnone => ?_, fun text index r r' hr hr' => ?_,
    fun text index size other place hlist hsame => ?_, fun front text index => ?_⟩
  · rcases Nat.eq_zero_or_pos (span (text.drop index)) with hzero | hpos
    · rw [stop, hzero, Nat.add_zero]
    · exact absurd ((stop_iff text index _).mp ⟨rfl, Nat.lt_add_of_pos_right hpos⟩) (hnone _)
  · exact ((stop_iff text index r).mpr hr).1.symm.trans ((stop_iff text index r').mpr hr').1
  · rw [Text.slice, Text.slice, Nat.add_sub_cancel_left, Nat.add_sub_cancel_left] at hsame
    obtain ⟨size', hsize, hhere⟩ := (listAt_iff_drop text index _).mp hlist
    obtain rfl : size = size' := Nat.add_left_cancel hsize
    have hthere := (listAt_iff_drop other place _).mpr ⟨size, rfl, hhere.of_take_eq hsame⟩
    exact ((stop_iff other place _).mpr hthere).1
  · rw [stop, stop, ← List.drop_drop, List.drop_left, Nat.add_assoc]

/-- A parenthesis in quotes closes nothing, also behind an escaped quote. -/
example : stop "@if  ($a && f('it\\'s )')) x" 3 = 25 := by decide +kernel

end Arguments
end TemplateLint
