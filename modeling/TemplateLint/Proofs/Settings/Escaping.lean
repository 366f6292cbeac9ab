import TemplateLint.Proofs.Settings.Accepted
import TemplateLint.Proofs.Stops

/-!
# Errors that are not told

An error of loading is told as one about the configuration, with exceptions: a user without a folder, a
name on the path of a file that is too long, a file whose bytes are no text, an integer of too many
digits, values that lie too deep within each other, and values that lack an operation that names have.
Each step of loading is followed once for the errors that it may stop with (`Stops`).  So either a
configuration that may be used is loaded, or the error is told, unless one of the exceptions is the first
thing in the way (`Configuration.load_accepted_or_reported_iff`).
-/
namespace TemplateLint

/-! ## Records -/

/-- The refusal is about an operation that cannot be carried out on the values. -/
def Refusal.IsCrash (r : Refusal) : Prop := r.sort = .operation

namespace Value

theorem items_not_crash (v : Value) : ¬ Stops Refusal.IsCrash v.items := by
  cases v with
  | list values => exact Stops.not_ok _
  | text t => exact Stops.not_ok _
  | table entries => exact Stops.not_ok _
  | _ => exact Stops.not_error (by rintro ⟨⟩)

theorem earlier_not_crash (k : MomentKind) (p : Int) (l : MomentKind) (q : Int) :
    ¬ Stops Refusal.IsCrash (earlier k p l q) := by
  unfold earlier
  split
  · exact Stops.not_ok _
  · split
    · exact Stops.not_error (by rintro ⟨⟩)
    · exact Stops.not_error (by rintro ⟨⟩)
    · exact Stops.not_error (by rintro ⟨⟩)
    · exact Stops.not_error (by rintro ⟨⟩)
    · exact Stops.not_error (by rintro ⟨⟩)

mutual

theorem less_not_crash : ∀ x y : Value, ¬ Stops Refusal.IsCrash (x.less y)
  | list xs, y => by
    cases y with
    | list ys =>
      rw [less]
      exact lessAll_not_crash xs ys
    | _ => exact Stops.not_error (by rintro ⟨⟩)
  | text s, y => by
    cases y with
    | text t => exact Stops.not_ok _
    | _ => exact Stops.not_error (by rintro ⟨⟩)
  | moment k p, y => by
    cases y with
    | moment l q => exact earlier_not_crash k p l q
    | _ => exact Stops.not_error (by rintro ⟨⟩)
  | number m, y => by
    cases y with
    | number n => exact Stops.not_ok _
    | flag b => exact Stops.not_ok _
    | _ => exact Stops.not_error (by rintro ⟨⟩)
  | flag b, y => by
    cases y with
    | number n => exact Stops.not_ok _
    | flag b => exact Stops.not_ok _
    | _ => exact Stops.not_error (by rintro ⟨⟩)
  | null, y => by cases y <;> exact Stops.not_error (by rintro ⟨⟩)
  | table entries, y => by cases y <;> exact Stops.not_error (by rintro ⟨⟩)

theorem lessAll_not_crash :
    ∀ xs ys : List Value, ¬ Stops Refusal.IsCrash (less.lessAll xs ys)
  | [], ys => Stops.not_ok _
  | x :: xs, [] => Stops.not_ok _
  | x :: xs, y :: ys => by
    rw [less.lessAll]
    split
    · exact lessAll_not_crash xs ys
    · exact less_not_crash x y

end

theorem atMostZero_not_crash (v : Value) : ¬ Stops Refusal.IsCrash v.atMostZero := by
  rw [atMostZero]
  split
  · exact Stops.not_ok _
  · exact Stops.not_error (by rintro ⟨⟩)

end Value

namespace Record

variable {r : Record} {field : Text}

theorem fill_not_crash (s : Schema) (given : Record) : ¬ Stops Refusal.IsCrash (s.fill given) := by
  rw [Schema.fill]
  split
  · rw [Stops.error_iff]
    split
    · rintro ⟨⟩
    · rintro ⟨⟩
  · exact Stops.not_ok _

theorem listed_not_crash (field : Text) (r : Record) : ¬ Stops Refusal.IsCrash (r.listed field) :=
  Stops.not_bind (Value.items_not_crash _) fun _ => Stops.not_ok _

theorem listedNames_not_crash (field : Text) (r : Record) :
    ¬ Stops Refusal.IsCrash (r.listedNames field) := by
  rw [listedNames]
  split
  · exact Stops.not_error (by rintro ⟨⟩)
  · exact listed_not_crash field r

theorem checkPositive_not_crash (r : Record) (field : Text) :
    ¬ Stops Refusal.IsCrash (r.checkPositive field) :=
  Stops.not_refuse (Value.atMostZero_not_crash _) (by rintro ⟨⟩)

theorem checkWeight_not_crash (r : Record) (field : Text) :
    ¬ Stops Refusal.IsCrash (r.checkWeight field) :=
  Stops.not_refuse (Value.less_not_crash _ _) (by rintro ⟨⟩)

/-- There is no room for comparing the values of two fields. -/
def OrderTooDeep (room : Room) (r : Record) (greater lesser : Text) : Prop :=
  room.levels (r.value greater) (r.value lesser) < (r.value greater).lessDepth (r.value lesser)

theorem checkOrder_crash_iff {room : Room} {greater lesser : Text} :
    Stops Refusal.IsCrash (r.checkOrder room greater lesser) ↔
      r.OrderTooDeep room greater lesser := by
  rw [checkOrder, OrderTooDeep, Value.lessWithin]
  split
  · next hdeep => exact iff_of_true (Stops.error_iff.mpr rfl) hdeep
  · next hroom =>
    exact iff_of_false (Stops.not_refuse (Value.less_not_crash _ _) (by rintro ⟨⟩)) hroom

theorem checkEntries_not_crash (r : Record) (field : Text) :
    ¬ Stops Refusal.IsCrash (r.checkEntries field) := by
  rw [checkEntries]
  split
  · exact Stops.not_error (by rintro ⟨⟩)
  · exact Stops.not_ok _

theorem checkVerbosity_not_crash (v : Value) : ¬ Stops Refusal.IsCrash (checkVerbosity v) := by
  rw [checkVerbosity]
  split
  · exact Stops.not_ok _
  · exact Stops.not_error (by rintro ⟨⟩)

/-- A value in place of a forbidden accessor that is no text and no moment, and counts as a yes. -/
structure IsNameless (v : Value) : Prop where
  holds : v.holds = true
  not_text : ∀ name, v ≠ .text name
  not_moment : ∀ kind position, v ≠ .moment kind position

theorem checkAccessor_crash_iff {v : Value} :
    Stops Refusal.IsCrash (checkAccessor v) ↔ IsNameless v := by
  unfold checkAccessor
  split
  · next hno =>
    refine iff_of_false (Stops.not_error (by rintro ⟨⟩)) fun h => ?_
    rw [h.holds] at hno
    cases hno
  · next hyes =>
    have hholds : v.holds = true := by simpa using hyes
    cases v with
    | text name =>
      refine iff_of_false ?_ fun h => h.not_text name rfl
      show ¬ Stops Refusal.IsCrash (if Policy.isAccessorName name then _ else _)
      split
      · exact Stops.not_ok _
      · exact Stops.not_error (by rintro ⟨⟩)
    | moment kind position =>
      exact iff_of_false (Stops.not_error (by rintro ⟨⟩)) fun h =>
        h.not_moment kind position rfl
    | _ =>
      exact iff_of_true (Stops.error_iff.mpr rfl)
        ⟨hholds, (fun _ h => by cases h), (fun _ _ h => by cases h)⟩

theorem checkSuffix_crash_iff {v : Value} :
    Stops Refusal.IsCrash (checkSuffix v) ↔ ∀ suffix, v ≠ .text suffix := by
  unfold checkSuffix
  split
  · next rest => exact iff_of_false (Stops.not_ok _) fun h => h _ rfl
  · next suffix _ =>
    exact iff_of_false (Stops.not_error (by rintro ⟨⟩)) fun h => h suffix rfl
  · next hdot htext => exact iff_of_true (Stops.error_iff.mpr rfl) htext

/-- The record of a policy before its accessors are examined. -/
def policyLists (given : Record) : Except Refusal Record := do
  let r ← Schema.policy.fill given
  let r ← r.listedNames "forbidden_accessors"
  let r ← r.listedNames "known_tag_namespaces"
  r.listedNames "known_modifiers"

/-- Behind forbidden accessors that are names stands a value that cannot be examined. -/
def HasNameless (r : Record) : Prop :=
  ∃ before v after, r.listValues "forbidden_accessors" = before ++ v :: after ∧
    (∀ u ∈ before, ∃ name, u = .text name ∧ IsAccessor name) ∧ IsNameless v

theorem policy_crash_iff (given : Record) : Stops Refusal.IsCrash (policy given) ↔
    ∃ r, policyLists given = .ok r ∧ r.HasNameless := by
  have hlists : policy given = policyLists given >>= fun r =>
      (r.listValues "forbidden_accessors").forM checkAccessor >>= fun _ => pure r := by
    simp only [policy, policyLists, bind_assoc]
  -- the lists only refuse, so a crash can only come from the names in the first one
  have hnone : ¬ Stops Refusal.IsCrash (policyLists given) :=
    Stops.not_bind (fill_not_crash _ given) fun r =>
      Stops.not_bind (listedNames_not_crash _ r) fun r =>
        Stops.not_bind (listedNames_not_crash _ r) fun r => listedNames_not_crash _ r
  rw [hlists, Stops.bind_iff, or_iff_right hnone]
  refine exists_congr fun r => and_congr_right fun _ => ?_
  rw [Stops.bind_iff, or_iff_left (by rintro ⟨a, -, h⟩; exact Stops.not_ok r h), Stops.forM_iff]
  simp only [checkAccessor_eq_ok_iff, checkAccessor_crash_iff, HasNameless]

/-- The record of heuristics before its thresholds are compared. -/
def heuristicsWeights (given : Record) : Except Refusal Record := do
  let r ← Schema.heuristics.fill given
  let r ← r.listed "relationship_names"
  let r ← r.listed "eager_load_markers"
  r.checkPositive "score_line_divisor"
  weightFields.forM r.checkWeight
  pure r

/-- There is no room for comparing the render times, or else none for comparing the caps. -/
def HasDeepThreshold (room : Room) (r : Record) : Prop :=
  r.OrderTooDeep room "very_slow_render_ms" "slow_render_ms" ∨
    r.checkOrder room "very_slow_render_ms" "slow_render_ms" = .ok () ∧
      r.OrderTooDeep room "memory_limit_threshold" "pagination_threshold"

theorem heuristics_crash_iff (room : Room) (given : Record) :
    Stops Refusal.IsCrash (heuristicsWithin room given) ↔
      ∃ r, heuristicsWeights given = .ok r ∧ r.HasDeepThreshold room := by
  have hweights : heuristicsWithin room given = heuristicsWeights given >>= fun r =>
      r.checkOrder room "very_slow_render_ms" "slow_render_ms" >>= fun _ =>
        r.checkOrder room "memory_limit_threshold" "pagination_threshold" >>= fun _ =>
          r.checkEntries "relationship_names" >>= fun _ => pure r := by
    simp only [heuristicsWithin, heuristicsWeights, bind_assoc, pure_bind]
  have hnone : ¬ Stops Refusal.IsCrash (heuristicsWeights given) :=
    Stops.not_bind (fill_not_crash _ given) fun r =>
      Stops.not_bind (listed_not_crash _ r) fun r =>
        Stops.not_bind (listed_not_crash _ r) fun r =>
          Stops.not_bind (checkPositive_not_crash r _) fun _ =>
            Stops.not_bind (Stops.not_forM (checkWeight_not_crash r) _) fun _ => Stops.not_ok r
  rw [hweights, Stops.bind_iff, or_iff_right hnone]
  refine exists_congr fun r => and_congr_right fun _ => ?_
  -- behind the two comparisons there is only a check that refuses
  have hlater : ¬ Stops Refusal.IsCrash (r.checkEntries "relationship_names" >>= fun _ => pure r) :=
    Stops.not_bind (checkEntries_not_crash r _) fun _ => Stops.not_ok r
  have hcaps : Stops Refusal.IsCrash (r.checkOrder room "memory_limit_threshold"
      "pagination_threshold" >>= fun _ => r.checkEntries "relationship_names" >>= fun _ => pure r) ↔
        r.OrderTooDeep room "memory_limit_threshold" "pagination_threshold" := by
    rw [Stops.bind_iff, checkOrder_crash_iff]
    exact or_iff_left (by rintro ⟨a, -, h⟩; exact hlater h)
  rw [Stops.bind_iff, checkOrder_crash_iff, HasDeepThreshold]
  exact or_congr_right ⟨fun ⟨_, hok, h⟩ => ⟨hok, hcaps.mp h⟩, fun ⟨hok, h⟩ => ⟨(), hok, hcaps.mpr h⟩⟩

/-- The record of general settings before its suffixes are examined. -/
def generalLists (given : Record) : Except Refusal Record := do
  let r ← Schema.general.fill given
  let r ← r.listed "template_suffixes"
  let r ← r.listed "skip_dirs"
  r.checkEntries "template_suffixes"
  pure r

/-- Behind suffixes that start with a dot stands a value that is no text. -/
def HasOddSuffix (r : Record) : Prop :=
  ∃ before v after, r.listValues "template_suffixes" = before ++ v :: after ∧
    (∀ u ∈ before, ∃ suffix, u = .text suffix ∧ suffix.head? = some '.') ∧
    ∀ suffix, v ≠ .text suffix

theorem general_crash_iff (given : Record) : Stops Refusal.IsCrash (general given) ↔
    ∃ r, generalLists given = .ok r ∧ r.HasOddSuffix := by
  have hlists : general given = generalLists given >>= fun r =>
      (r.listValues "template_suffixes").forM checkSuffix >>= fun _ =>
        r.checkPositive "max_file_size_mb" >>= fun _ =>
          checkVerbosity (r.value "verbosity") >>= fun _ => pure r := by
    simp only [general, generalLists, bind_assoc, pure_bind]
  have hnone : ¬ Stops Refusal.IsCrash (generalLists given) :=
    Stops.not_bind (fill_not_crash _ given) fun r =>
      Stops.not_bind (listed_not_crash _ r) fun r =>
        Stops.not_bind (listed_not_crash _ r) fun r =>
          Stops.not_bind (checkEntries_not_crash r _) fun _ => Stops.not_ok r
  rw [hlists, Stops.bind_iff, or_iff_right hnone]
  refine exists_congr fun r => and_congr_right fun _ => ?_
  -- behind the suffixes there are only checks that refuse
  have hlater : ¬ Stops Refusal.IsCrash (r.checkPositive "max_file_size_mb" >>= fun _ =>
      checkVerbosity (r.value "verbosity") >>= fun _ => pure r) :=
    Stops.not_bind (checkPositive_not_crash r _) fun _ =>
      Stops.not_bind (checkVerbosity_not_crash _) fun _ => Stops.not_ok r
  rw [Stops.bind_iff, or_iff_left (by rintro ⟨a, -, h⟩; exact hlater h), Stops.forM_iff]
  simp only [checkSuffix_eq_ok_iff, checkSuffix_crash_iff, HasOddSuffix]

end Record

/-! ## Files -/

/-- The error is not told as one about the configuration. -/
def LoadError.IsUntold (e : LoadError) : Prop := e.isReported = false

/-- A file cannot be read as a document: its bytes are no text, an integer in it has too many digits, or
more brackets are open at once than there is room for. -/
def World.Unreadable (w : World) (path : Path) : Prop :=
  ∃ bytes, w.bytesOf path = .ok bytes ∧
    ((∃ defect, Utf8.read bytes = .error defect) ∨
      ∃ text, Utf8.read bytes = .ok text ∧
        ((∃ fault, Toml.read (w.room.brackets text) text = .error (.tooManyDigits fault)) ∨
          Toml.read (w.room.brackets text) text = .error .tooDeep))

theorem World.readConfiguration_untold_iff (w : World) (path : Path) :
    Stops LoadError.IsUntold (w.readConfiguration path) ↔ w.Unreadable path := by
  unfold readConfiguration Unreadable
  cases w.bytesOf path with
  | error fault =>
    refine iff_of_false (Stops.not_error (by rintro ⟨⟩)) ?_
    rintro ⟨bytes, h, -⟩
    cases h
  | ok bytes =>
    simp only [Except.ok.injEq, exists_eq_left']
    cases Utf8.read bytes with
    | error defect => exact iff_of_true (Stops.error_iff.mpr rfl) (Or.inl ⟨defect, rfl⟩)
    | ok text =>
      simp only [reduceCtorEq, exists_false, false_or, Except.ok.injEq, exists_eq_left']
      rw [Stops.mapError_iff]
      generalize Toml.read (w.room.brackets text) text = document
      cases document with
      | ok entries =>
        refine iff_of_false (Stops.not_ok _) ?_
        rintro (⟨fault, h⟩ | h)
        · cases h
        · cases h
      | error flaw =>
        rw [Stops.error_iff]
        cases flaw with
        | malformed =>
          refine iff_of_false (fun h => by cases h) ?_
          rintro (⟨fault, h⟩ | h)
          · cases h
          · cases h
        | tooManyDigits fault => exact iff_of_true rfl (Or.inl ⟨fault, rfl⟩)
        | tooDeep => exact iff_of_true rfl (Or.inr rfl)

/-- There is room for two brackets, and three are open at once. -/
example : (Toml.read 2 "a = [[[]]]").map (fun _ => ()) = .error .tooDeep ∧
    (Toml.read 3 "a = [[[]]]").isOk = true := by decide +kernel

/-- Going along a path never ends in a complaint about a folder: every tree is an answer. -/
theorem FileTree.follow_ne_isFolder (above : List FileTree) (tree : FileTree) (names : List Text) :
    follow above tree names ≠ .error .isFolder := by
  fun_induction follow above tree names with
  | case1 => nofun
  | case2 => nofun
  | case3 _ _ ih => exact ih
  | case4 _ _ _ _ ih => exact ih
  | case5 => nofun
  | case6 => nofun
  | case7 _ _ _ _ _ _ _ _ ih => exact ih

theorem World.find_ne_isFolder (w : World) (path : Path) : w.find path ≠ .error .isFolder := by
  unfold find
  split_ifs
  · nofun
  · nofun
  · nofun
  · exact FileTree.follow_ne_isFolder _ _ _

/-- A file that cannot be read is there. -/
theorem World.Unreadable.exists_find {w : World} {path : Path} (h : w.Unreadable path) :
    ∃ t, w.find path = .ok t := by
  obtain ⟨bytes, hbytes, -⟩ := h
  obtain ⟨t, ht, -⟩ := Answers.bind_eq_ok hbytes
  exact ⟨t, ht⟩

namespace Merged

theorem write_told (origin : Text) (m : Merged) (entry : Text × Value) :
    ¬ Stops LoadError.IsUntold (write origin m entry) := by
  have hentries : ∀ name v, ¬ Stops LoadError.IsUntold (entriesOf name origin v) := by
    intro name v
    rw [entriesOf.eq_def]
    split
    · exact Stops.not_ok _
    · exact Stops.not_error (by rintro ⟨⟩)
  rw [write]
  split
  · exact Stops.map_iff.not.mpr (hentries _ _)
  · split
    · exact Stops.map_iff.not.mpr (hentries _ _)
    · exact Stops.not_ok _

theorem add_told (m : Merged) (origin : Text) (source : Record) :
    ¬ Stops LoadError.IsUntold (m.add origin source) :=
  Stops.not_foldlM (write_told origin) source m

end Merged

theorem World.variables_told (w : World) : ¬ Stops LoadError.IsUntold w.variables := by
  have hread : ∀ (start : Text) (s : Schema), ¬ Stops LoadError.IsUntold
      ((Schema.readVariables w.environment start s.fields).mapError
        fun e => LoadError.badVariable e.1 e.2) := by
    intro start s h
    obtain ⟨e, -, he⟩ := Stops.mapError_iff.mp h
    cases he
  exact Stops.not_bind (hread _ _) fun _ => Stops.not_bind (hread _ _) fun _ =>
    Stops.not_bind (hread _ _) fun _ => Stops.not_ok _

/-! ## Loading -/

namespace Configuration

variable {w : World} {path : Path} {m : Merged}

/-- The system does not tell whether a file is there: a name on the path is too long, or the run may not
look for it. -/
def IsHidden (w : World) (path : Path) : Prop :=
  w.find path = .error .nameTooLong ∨ w.find path = .error .denied

/-- A file stands in the way: the system does not tell whether it is there, or it cannot be read as a
document. -/
def IsBarred (w : World) (path : Path) : Prop := IsHidden w path ∨ w.Unreadable path

theorem isThere_untold_iff : Stops LoadError.IsUntold (w.isThere path) ↔ IsHidden w path := by
  unfold World.isThere IsHidden
  cases hfind : w.find path with
  | ok tree => exact iff_of_false (Stops.not_ok true) (by rintro (h | h) <;> cases h)
  | error fault =>
    cases fault with
    | missing => exact iff_of_false (Stops.not_ok false) (by rintro (h | h) <;> cases h)
    | underFile => exact iff_of_false (Stops.not_ok false) (by rintro (h | h) <;> cases h)
    | isFolder => exact absurd hfind (World.find_ne_isFolder w path)
    | nameTooLong => exact iff_of_true (Stops.error_iff.mpr rfl) (Or.inl rfl)
    | denied => exact iff_of_true (Stops.error_iff.mpr rfl) (Or.inr rfl)

/-- The run may not look into the folder of another user. -/
example : IsHidden ⟨.empty, .ofText "/", none, [], .usual, fun path => path = .ofText "/root/a"⟩
    (.ofText "/root/a") := Or.inr rfl

/-- A file that is found is there. -/
theorem isThere_of_unreadable (h : w.Unreadable path) : w.isThere path = .ok true := by
  obtain ⟨tree, htree⟩ := h.exists_find
  rw [World.isThere, htree]

/-- What looks for a file and then reads it stops at a file that stands in the way, if what it does
without a file never stops so. -/
theorem addFile_untold_iff {origin : Text} {otherwise : Except LoadError Merged}
    (hotherwise : ¬ Stops LoadError.IsUntold otherwise) :
    Stops LoadError.IsUntold (w.isThere path >>= fun there =>
      if there = true then w.readConfiguration path >>= fun source => m.add origin source
      else otherwise) ↔ IsBarred w path := by
  have hread : Stops LoadError.IsUntold
      (w.readConfiguration path >>= fun source => m.add origin source) ↔ w.Unreadable path := by
    rw [Stops.bind_iff, World.readConfiguration_untold_iff]
    refine or_iff_left ?_
    rintro ⟨source, -, h⟩
    exact Merged.add_told m origin source h
  rw [Stops.bind_iff, isThere_untold_iff, IsBarred]
  refine or_congr_right ?_
  constructor
  · rintro ⟨there, -, h⟩
    cases there with
    | true => exact hread.mp h
    | false => exact absurd h hotherwise
  · intro h
    exact ⟨true, isThere_of_unreadable h, hread.mpr h⟩

theorem addIfThere_untold_iff : Stops LoadError.IsUntold (addIfThere w path m) ↔ IsBarred w path :=
  addFile_untold_iff (Stops.not_ok m)

theorem addRequired_untold_iff :
    Stops LoadError.IsUntold (addRequired w path m) ↔ IsBarred w path :=
  addFile_untold_iff (Stops.not_error (by rintro ⟨⟩))

theorem homePath_untold_iff :
    Stops LoadError.IsUntold (homePath w) ↔ w.homeFolder? = none := by
  rw [homePath]
  cases w.homeFolder? with
  | some folder => exact iff_of_false (Stops.not_ok _) (fun h => by cases h)
  | none => exact iff_of_true (Stops.error_iff.mpr rfl) rfl

/-- The variable counts before the account, and a tilde in it leads nowhere. -/
example : homePath ⟨.empty, .ofText "/", some (.ofText "/home"), [("HOME", "~guest")], .usual,
    fun _ => false⟩ = .error .homeless := rfl

/-- What is known after the file in the user's own folder. -/
def afterHome (w : World) : Except LoadError Merged :=
  homePath w >>= fun path => addIfThere w path .empty

/-- What is known after the file in the working folder. -/
def afterProject (w : World) : Except LoadError Merged :=
  afterHome w >>= addIfThere w (projectPath w)

/-- What is known after the file that was asked for, if there is one. -/
def afterAsked (w : World) (file : Option Path) : Except LoadError Merged :=
  afterProject w >>= fun m =>
    match file with
    | some path => addRequired w path m
    | none => pure m

/-- Something other than an error about the configuration comes out of loading.  The first thing in the
way is a user without a folder, a file whose path has a name that is too long or that cannot be read as a
document, a value in a list of names that cannot be examined as a name, or a threshold whose values
lie too deep within each other to be compared. -/
inductive Escapes (w : World) (file : Option Path) (overrides : Record) : Prop
  | homeless (hfolder : w.homeFolder? = none)
  | home {path : Path} (hpath : homePath w = .ok path) (hbarred : IsBarred w path)
  | project {m : Merged} (hbefore : afterHome w = .ok m) (hbarred : IsBarred w (projectPath w))
  | asked {m : Merged} {path : Path} (hbefore : afterProject w = .ok m) (hfile : file = some path)
      (hbarred : IsBarred w path)
  | accessor {m : Merged} {r : Record} (hbefore : merged w file overrides = .ok m)
      (hlists : Record.policyLists m.policy = .ok r) (hvalue : r.HasNameless)
  | threshold {m : Merged} {policy r : Record} (hbefore : merged w file overrides = .ok m)
      (hpolicy : Record.policy m.policy = .ok policy)
      (hweights : Record.heuristicsWeights m.heuristics = .ok r) (hvalue : r.HasDeepThreshold w.room)
  | suffix {m : Merged} {policy heuristics r : Record} (hbefore : merged w file overrides = .ok m)
      (hpolicy : Record.policy m.policy = .ok policy)
      (hheuristics : Record.heuristicsWithin w.room m.heuristics = .ok heuristics)
      (hlists : Record.generalLists m.general = .ok r) (hvalue : r.HasOddSuffix)

theorem afterHome_untold_iff (w : World) : Stops LoadError.IsUntold (afterHome w) ↔
    w.homeFolder? = none ∨ ∃ path, homePath w = .ok path ∧ IsBarred w path := by
  simp only [afterHome, Stops.bind_iff, homePath_untold_iff, addIfThere_untold_iff]

theorem afterProject_untold_iff (w : World) : Stops LoadError.IsUntold (afterProject w) ↔
    Stops LoadError.IsUntold (afterHome w) ∨
      ∃ m, afterHome w = .ok m ∧ IsBarred w (projectPath w) := by
  simp only [afterProject, Stops.bind_iff, addIfThere_untold_iff]

theorem afterAsked_untold_iff (w : World) (file : Option Path) :
    Stops LoadError.IsUntold (afterAsked w file) ↔ Stops LoadError.IsUntold (afterProject w) ∨
      ∃ m, afterProject w = .ok m ∧ ∃ path, file = some path ∧ IsBarred w path := by
  rw [afterAsked, Stops.bind_iff]
  refine or_congr_right (exists_congr fun m => and_congr_right fun _ => ?_)
  cases file with
  | none =>
    refine iff_of_false (Stops.not_ok m) ?_
    rintro ⟨path, h, -⟩
    cases h
  | some path =>
    simp only [Option.some.injEq, exists_eq_left']
    exact addRequired_untold_iff

/-- Merging ends in an error that is not told at one of the three files. -/
theorem merged_untold_iff (w : World) (file : Option Path) (overrides : Record) :
    Stops LoadError.IsUntold (merged w file overrides) ↔
      Stops LoadError.IsUntold (afterAsked w file) := by
  have hsteps : merged w file overrides = afterAsked w file >>= fun m =>
      w.variables >>= fun source => m.add "environment" source >>= fun m =>
        m.add "overrides" (settleSwitch "quiet" (settleSwitch "verbose" overrides)) := by
    simp only [merged, afterAsked, afterProject, afterHome, bind_assoc]
    cases file with
    | none => rfl
    | some path => rfl
  rw [hsteps, Stops.bind_iff]
  refine or_iff_left ?_
  rintro ⟨m, -, h⟩
  exact Stops.not_bind (World.variables_told w) (fun source =>
    Stops.not_bind (Merged.add_told m _ source) fun m => Merged.add_told m _ _) h

theorem ofGiven_crash_iff (m : Merged) (room : Room) :
    Stops Refusal.IsCrash (ofGiven m.policy m.heuristics m.general room) ↔
      (∃ r, Record.policyLists m.policy = .ok r ∧ r.HasNameless) ∨
      ∃ policy, Record.policy m.policy = .ok policy ∧
        ((∃ r, Record.heuristicsWeights m.heuristics = .ok r ∧ r.HasDeepThreshold room) ∨
          ∃ heuristics, Record.heuristicsWithin room m.heuristics = .ok heuristics ∧
            ∃ r, Record.generalLists m.general = .ok r ∧ r.HasOddSuffix) := by
  rw [ofGiven, Stops.bind_iff, Record.policy_crash_iff]
  refine or_congr_right (exists_congr fun policy => and_congr_right fun _ => ?_)
  rw [Stops.bind_iff, Record.heuristics_crash_iff]
  refine or_congr_right (exists_congr fun heuristics => and_congr_right fun _ => ?_)
  rw [Stops.bind_iff, Record.general_crash_iff]
  refine or_iff_left ?_
  rintro ⟨general, -, h⟩
  exact Stops.not_ok _ h

theorem invalid_untold_iff {r : Refusal} : (LoadError.invalid r).IsUntold ↔ r.IsCrash := by
  simp [LoadError.IsUntold, LoadError.isReported, Refusal.IsCrash]

/-- Loading ends in an error that is not told where something escapes. -/
theorem load_untold_iff (w : World) (file : Option Path) (overrides : Record) :
    Stops LoadError.IsUntold (load w file overrides none none) ↔ Escapes w file overrides := by
  have hload : load w file overrides none none = merged w file overrides >>= fun m =>
      (ofGiven m.policy m.heuristics m.general w.room).mapError .invalid := rfl
  rw [hload, Stops.bind_iff]
  simp only [Stops.mapError_iff, invalid_untold_iff, ofGiven_crash_iff, merged_untold_iff,
    afterAsked_untold_iff, afterProject_untold_iff, afterHome_untold_iff]
  constructor
  · rintro (((((hfolder | ⟨path, hpath, hbarred⟩) | ⟨m, hbefore, hbarred⟩) |
      ⟨m, hbefore, path, hfile, hbarred⟩)) | ⟨m, hbefore, ⟨r, hlists, hvalue⟩ | ⟨policy, hpolicy,
        ⟨r, hweights, hvalue⟩ | ⟨heuristics, hheuristics, r, hlists, hvalue⟩⟩⟩)
    · exact .homeless hfolder
    · exact .home hpath hbarred
    · exact .project hbefore hbarred
    · exact .asked hbefore hfile hbarred
    · exact .accessor hbefore hlists hvalue
    · exact .threshold hbefore hpolicy hweights hvalue
    · exact .suffix hbefore hpolicy hheuristics hlists hvalue
  · intro h
    cases h with
    | homeless hfolder => exact Or.inl (Or.inl (Or.inl (Or.inl hfolder)))
    | home hpath hbarred => exact Or.inl (Or.inl (Or.inl (Or.inr ⟨_, hpath, hbarred⟩)))
    | project hbefore hbarred => exact Or.inl (Or.inl (Or.inr ⟨_, hbefore, hbarred⟩))
    | asked hbefore hfile hbarred => exact Or.inl (Or.inr ⟨_, hbefore, _, hfile, hbarred⟩)
    | accessor hbefore hlists hvalue => exact Or.inr ⟨_, hbefore, Or.inl ⟨_, hlists, hvalue⟩⟩
    | threshold hbefore hpolicy hweights hvalue =>
      exact Or.inr ⟨_, hbefore, Or.inr ⟨_, hpolicy, Or.inl ⟨_, hweights, hvalue⟩⟩⟩
    | suffix hbefore hpolicy hheuristics hlists hvalue =>
      exact Or.inr ⟨_, hbefore,
        Or.inr ⟨_, hpolicy, Or.inr ⟨_, hheuristics, _, hlists, hvalue⟩⟩⟩

/-- **A configuration is accepted or the error is told.**  Whatever the files, the environment and the
overrides say, loading gives a configuration whose three records have passed every check, or an error
about the configuration, if and only if nothing escapes. -/
theorem load_accepted_or_reported_iff (w : World) (file : Option Path) (overrides : Record) :
    ((∃ c, load w file overrides none none = .ok c ∧ c.IsAccepted) ∨
      ∃ e, load w file overrides none none = .error e ∧ e.isReported = true) ↔
    ¬ Escapes w file overrides := by
  rw [← load_untold_iff]
  cases hload : load w file overrides none none with
  | ok c => exact iff_of_true (Or.inl ⟨c, rfl, load_isAccepted hload⟩) (Stops.not_ok c)
  | error e =>
    rw [Stops.error_iff, LoadError.IsUntold, Bool.not_eq_false]
    simp only [reduceCtorEq, false_and, exists_false, false_or, Except.error.injEq, exists_eq_left']

/-- A world whose project file forbids a number as an accessor. -/
def numberedWorld : World where
  tree := .folder [("work", .folder [
    ("viewlint.toml", .file ("[policy]\nforbidden_accessors = [1]\n".toUTF8).toList)])]
  here := .ofText "/work"
  home := some (.ofText "/home")
  environment := []

theorem load_untold_of_numbered :
    ∃ e, load numberedWorld none [] none none = .error e ∧ e.isReported = false ∧
      e.message = "'int' object has no attribute 'replace'" ∧ Escapes numberedWorld none [] := by
  let crash : LoadError := .invalid (.notAName "int" "replace")
  have herror : (load numberedWorld none [] none none).map (fun _ => ()) = .error crash := by
    decide +kernel
  cases hload : load numberedWorld none [] none none with
  | ok c =>
    rw [hload] at herror
    cases herror
  | error e =>
    rw [hload] at herror
    obtain rfl := Except.error.inj herror
    refine ⟨crash, rfl, by decide, by decide +kernel, (load_untold_iff _ _ _).mp ?_⟩
    rw [hload]
    exact Stops.error_iff.mpr rfl

end Configuration

end TemplateLint
