import TemplateLint.Proofs.Rule.Located

/-!
# Choosing more rules

The findings about a document are a walk over its lines and then over the document rules, so a relation
between lists of findings that survives appending only has to be shown rule by rule
(`flatMap_of_append`, `Linter.lineFindings_of_append`).  Two such relations matter.  Strict mode keeps
every finding, keeps the errors exactly, and puts warnings between them (`AddsWarnings`,
`Linter.lint_strict_adds_warnings`).  A tighter policy keeps every finding
(`Policy.TightenedBy`, `Linter.findings_sublist_of_tightenedBy`).
-/
namespace TemplateLint

section Append

variable {R : List Finding → List Finding → Prop}

/-- What survives appending survives joining the lists that a function gives. -/
theorem flatMap_of_append {α : Type} (hnil : R [] [])
    (happend : ∀ {a b c d}, R a b → R c d → R (a ++ c) (b ++ d)) {f g : α → List Finding}
    {l : List α} (h : ∀ a ∈ l, R (f a) (g a)) : R (l.flatMap f) (l.flatMap g) := by
  induction l with
  | nil => exact hnil
  | cons a l ih =>
    rw [List.flatMap_cons, List.flatMap_cons]
    apply happend
    · exact h a List.mem_cons_self
    · exact ih fun b hb => h b (List.mem_cons_of_mem a hb)

/-- What survives appending and holds in every line holds of all lines. -/
theorem Linter.lineFindings_of_append (hnil : R [] [])
    (happend : ∀ {a b c d}, R a b → R c d → R (a ++ c) (b ++ d)) {rules rules' : List LineRule}
    (h : ∀ number line, R (rules.flatMap (·.findingsIn number line))
      (rules'.flatMap (·.findingsIn number line)))
    (number : Nat) (lines : List Text) :
    R (lineFindings rules number lines) (lineFindings rules' number lines) := by
  induction lines generalizing number with
  | nil => exact hnil
  | cons line lines ih => exact happend (h number line) (ih (number + 1))

end Append

/-- The rules that are chosen from a list contribute what each chosen one does. -/
theorem flatMap_filter_eq {α β : Type} (p : α → Bool) (f : α → List β) (l : List α) :
    (l.filter p).flatMap f = l.flatMap fun a => if p a then f a else [] := by
  induction l with
  | nil => rfl
  | cons a l ih =>
    rw [List.flatMap_cons, ← ih]
    cases h : p a with
    | false => rw [List.filter_cons_of_neg (by simp [h])]; rfl
    | true => rw [List.filter_cons_of_pos h]; rfl

/-- Elements at which a search finds nothing may be left out. -/
theorem findSome?_filter_eq {α β : Type} {p q : α → Bool} {f : α → Option β} {l : List α}
    (hpq : ∀ a, p a = true → q a = true) (h : ∀ a, q a = true → p a = false → f a = none) :
    (l.filter q).findSome? f = (l.filter p).findSome? f := by
  induction l with
  | nil => rfl
  | cons a l ih =>
    cases hq : q a with
    | false =>
      have hp : p a = false := by
        cases hp : p a with
        | false => rfl
        | true => rw [hpq a hp] at hq; cases hq
      rw [List.filter_cons_of_neg (by simp [hq]), List.filter_cons_of_neg (by simp [hp]), ih]
    | true =>
      rw [List.filter_cons_of_pos hq, List.findSome?_cons]
      cases hp : p a with
      | false => rw [h a hq hp, List.filter_cons_of_neg (by simp [hp])]; exact ih
      | true => rw [List.filter_cons_of_pos hp, List.findSome?_cons, ih]

/-! ## Strict mode -/

/-- One list of findings has those of another in their order, the same errors, and warnings between
them. -/
structure AddsWarnings (fewer more : List Finding) : Prop where
  sublist : fewer.Sublist more
  errors : more.filter (·.isError) = fewer.filter (·.isError)

namespace AddsWarnings

theorem refl (found : List Finding) : AddsWarnings found found :=
  ⟨List.Sublist.refl found, rfl⟩

theorem append {a b c d : List Finding} (h : AddsWarnings a b) (h' : AddsWarnings c d) :
    AddsWarnings (a ++ c) (b ++ d) := by
  refine ⟨h.sublist.append h'.sublist, ?_⟩
  rw [List.filter_append, List.filter_append, h.errors, h'.errors]

/-- Warnings may be added to nothing. -/
theorem of_warnings {more : List Finding} (h : ∀ f ∈ more, f.isError = false) :
    AddsWarnings [] more := by
  refine ⟨List.nil_sublist more, ?_⟩
  rw [List.filter_nil, List.filter_eq_nil_iff]
  intro f hf
  simp [h f hf]

/-- Warnings may be added behind other findings. -/
theorem append_warnings (found : List Finding) {extra : List Finding}
    (h : ∀ f ∈ extra, f.isError = false) : AddsWarnings found (found ++ extra) := by
  have happend := (refl found).append (of_warnings h)
  rwa [List.append_nil] at happend

end AddsWarnings

/-- The line rules of strict mode only warn. -/
theorem MarkupRules.strict_isError {r : LineRule} (hr : r ∈ strict) {number : Nat} {line : Text}
    {f : Finding} (hf : f ∈ r.findingsIn number line) : f.isError = false := by
  have hseverity : ∀ r ∈ strict, r.severity = .warning := by decide
  obtain ⟨m, -, rfl⟩ := List.mem_map.mp hf
  unfold Finding.isError LineRule.findingOf
  rw [hseverity r hr]
  rfl

/-- The line rules of strict mode come behind the others. -/
theorem RuleSet.lineRules_strict (policy : Policy) (dialect : Dialect) :
    (select policy dialect true).lineRules =
      (select policy dialect false).lineRules ++
        MarkupRules.strict.filter fun r => dialect ∈ r.dialects := by
  simp [select, List.filter_append]

namespace TagRules

variable {ctx : RuleContext} {t : Tag} {f : Finding}

theorem unknownModifier_isError (hf : f ∈ unknownModifier ctx t) : f.isError = false := by
  obtain ⟨modifier, -, rfl⟩ := List.mem_map.mp hf
  rfl

theorem glideParams_isError (hf : f ∈ glideParams ctx t) : f.isError = false := by
  unfold glideParams at hf
  split at hf
  · obtain rfl := List.mem_singleton.mp hf
    rfl
  · cases hf

theorem unknownField_isError {name : Text} (hf : f ∈ unknownField ctx t name) :
    f.isError = false := by
  unfold unknownField at hf
  split at hf
  · obtain rfl := List.mem_singleton.mp hf
    rfl
  · cases hf

theorem typedField_isError {name type : Text} (hf : f ∈ typedField ctx t name type) :
    f.isError = false := by
  unfold typedField at hf
  split_ifs at hf
  · obtain rfl := List.mem_singleton.mp hf
    rfl
  · obtain rfl := List.mem_singleton.mp hf
    rfl
  · obtain rfl := List.mem_singleton.mp hf
    rfl
  · obtain rfl := List.mem_singleton.mp hf
    rfl
  · cases hf

/-- The one thing that is wrong with the use of a typed field outside strict mode is told in strict
mode as well: no earlier test of strict mode applies to a type of relationship. -/
theorem typedField_addsWarnings (ctx : RuleContext) (t : Tag) (name type : Text) :
    AddsWarnings (typedField { ctx with strict := false } t name type)
      (typedField { ctx with strict := true } t name type) := by
  have hdate : String.toList "date" ∉ relationshipTypes := by decide
  by_cases hunclosed : type ∈ relationshipTypes ∧ t.modifiers = [] ∧
      !hasCloser (ctx.text.drop t.stop) name
  · have hne : type ≠ String.toList "date" := by
      rintro rfl
      exact hdate hunclosed.1
    have hsame : typedField { ctx with strict := true } t name type =
        typedField { ctx with strict := false } t name type := by
      unfold typedField
      rw [if_neg (fun h => hne h.1), if_pos hunclosed, if_neg (fun h => hne h.1), if_pos hunclosed]
      rfl
    rw [hsame]
    exact AddsWarnings.refl _
  · have hnone : typedField { ctx with strict := false } t name type = [] := by
      unfold typedField
      rw [if_neg (by simp), if_neg hunclosed, if_neg (by simp), if_neg (by simp)]
    rw [hnone]
    exact AddsWarnings.of_warnings fun f hf => typedField_isError hf

theorem fieldUse_addsWarnings (ctx : RuleContext) (t : Tag) :
    AddsWarnings (fieldUse { ctx with strict := false } t)
      (fieldUse { ctx with strict := true } t) := by
  have hused : usedType? { ctx with strict := false } t = usedType? { ctx with strict := true } t :=
    rfl
  unfold fieldUse
  rw [hused]
  cases (usedType? { ctx with strict := true } t).bind Value.toText? with
  | none => exact AddsWarnings.refl []
  | some type =>
    by_cases htype : type = String.toList "unknown"
    · have hnone : unknownField { ctx with strict := false } t (fieldName t) = [] := rfl
      simp only [htype, if_true, hnone]
      exact AddsWarnings.of_warnings fun f hf => unknownField_isError hf
    · simp only [htype, if_false]
      exact typedField_addsWarnings ctx t (fieldName t) type

end TagRules

namespace DocumentRule

/-- A rule that also runs outside strict mode adds warnings in it. -/
theorem check_addsWarnings (rule : DocumentRule) (ctx : RuleContext) :
    AddsWarnings (rule.check { ctx with strict := false }) (rule.check { ctx with strict := true }) := by
  cases rule with
  | fieldUsage =>
    exact flatMap_of_append (AddsWarnings.refl []) AddsWarnings.append fun t _ =>
      TagRules.fieldUse_addsWarnings ctx t
  | _ => exact AddsWarnings.refl _

/-- A rule that runs in strict mode only gives no errors. -/
theorem check_isError {rule : DocumentRule} (hrule : rule.strictOnly = true) {ctx : RuleContext}
    {f : Finding} (hf : f ∈ rule.check ctx) : f.isError = false := by
  cases rule with
  | glideParams =>
    obtain ⟨t, -, hf⟩ := List.mem_flatMap.mp hf
    exact TagRules.glideParams_isError hf
  | unknownModifier =>
    obtain ⟨t, -, hf⟩ := List.mem_flatMap.mp hf
    exact TagRules.unknownModifier_isError hf
  | _ => cases hrule

/-- Whether a rule can be checked does not depend on strict mode. -/
theorem fault?_strict (rule : DocumentRule) (ctx : RuleContext) (strict : Bool) :
    rule.fault? { ctx with strict := strict } = rule.fault? ctx := by
  cases rule <;> rfl

end DocumentRule

namespace Linter

/-- Strict mode keeps what a linter reports and adds warnings. -/
theorem check_addsWarnings (policy : Policy) (heuristics : Heuristics) (text : Text)
    (dialect : Dialect) (fields : Entries Value) :
    AddsWarnings ((Linter.mk policy heuristics false).check text dialect fields)
      ((Linter.mk policy heuristics true).check text dialect fields) := by
  unfold check
  apply AddsWarnings.append
  · -- in every line the strict rules come last
    apply lineFindings_of_append (AddsWarnings.refl []) AddsWarnings.append
    intro number line
    rw [rules, rules, RuleSet.lineRules_strict, List.flatMap_append]
    apply AddsWarnings.append_warnings
    intro f hf
    obtain ⟨r, hr, hf⟩ := List.mem_flatMap.mp hf
    exact MarkupRules.strict_isError (List.mem_filter.mp hr).1 hf
  · rw [rules, rules, RuleSet.select, RuleSet.select, flatMap_filter_eq, flatMap_filter_eq]
    apply flatMap_of_append (AddsWarnings.refl []) AddsWarnings.append
    intro rule _
    by_cases hdialect : dialect ∈ rule.dialects
    · cases hstrict : rule.strictOnly with
      | false =>
        have hboth : AddsWarnings
            (rule.check ((Linter.mk policy heuristics false).context text dialect fields))
            (rule.check ((Linter.mk policy heuristics true).context text dialect fields)) :=
          rule.check_addsWarnings ((Linter.mk policy heuristics false).context text dialect fields)
        simpa [hdialect, hstrict] using hboth
      | true =>
        simpa [hdialect, hstrict] using
          AddsWarnings.of_warnings fun f hf => DocumentRule.check_isError hstrict hf
    · simpa [hdialect] using AddsWarnings.refl []

/-- The rules of strict mode can be checked under a policy that may be used, so strict mode has no
fault of its own. -/
theorem fault?_strict {policy : Policy} (hpolicy : policy.accepted = true) (heuristics : Heuristics)
    (text : Text) (dialect : Dialect) (fields : Entries Value) :
    (Linter.mk policy heuristics true).fault? text dialect fields =
      (Linter.mk policy heuristics false).fault? text dialect fields := by
  unfold fault? rules RuleSet.select
  have hcontext : ∀ rule : DocumentRule,
      rule.fault? ((Linter.mk policy heuristics true).context text dialect fields) =
        rule.fault? ((Linter.mk policy heuristics false).context text dialect fields) := fun rule =>
    rule.fault?_strict ((Linter.mk policy heuristics false).context text dialect fields) true
  simp only [hcontext]
  apply findSome?_filter_eq
  · intro rule h
    simp only [Bool.false_eq_true, false_or, true_or, and_true, decide_eq_true_eq] at h ⊢
    exact h.1
  · intro rule hruns hnot
    have honly : rule.strictOnly = true := by simp_all
    cases rule with
    | glideParams => rfl
    | unknownModifier =>
      simp only [Policy.accepted, Bool.and_eq_true] at hpolicy
      unfold DocumentRule.fault? TagRules.modifierFault? TagRules.overTagsFault?
      exact if_pos hpolicy.2
    | _ => cases honly

/-- If a policy and heuristics may be used, only the type of a field can be the reason why nothing is
reported. -/
theorem fields_of_fault? (l : Linter) (hpolicy : l.policy.accepted = true)
    (hheuristics : l.heuristics.accepted = true) {text : Text} {dialect : Dialect}
    {fields : Entries Value} {fault : Fault} (h : l.fault? text dialect fields = some fault) :
    fields.all (·.2.isText) = false := by
  cases hfields : fields.all (·.2.isText) with
  | false => rfl
  | true =>
    rw [fault?_eq_none hpolicy hheuristics text dialect hfields] at h
    cases h

/-- A linter with a fault gives no findings. -/
theorem lint_of_fault {l : Linter} {text : Text} {dialect : Dialect} {fields : Entries Value}
    {fault : Fault} (h : l.fault? text dialect fields = some fault) :
    l.lint text dialect fields = .error fault := by
  unfold lint findings
  rw [h]
  rfl

/-- A linter without a fault gives the findings of its rules, the errors apart from the others. -/
theorem lint_of_no_fault {l : Linter} {text : Text} {dialect : Dialect} {fields : Entries Value}
    (h : l.fault? text dialect fields = none) :
    l.lint text dialect fields =
      .ok { dialect := dialect
            linesAnalyzed := text.lineCount
            violations := (l.check text dialect fields).filter (·.isError)
            warnings := (l.check text dialect fields).filter (!·.isError) } := by
  unfold lint findings
  rw [h]
  rfl

/-- **Strict mode only adds warnings.**  The violations are the same, so a document passes in strict
mode if it passes outside, and the warnings outside strict mode are among those of strict mode in their
order.  Both modes give an answer, unless the type of a field is no text; then both have one fault. -/
theorem lint_strict_adds_warnings (policy : Policy) (hpolicy : policy.accepted = true)
    (heuristics : Heuristics) (hheuristics : heuristics.accepted = true) (text : Text)
    (dialect : Dialect) (fields : Entries Value) :
    match (Linter.mk policy heuristics false).lint text dialect fields,
      (Linter.mk policy heuristics true).lint text dialect fields with
    | .ok relaxed, .ok strict =>
      strict.violations = relaxed.violations ∧ strict.ok = relaxed.ok ∧
        relaxed.warnings.Sublist strict.warnings
    | .error fault, .error fault' => fault = fault' ∧ fields.all (·.2.isText) = false
    | _, _ => False := by
  have hadds := check_addsWarnings policy heuristics text dialect fields
  have hsame := fault?_strict hpolicy heuristics text dialect fields
  cases hfault : (Linter.mk policy heuristics false).fault? text dialect fields with
  | some fault =>
    have hstrict := hsame.trans hfault
    rw [lint_of_fault hfault, lint_of_fault hstrict]
    exact ⟨rfl, fields_of_fault? ⟨policy, heuristics, false⟩ hpolicy hheuristics hfault⟩
  | none =>
    have hstrict := hsame.trans hfault
    rw [lint_of_no_fault hfault, lint_of_no_fault hstrict]
    dsimp only [LintFindings.ok]
    refine ⟨hadds.errors, ?_, hadds.sublist.filter _⟩
    rw [hadds.errors]

end Linter

/-- A date, an asset and a name that is no field are told in strict mode only. -/
theorem Linter.lint_strict_adds_warnings_default :
    let text : Text := "\x7b\x7b posted \x7d\x7d\x7b\x7b hero | x \x7d\x7d\x7b\x7b if \x7d\x7d"
    let fields : Entries Value := [("posted", .text "date"), ("hero", .text "assets")]
    match (Linter.mk Policy.default Heuristics.default false).lint text .antlers fields,
      (Linter.mk Policy.default Heuristics.default true).lint text .antlers fields with
    | .ok relaxed, .ok strict =>
      strict.violations = relaxed.violations ∧ strict.ok = relaxed.ok ∧
        relaxed.warnings.Sublist strict.warnings
    | .error fault, .error fault' => fault = fault' ∧ fields.all (·.2.isText) = false
    | _, _ => False := by
  intro text fields
  exact lint_strict_adds_warnings Policy.default (by decide +kernel) Heuristics.default
    (by decide +kernel) text .antlers fields

/-! ## Tighter policies -/

/-- A policy forbids what another one forbids, and maybe more; both know the same names. -/
structure Policy.TightenedBy (p q : Policy) : Prop where
  forbiddenAccessors : p.forbiddenAccessors.Sublist q.forbiddenAccessors
  forbidInlineCode : p.forbidInlineCode = true → q.forbidInlineCode = true
  forbidModelsInView : p.forbidModelsInView = true → q.forbidModelsInView = true
  preferTags : p.preferTags = true → q.preferTags = true
  preferComponents : p.preferComponents = true → q.preferComponents = true
  checkAccessibility : p.checkAccessibility = true → q.checkAccessibility = true
  knownNamespaces : q.knownNamespaces = p.knownNamespaces
  knownModifiers : q.knownModifiers = p.knownModifiers

namespace PolicyRules

/-- What the rules for a dialect report about a line. -/
def reportIn (dialect : Dialect) (number : Nat) (line : Text) (rules : List LineRule) : List Finding :=
  (rules.filter fun r => dialect ∈ r.dialects).flatMap (·.findingsIn number line)

variable (dialect : Dialect) (number : Nat) (line : Text)

theorem reportIn_append (rules rules' : List LineRule) :
    reportIn dialect number line (rules ++ rules') =
      reportIn dialect number line rules ++ reportIn dialect number line rules' := by
  rw [reportIn, List.filter_append, List.flatMap_append, reportIn, reportIn]

/-- A rule that a flag asks for is also asked for by a flag that is set as well. -/
theorem reportIn_onlyIf_sublist {flag flag' : Bool} (h : flag = true → flag' = true)
    (rule : LineRule) :
    (reportIn dialect number line (onlyIf flag rule)).Sublist
      (reportIn dialect number line (onlyIf flag' rule)) := by
  cases flag with
  | false => exact List.nil_sublist _
  | true =>
    rw [h rfl]

/-- Each accessor has a group of its own, so more accessors find what fewer do. -/
theorem findingsIn_facadeCall_sublist {names names' : List Text} (h : names.Sublist names') :
    ((facadeCall names).findingsIn number line).Sublist
      ((facadeCall names').findingsIn number line) := by
  have hmatches : ((facadeCall names).matchesIn line).Sublist
      ((facadeCall names').matchesIn line) :=
    (h.map accessorGroup).filterMap _
  exact hmatches.map _

theorem reportIn_facadeCall_sublist {names names' : List Text} (h : names.Sublist names') :
    (reportIn dialect number line (onlyIf (!names.isEmpty) (facadeCall names))).Sublist
      (reportIn dialect number line (onlyIf (!names'.isEmpty) (facadeCall names'))) := by
  cases hempty : names.isEmpty with
  | true => exact List.nil_sublist _
  | false =>
    have hempty' : names'.isEmpty = false := by
      cases names' with
      | nil =>
        rw [List.sublist_nil.mp h] at hempty
        cases hempty
      | cons name names' => rfl
    rw [hempty']
    have hone := findingsIn_facadeCall_sublist number line h
    cases dialect with
    | blade => exact hone.append (List.Sublist.refl [])
    | antlers => exact List.nil_sublist _
    | unknown => exact List.nil_sublist _

/-- The rules of a tighter policy find in a line what those of the other policy do. -/
theorem reportIn_ofPolicy_sublist {p q : Policy} (h : p.TightenedBy q) :
    (reportIn dialect number line (ofPolicy p)).Sublist
      (reportIn dialect number line (ofPolicy q)) := by
  unfold ofPolicy
  simp only [reportIn_append]
  apply List.Sublist.append
  · apply List.Sublist.append
    · apply List.Sublist.append
      · apply List.Sublist.append
        · apply List.Sublist.append
          · exact reportIn_onlyIf_sublist dialect number line h.forbidInlineCode inlinePhp
          · exact reportIn_facadeCall_sublist dialect number line h.forbiddenAccessors
        · exact reportIn_onlyIf_sublist dialect number line h.forbidModelsInView modelsInView
      · exact List.Sublist.refl _
    · exact reportIn_onlyIf_sublist dialect number line h.preferTags preferStatamicTags
  · exact reportIn_onlyIf_sublist dialect number line h.preferComponents suggestComponent

end PolicyRules

/-- The line rules that a tighter policy selects find in a line what those of the other policy do. -/
theorem RuleSet.findingsIn_sublist {p q : Policy} (h : p.TightenedBy q) (dialect : Dialect)
    (strict : Bool) (number : Nat) (line : Text) :
    ((select p dialect strict).lineRules.flatMap (·.findingsIn number line)).Sublist
      ((select q dialect strict).lineRules.flatMap (·.findingsIn number line)) := by
  have haccess : (PolicyRules.reportIn dialect number line
        (if p.checkAccessibility then MarkupRules.accessibility else [])).Sublist
      (PolicyRules.reportIn dialect number line
        (if q.checkAccessibility then MarkupRules.accessibility else [])) := by
    cases hp : p.checkAccessibility with
    | false => exact List.nil_sublist _
    | true =>
      rw [h.checkAccessibility hp]
  show (PolicyRules.reportIn dialect number line (_ ++ _ ++ _ ++ _)).Sublist
    (PolicyRules.reportIn dialect number line (_ ++ _ ++ _ ++ _))
  simp only [PolicyRules.reportIn_append]
  apply List.Sublist.append
  · apply List.Sublist.append
    · apply List.Sublist.append
      · exact PolicyRules.reportIn_ofPolicy_sublist dialect number line h
      · exact List.Sublist.refl _
    · exact haccess
  · exact List.Sublist.refl _

namespace DocumentRule

variable (rule : DocumentRule) (ctx : RuleContext) {q : Policy}

/-- The document rules read nothing of a policy but the names that it knows. -/
theorem check_policy (hspaces : q.knownNamespaces = ctx.policy.knownNamespaces)
    (hmodifiers : q.knownModifiers = ctx.policy.knownModifiers) :
    rule.check { ctx with policy := q } = rule.check ctx := by
  obtain ⟨_, _, _, _, _, _, spaces, modifiers⟩ := q
  subst hspaces hmodifiers
  cases rule <;> rfl

theorem fault?_policy (hspaces : q.knownNamespaces = ctx.policy.knownNamespaces)
    (hmodifiers : q.knownModifiers = ctx.policy.knownModifiers) :
    rule.fault? { ctx with policy := q } = rule.fault? ctx := by
  obtain ⟨_, _, _, _, _, _, spaces, modifiers⟩ := q
  subst hspaces hmodifiers
  cases rule <;> rfl

end DocumentRule

namespace Linter

variable {p q : Policy}

/-- A linter with a tighter policy reports what one with the other policy does. -/
theorem check_sublist (h : p.TightenedBy q) (heuristics : Heuristics) (strict : Bool) (text : Text)
    (dialect : Dialect) (fields : Entries Value) :
    ((Linter.mk p heuristics strict).check text dialect fields).Sublist
      ((Linter.mk q heuristics strict).check text dialect fields) := by
  unfold check
  apply List.Sublist.append
  · apply lineFindings_of_append (List.Sublist.refl []) List.Sublist.append
    exact RuleSet.findingsIn_sublist h dialect strict
  · -- the policy does not choose document rules, and each of them gives the same
    apply flatMap_of_append (List.Sublist.refl []) List.Sublist.append
    intro rule _
    have hsame : rule.check ((Linter.mk q heuristics strict).context text dialect fields) =
        rule.check ((Linter.mk p heuristics strict).context text dialect fields) :=
      rule.check_policy ((Linter.mk p heuristics strict).context text dialect fields)
        h.knownNamespaces h.knownModifiers
    rw [hsame]

theorem fault?_tightenedBy (h : p.TightenedBy q) (heuristics : Heuristics) (strict : Bool)
    (text : Text) (dialect : Dialect) (fields : Entries Value) :
    (Linter.mk q heuristics strict).fault? text dialect fields =
      (Linter.mk p heuristics strict).fault? text dialect fields := by
  have hsame : ∀ rule : DocumentRule,
      rule.fault? ((Linter.mk q heuristics strict).context text dialect fields) =
        rule.fault? ((Linter.mk p heuristics strict).context text dialect fields) := fun rule =>
    rule.fault?_policy ((Linter.mk p heuristics strict).context text dialect fields)
      h.knownNamespaces h.knownModifiers
  unfold fault?
  simp only [hsame]
  rfl

/-- **Tightening a policy hides no finding.**  Where the flags of one policy are set in another one that
forbids the same accessors and maybe more between them, all findings under the first policy are among
those under the second, in their order.  Both give an answer, unless the type of a field is no text; then
both have one fault. -/
theorem findings_sublist_of_tightenedBy (h : p.TightenedBy q) (hp : p.accepted = true)
    (heuristics : Heuristics) (hheuristics : heuristics.accepted = true) (strict : Bool) (text : Text)
    (dialect : Dialect) (fields : Entries Value) :
    match (Linter.mk p heuristics strict).findings text dialect fields,
      (Linter.mk q heuristics strict).findings text dialect fields with
    | .ok fewer, .ok more => fewer.Sublist more
    | .error fault, .error fault' => fault = fault' ∧ fields.all (·.2.isText) = false
    | _, _ => False := by
  have hsublist := check_sublist h heuristics strict text dialect fields
  unfold findings
  rw [fault?_tightenedBy h heuristics strict text dialect fields]
  cases hfault : (Linter.mk p heuristics strict).fault? text dialect fields with
  | some fault => exact ⟨rfl, fields_of_fault? ⟨p, heuristics, strict⟩ hp hheuristics hfault⟩
  | none => exact hsublist

/-- A second accessor and the rules about code are looked for in addition. -/
theorem findings_sublist_of_tightenedBy_default :
    let p : Policy :=
      { Policy.default with forbiddenAccessors := ["DB".toList], forbidInlineCode := false }
    let text : Text := "@php \\Cache::get(1) \\DB::select(2) @endphp"
    match (Linter.mk p Heuristics.default true).findings text .blade [],
      (Linter.mk Policy.default Heuristics.default true).findings text .blade [] with
    | .ok fewer, .ok more => fewer.Sublist more
    | .error fault, .error fault' =>
      fault = fault' ∧ ([] : Entries Value).all (·.2.isText) = false
    | _, _ => False := by
  intro p text
  have htighter : p.TightenedBy Policy.default :=
    ⟨by decide, fun _ => rfl, fun _ => rfl, fun _ => rfl, fun _ => rfl, fun _ => rfl, rfl, rfl⟩
  exact findings_sublist_of_tightenedBy htighter (by decide +kernel) Heuristics.default
    (by decide +kernel) true text .blade []

end Linter

end TemplateLint
