import TemplateLint.Rule.Structure
import TemplateLint.Text.Identifier
import TemplateLint.Text.Similar

/-!
# Tag rules

Rules about the tags of a document, each looked at by itself: its namespace, its condition, its
parameters, its modifiers, and, where the fields of the content are known, the use of a field
according to its type.
-/
namespace TemplateLint
namespace TagRules

open StructureRules

/-- The finding about a tag. -/
def tagFinding (ctx : RuleContext) (t : Tag) (rule : Text) (category : Category)
    (severity : Severity) (message : Text) (suggestion : Option Text) : Finding :=
  ctx.findingAt rule category severity t.start message (t.raw.take 100) suggestion

/-- What a rule says about every opening tag of a document. -/
def overTags (check : RuleContext → Tag → List Finding) (ctx : RuleContext) : List Finding :=
  ((Tag.scan ctx.text).filter (·.isOpening)).flatMap (check ctx)

/-- The variables that every template has. -/
def contextVariables : List Text :=
  List.map String.toList
    ["title", "slug", "url", "uri", "permalink", "id", "content", "date", "last_modified",
      "updated_at", "updated_by", "collection", "blueprint", "site", "locale", "current_date", "now",
      "today", "current_url", "current_uri", "segment_1", "segment_2", "segment_3", "segment_4",
      "first", "last", "count", "index", "total_results", "no_results", "csrf_token", "csrf_field",
      "homepage", "is_homepage", "environment", "xml_header", "value", "key", "else", "noparse",
      "template", "layout", "logged_in", "logged_out", "current_user", "get", "post", "old"]

/-- What is known about a variable. -/
inductive VariableKind where
  /-- A field of the content, with its type; a type that is no text is none that is known. -/
  | field (type : Value)
  /-- A variable that every template has. -/
  | context
  | unknown
deriving DecidableEq

/-- The type of a variable: that of a field, or else the name of the kind. -/
def VariableKind.type : VariableKind → Value
  | field type => type
  | context => .text "context"
  | unknown => .text "unknown"

/-- The part of a name before its first dot and its first colon. -/
def rootName (name : Text) : Text := name.takeWhile fun c => c != '.' && c != ':'

/-- The kind of a variable; a field of the content comes before the variables of every template. -/
def kindOf (fields : Entries Value) (name : Text) : VariableKind :=
  let root := rootName name
  match fields.get? root with
  | some type => .field type
  | none => if root ∈ contextVariables then .context else .unknown

/-- A hint at the one closest word. -/
def didYouMean (word : Text) (words : List Text) : Option Text :=
  (closeWords 1 word words).head?.map fun close => "Did you mean '" ++ close ++ "'?"

/-- The fault of a hint at a word that cannot be found, because something among the known words is no
text. -/
def hintFault? (known : List Value) (word : Text) : Option Fault :=
  known.findSome? (Likeness.candidateFault? word)

/-- The first fault of hints at some words of the opening tags of a document. -/
def overTagsFault? (known : List Value) (words : Tag → List Text) (ctx : RuleContext) :
    Option Fault :=
  if known.all (·.isText) then none
  else
    (((Tag.scan ctx.text).filter (·.isOpening)).flatMap words).findSome? (hintFault? known)

/-- The namespace of a tag, if it is neither known nor the name of a variable. -/
def strangeSpace? (ctx : RuleContext) (t : Tag) : Option Text :=
  t.space.filter fun space =>
    space ∉ Value.textsOf ctx.policy.knownNamespaces ∧ (ctx.fields.get? space).isNone ∧
      space ∉ contextVariables

/-- A namespace that is neither known nor the name of a variable. -/
def unknownNamespace (ctx : RuleContext) (t : Tag) : List Finding :=
  match strangeSpace? ctx t with
  | none => []
  | some space =>
    [tagFinding ctx t "unknown_namespace" .maintainability .warning
      ("Unknown tag namespace '" ++ space ++ "'")
      (didYouMean space (Value.textsOf ctx.policy.knownNamespaces))]

/-- The fault of a hint at a namespace. -/
def namespaceFault? (ctx : RuleContext) : Option Fault :=
  overTagsFault? ctx.policy.knownNamespaces (fun t => (strangeSpace? ctx t).toList) ctx

/-- A condition or a loop with nothing to test or to loop over. -/
def emptyControl (ctx : RuleContext) (t : Tag) : List Finding :=
  if t.space = none ∧ t.head ∈ (["if", "unless", "elseif"] : List Text) ∧ t.rest = [] then
    [tagFinding ctx t "empty_conditional" .maintainability .error
      ("'" ++ t.head ++ "' tag without a condition") none]
  else if t.head = String.toList "foreach" ∧ t.rest = [] then
    [tagFinding ctx t "empty_loop" .maintainability .error
      "'foreach' tag without an array to loop over" none]
  else []

/-- A collection without parameters. -/
def collectionParams (ctx : RuleContext) (t : Tag) : List Finding :=
  if t.space = some (String.toList "collection") ∧ t.params = [] ∧
      t.method ≠ some (String.toList "count") then
    [tagFinding ctx t "collection_without_params" .performance .warning
      ("Collection tag '" ++ t.head ++ "' might benefit from parameters like limit or sort")
      (some "Add limit=\"10\" or paginate=\"10\"")]
  else []

/-- The parameters that set the size or the quality of an image. -/
def glideNames : List Text :=
  ["width", "height", "w", "h", "quality", "q", "fit", "src", "preset"]

/-- An image tag that sets neither size nor quality. -/
def glideParams (ctx : RuleContext) (t : Tag) : List Finding :=
  if (t.space = some (String.toList "glide") ∨ t.head = String.toList "glide") ∧
      t.params.all (fun p => p.1 ∉ glideNames) then
    [tagFinding ctx t "glide_without_params" .performance .warning
      "Glide tag without width, height or quality serves the original image" none]
  else []

/-- The modifiers of a tag that are not known. -/
def strangeModifiers (ctx : RuleContext) (t : Tag) : List Text :=
  t.modifiers.filter (· ∉ Value.textsOf ctx.policy.knownModifiers)

/-- The modifiers that are not known. -/
def unknownModifier (ctx : RuleContext) (t : Tag) : List Finding :=
  (strangeModifiers ctx t).map fun modifier =>
    tagFinding ctx t "unknown_modifier" .maintainability .warning
      ("Unknown modifier '" ++ modifier ++ "'")
      (didYouMean modifier (Value.textsOf ctx.policy.knownModifiers))

/-- The fault of a hint at a modifier. -/
def modifierFault? (ctx : RuleContext) : Option Fault :=
  overTagsFault? ctx.policy.knownModifiers (strangeModifiers ctx) ctx

/-- The types of fields that hold other entries. -/
def relationshipTypes : List Text := ["entries", "terms", "taxonomy", "users", "assets"]

/-- The modifiers of an asset. -/
def assetModifiers : List Text := ["glide", "resize", "crop"]

/-- The part of a head before its first dot. -/
def fieldName (t : Tag) : Text := t.head.takeWhile (· != '.')

/-- A closing tag of the given name comes in the text. -/
def hasCloser (text : Text) (name : Text) : Bool :=
  (Tag.scan text).any fun t => t.isClosing && t.blockName == name

/-- What is wrong with the use of a name that is no field and no variable. -/
def unknownField (ctx : RuleContext) (t : Tag) (name : Text) : List Finding :=
  if ctx.strict && isIdentifier name then
    let close := closeWords 3 name ctx.fields.keys
    [tagFinding ctx t "unknown_field" .maintainability .warning
      ("Unknown field '" ++ name ++ "'")
      (if close.isEmpty then none
        else some ("Did you mean: " ++ (", " : Text).intercalate close ++ "?"))]
  else []

/-- What is wrong with the use of a name of the given type: the first thing that applies. -/
def typedField (ctx : RuleContext) (t : Tag) (name type : Text) : List Finding :=
  if type = String.toList "date" ∧ ctx.strict ∧ (t.params.get? "format").isNone ∧
      String.toList "format" ∉ t.modifiers then
    [tagFinding ctx t "missing_date_format" .maintainability .warning
      ("Date field '" ++ name ++ "' should specify a format parameter") none]
  else if type ∈ relationshipTypes ∧ t.modifiers = [] ∧
      !hasCloser (ctx.text.drop t.stop) name then
    [tagFinding ctx t "relationship_field_unclosed" .maintainability .warning
      ("Relationship field '" ++ name ++ "' is usually looped; close it with " ++
        braced ("/" ++ name)) none]
  else if type = String.toList "assets" ∧ ctx.strict ∧ t.modifiers.any (· ∉ assetModifiers) then
    [tagFinding ctx t "invalid_asset_modifier" .maintainability .warning
      ("Field '" ++ name ++
        "' is an asset field. Consider using glide, resize, or crop modifiers") none]
  else if type ∈ (["bard", "replicator"] : List Text) ∧ ctx.strict then
    [tagFinding ctx t "complex_field_usage" .maintainability .warning
      ("Complex field '" ++ name ++ "' may require conditional logic for sets") none]
  else []

/-- The type of the variable that a tag uses; none if it uses a namespace, controls the flow or
assigns. -/
def usedType? (ctx : RuleContext) (t : Tag) : Option Value :=
  let name := fieldName t
  if t.space.isSome ∨ name ∈ Tag.controlWords ∨ t.isAssignment then none
  else some (kindOf ctx.fields name).type

/-- What is wrong with the use of a field by a tag. -/
def fieldUse (ctx : RuleContext) (t : Tag) : List Finding :=
  match (usedType? ctx t).bind Value.toText? with
  | none => []
  | some type =>
    if type = String.toList "unknown" then unknownField ctx t (fieldName t)
    else typedField ctx t (fieldName t) type

/-- The names that a document defines itself, by assignment or as the name of a loop's items. -/
def localNames (tags : List Tag) : List Text :=
  (tags.filter (·.isAssignment)).map (·.head) ++ tags.filterMap (·.params.get? "as")

/-- The opening tags of a document that do not use a name of the document itself; none of them matters
if no field is known. -/
def fieldTags (ctx : RuleContext) : List Tag :=
  if ctx.fields.isEmpty then []
  else
    let tags := (Tag.scan ctx.text).filter (·.isOpening)
    tags.filter fun t => fieldName t ∉ localNames tags

/-- The use of the fields of the content. -/
def fieldUsage (ctx : RuleContext) : List Finding := (fieldTags ctx).flatMap (fieldUse ctx)

/-- The fault of a tag that uses a field whose type cannot be looked up among the known ones. -/
def fieldFault? (ctx : RuleContext) : Option Fault :=
  if ctx.fields.all (·.2.isText) then none
  else (fieldTags ctx).findSome? fun t => (usedType? ctx t).bind Value.keyFault?

end TagRules

end TemplateLint
