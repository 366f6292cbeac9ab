import TemplateLint.Analysis.Context

/-!
# Caching opportunities

Parts of a template that could be cached.  They only inform.
-/
namespace TemplateLint
namespace Caching

open Pattern

/-- An opportunity at an offset, with how much it helps. -/
def opportunity (ctx : AnalysisContext) (rule : Text) (offset : Nat)
    (message suggestion benefit : Text) (more : Entries Value) : Finding :=
  ctx.finding rule .performance .info offset message none (some suggestion)
    (("benefit", .text benefit) :: more)

/-- A section of a page that rarely changes. -/
def staticSection : Pattern :=
  chain
    [lit "<",
      group 1 (oneOf [caselessLit "header", caselessLit "footer", caselessLit "nav"]), edge,
      many 0 (· != '>'), lit ">", few 0 fun _ => true, lit "</", same 1 caseless, lit ">"]

/-- A section of a page that rarely changes; only the first is told. -/
def staticCaching (ctx : AnalysisContext) : List Finding :=
  match staticSection.find? ctx.text with
  | none => []
  | some m =>
    [opportunity ctx "static_caching" m.start
      ("Static <" ++ (m.group 1).map Char.toLower ++ "> content detected")
      "Consider using fragment caching for static sections" "high" []]

/-- A collection tag. -/
def collectionQuery : Pattern :=
  chain
    [Dialect.tagStart, lit "collection:", group 1 (many 1 fun c => isWord c || c == '-'),
      many 0 (· != '\x7d'), lit closeBraces]

/-- Every collection tag. -/
def collectionCaching (ctx : AnalysisContext) : List Finding :=
  (collectionQuery.findAll ctx.text).map fun m =>
    opportunity ctx "collection_caching" m.start
      ("Collection '" ++ m.group 1 ++ "' query could benefit from caching")
      "Wrap the collection loop in \x7b\x7b cache \x7d\x7d ... \x7b\x7b /cache \x7d\x7d" "medium"
      [("collection", .text (m.group 1))]

/-- A tag that computes an image. -/
def assetProcessing : Pattern :=
  chain
    [Dialect.tagStart, oneOf [lit "asset", lit "image", lit "glide"],
      one fun c => c == ':' || isBlank c]

/-- A tag that computes an image; only the first is told. -/
def assetCaching (ctx : AnalysisContext) : List Finding :=
  match assetProcessing.find? ctx.text with
  | none => []
  | some m =>
    [opportunity ctx "asset_caching" m.start "Asset/image processing detected"
      "Enable asset caching and consider responsive images" "high" []]

/-- The opportunities of a template. -/
def opportunities (ctx : AnalysisContext) : List Finding :=
  staticCaching ctx ++
    if ctx.dialect = .antlers then collectionCaching ctx ++ assetCaching ctx else []

end Caching

end TemplateLint
