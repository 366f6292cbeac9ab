import TemplateLint.Finding

/-!
# Advice

What is advised on the findings of each rule: how much it helps, how hard it is, how much time it
saves, and an example.
-/
namespace TemplateLint

/-- How much an advice helps, or how hard it is. -/
inductive Level where
  | low
  | medium
  | high
deriving DecidableEq

namespace Level

/-- The name of a level. -/
def name : Level → Text
  | low => "low"
  | medium => "medium"
  | high => "high"

/-- Every level. -/
def all : List Level := [.low, .medium, .high]

/-- The weight of a level as an impact. -/
def impactWeight : Level → Nat
  | high => 3
  | medium => 2
  | low => 1

/-- The weight of a level as an effort; less effort weighs more. -/
def effortWeight : Level → Nat
  | low => 3
  | medium => 2
  | high => 1

end Level

/-- What is advised on the findings of a rule. -/
structure Advice where
  title : Text
  category : Category
  impact : Level
  effort : Level
  /-- The time that is saved, in milliseconds. -/
  savedMs : Nat := 0
  before : Option Text := none
  after : Option Text := none
  explanation : Option Text := none
  /-- Each snippet has its own suggestion; otherwise a template has one. -/
  perSnippet : Bool := false
deriving DecidableEq

namespace Advice

/-- The advice on performance. -/
def performance : List (Text × Advice) := [
    ("n_plus_one",
      { title := "Add eager loading"
        category := .performance
        impact := .high
        effort := .low
        savedMs := 500
        before := some
          ("\x7b\x7b collection:blog \x7d\x7d\n  \x7b\x7b author:name \x7d\x7d\n" ++
            "\x7b\x7b /collection:blog \x7d\x7d")
        after := some
          ("\x7b\x7b collection:blog with=\"author\" \x7d\x7d\n  \x7b\x7b author:name " ++
            "\x7d\x7d\n\x7b\x7b /collection:blog \x7d\x7d")
        explanation := some
          ("Eager loading fetches the relationship once for the whole loop instead of " ++
            "once per item")
        perSnippet := true }),
    ("query_in_loop",
      { title := "Move data queries out of loops"
        category := .performance
        impact := .high
        effort := .medium
        savedMs := 500
        before := some
          ("@foreach($posts as $post)\n  \x7b\x7b Entry::query()->where('parent', " ++
            "$post->id)->count() \x7d\x7d\n@endforeach")
        after := some
          ("// In the controller\n$counts = ...; // one grouped query\n\n" ++
            "@foreach($posts as $post)\n  \x7b\x7b $counts[$post->id] \x7d\x7d\n" ++
            "@endforeach")
        explanation := some "One query per iteration grows linearly with the number of items"
        perSnippet := true }),
    ("unpaginated_loop",
      { title := "Add pagination to large loops"
        category := .performance
        impact := .medium
        effort := .medium
        savedMs := 300
        before := some "\x7b\x7b collection:blog limit=\"200\" \x7d\x7d"
        after := some
          ("\x7b\x7b collection:blog paginate=\"10\" \x7d\x7d\n  ...\n\x7b\x7b " ++
            "/collection:blog \x7d\x7d\n\x7b\x7b paginate \x7d\x7d ... \x7b\x7b " ++
            "/paginate \x7d\x7d")
        explanation := some "Pagination caps the entries rendered per page and adds navigation"
        perSnippet := true }),
    ("nested_loops",
      { title := "Flatten nested loops"
        category := .performance
        impact := .medium
        effort := .medium
        savedMs := 200
        explanation := some
          ("Group or pre-compute the inner data in the controller so each item is " ++
            "visited once")
        perSnippet := true }),
    ("high_complexity",
      { title := "Reduce template complexity"
        category := .maintainability
        impact := .medium
        effort := .high
        savedMs := 100
        explanation := some "Smaller templates compile faster and are easier to review" }),
    ("excessive_partials",
      { title := "Combine related partials"
        category := .performance
        impact := .low
        effort := .medium
        savedMs := 50 }),
    ("complex_conditional",
      { title := "Simplify complex conditionals"
        category := .maintainability
        impact := .low
        effort := .low
        explanation := some "Compute the condition once and give it a name"
        perSnippet := true }),
    ("excessive_inline_php",
      { title := "Move large PHP blocks out of the template"
        category := .maintainability
        impact := .medium
        effort := .medium
        perSnippet := true }),
    ("facade_in_template",
      { title := "Pass facade data from the controller"
        category := .performance
        impact := .medium
        effort := .low
        savedMs := 50 }),
    ("uncached_dynamic",
      { title := "Isolate dynamic values so the page can be cached"
        category := .performance
        impact := .medium
        effort := .medium
        savedMs := 100
        before := some "\x7b\x7b now format=\"Y\" \x7d\x7d in every section"
        after := some
          ("\x7b\x7b nocache \x7d\x7d\x7b\x7b now format=\"Y\" \x7d\x7d\x7b\x7b " ++
            "/nocache \x7d\x7d") }),
    ("static_caching",
      { title := "Cache static header/footer/navigation content"
        category := .performance
        impact := .medium
        effort := .low
        savedMs := 100
        before := some "<header>\x7b\x7b nav:main \x7d\x7d</header>"
        after := some
          ("\x7b\x7b cache for=\"1 hour\" \x7d\x7d\n<header>\x7b\x7b nav:main " ++
            "\x7d\x7d</header>\n\x7b\x7b /cache \x7d\x7d")
        explanation := some "Caching prevents re-rendering static navigation on every request" }),
    ("collection_caching",
      { title := "Cache collection queries"
        category := .performance
        impact := .medium
        effort := .low
        savedMs := 200
        before := some "\x7b\x7b collection:blog \x7d\x7d ... \x7b\x7b /collection:blog \x7d\x7d"
        after := some
          ("\x7b\x7b cache for=\"10 minutes\" \x7d\x7d\n\x7b\x7b collection:blog " ++
            "\x7d\x7d ... \x7b\x7b /collection:blog \x7d\x7d\n\x7b\x7b /cache \x7d\x7d")
        perSnippet := true }),
    ("asset_caching",
      { title := "Enable asset caching"
        category := .performance
        impact := .medium
        effort := .low
        savedMs := 150 }),
    ("collection_without_params",
      { title := "Limit collection results"
        category := .performance
        impact := .medium
        effort := .low
        savedMs := 100
        before := some "\x7b\x7b collection:blog \x7d\x7d"
        after := some "\x7b\x7b collection:blog limit=\"10\" sort=\"date:desc\" \x7d\x7d"
        perSnippet := true }),
    ("glide_without_params",
      { title := "Resize images with Glide parameters"
        category := .performance
        impact := .medium
        effort := .low
        savedMs := 100
        before := some "\x7b\x7b glide:image \x7d\x7d"
        after := some "\x7b\x7b glide:image width=\"800\" quality=\"80\" \x7d\x7d" }),
    ("inline_styles",
      { title := "Move inline CSS to a stylesheet"
        category := .performance
        impact := .low
        effort := .low
        savedMs := 50 }),
    ("inline_scripts",
      { title := "Move inline JavaScript to an external file"
        category := .performance
        impact := .low
        effort := .low
        savedMs := 50 })]

/-- The advice on maintenance and policy. -/
def maintenance : List (Text × Advice) := [
    ("long_template",
      { title := "Extract repeated sections into reusable partials"
        category := .maintainability
        impact := .medium
        effort := .medium
        before := some "<div class=\"card\">\n  <!-- 50+ lines of content -->\n</div>"
        after := some "\x7b\x7b partial:card \x7d\x7d"
        explanation := some "Focused partials are easier to read and reuse" }),
    ("repeated_markup",
      { title := "Extract repeated markup into a component"
        category := .maintainability
        impact := .medium
        effort := .medium
        perSnippet := true }),
    ("inline_style_attributes",
      { title := "Extract inline styles to CSS classes"
        category := .maintainability
        impact := .low
        effort := .medium
        before := some "<div style=\"padding: 1rem; border: 1px solid #ccc;\">Content</div>"
        after := some "<div class=\"card\">Content</div>"
        explanation := some "CSS classes can be reused across templates" }),
    ("repeated_strings",
      { title := "Extract repeated strings to variables"
        category := .maintainability
        impact := .low
        effort := .low
        before := some
          ("\x7b\x7b if status == \"published\" \x7d\x7d ... \x7b\x7b if status == " ++
            "\"published\" \x7d\x7d")
        after := some
          ("\x7b\x7b published_status = \"published\" \x7d\x7d\n\x7b\x7b if status == " ++
            "published_status \x7d\x7d") }),
    ("unused_variables",
      { title := "Remove unused variable assignments"
        category := .maintainability
        impact := .low
        effort := .low }),
    ("non_semantic_markup",
      { title := "Use semantic HTML elements"
        category := .accessibility
        impact := .low
        effort := .low
        before := some "<div class=\"header\">...</div>"
        after := some "<header>...</header>" }),
    ("inline_php",
      { title := "Move PHP logic out of the template"
        category := .policy
        impact := .medium
        effort := .medium
        perSnippet := true }),
    ("facade_call",
      { title := "Replace facade calls with Statamic tags"
        category := .policy
        impact := .medium
        effort := .low
        before := some "\x7b\x7b Statamic\\Facades\\Entry::whereCollection('blog') \x7d\x7d"
        after := some "<x-statamic:entries :from=\"'blog'\">"
        perSnippet := true }),
    ("prefer_statamic_tags",
      { title := "Use Statamic tags instead of PHP queries"
        category := .policy
        impact := .medium
        effort := .low
        perSnippet := true }),
    ("models_in_view",
      { title := "Move model queries to the controller"
        category := .policy
        impact := .medium
        effort := .medium
        perSnippet := true }),
    ("database_calls",
      { title := "Move database access out of the template"
        category := .policy
        impact := .high
        effort := .medium
        savedMs := 100
        perSnippet := true }),
    ("http_calls",
      { title := "Move HTTP requests out of the template"
        category := .policy
        impact := .high
        effort := .medium
        savedMs := 200
        perSnippet := true })]

/-- The advice on security and accessibility. -/
def safety : List (Text × Advice) := [
    ("unescaped_output",
      { title := "Review unescaped output for XSS vulnerability"
        category := .security
        impact := .high
        effort := .low
        before := some "\x7b!! $content !!\x7d"
        after := some "\x7b\x7b $content \x7d\x7d"
        explanation := some "Escaped output prevents script injection from user-controlled data"
        perSnippet := true }),
    ("xss_risk",
      { title := "Avoid assigning HTML through innerHTML"
        category := .security
        impact := .high
        effort := .low
        before := some "el.innerHTML = data;"
        after := some "el.textContent = data;"
        perSnippet := true }),
    ("insecure_links",
      { title := "Use HTTPS for external links"
        category := .security
        impact := .low
        effort := .low
        before := some "<a href=\"http://example.com\">"
        after := some "<a href=\"https://example.com\">" }),
    ("missing_alt_text",
      { title := "Add alt attributes to images"
        category := .accessibility
        impact := .medium
        effort := .low
        before := some "<img src=\"photo.jpg\">"
        after := some "<img src=\"photo.jpg\" alt=\"Description\">"
        explanation := some "Screen readers announce the alt text in place of the image" }),
    ("non_descriptive_link",
      { title := "Use descriptive link text"
        category := .accessibility
        impact := .low
        effort := .low
        before := some "<a href=\"/post\">Read more</a>"
        after := some "<a href=\"/post\">Read more about \x7b\x7b title \x7d\x7d</a>" }),
    ("missing_form_label",
      { title := "Label form inputs"
        category := .accessibility
        impact := .medium
        effort := .low
        before := some "<input type=\"email\" name=\"email\">"
        after := some
          ("<label for=\"email\">Email</label>\n<input type=\"email\" id=\"email\" " ++
            "name=\"email\">") })]

/-- All advice, by the code of the rule. -/
def table : List (Text × Advice) := performance ++ maintenance ++ safety

/-- The advice on the findings of a rule. -/
def ofRule? (rule : Text) : Option Advice := table.lookup rule

end Advice

end TemplateLint
