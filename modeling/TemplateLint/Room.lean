import TemplateLint.Value

/-!
# Room

Values can lie within each other to any depth.  What reads them or compares them goes some calls deeper
at each level, and a run has room for so many calls only.  How much of it is left for the levels depends
on what has called the program and on what the innermost values need, so it is told by the run.
-/
namespace TemplateLint

/-- How deep values may lie within each other. -/
structure Room where
  /-- The brackets that may be open at once where a document is read. -/
  brackets : Text → Nat
  /-- The lists and tables that may be open at once where two values are compared. -/
  levels : Value → Value → Nat

/-- What a run has room for in any case, unless it is called from deep within another program. -/
def Room.usual : Room := ⟨fun _ => 300, fun _ _ => 900⟩

end TemplateLint
