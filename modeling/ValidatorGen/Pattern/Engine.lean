/-
Engines for patterns. Filters leave it to an engine what a pattern is and which names it matches,
so all that is told of them is told of every engine.
-/
namespace ValidatorGen

/-- An engine for patterns. -/
class PatternEngine where
  /-- The test that a text stands for, unless the text is no pattern. -/
  read? : String → Option (String → Bool)

end ValidatorGen
