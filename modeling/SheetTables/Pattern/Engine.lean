/-! # Engines of patterns

Patterns are written in the language of an engine that comes from outside. One engine searches
texts for a regular expression, another tests names as a whole against a pattern with wildcards.
-/

namespace SheetTables

/-- Compiles a regular expression to the test whether it matches anywhere in a text. -/
class PatternEngine where
  compile? : String → Option (String → Bool)

/-- Reads a name pattern as the test of whole names, or says what is wrong with it. -/
class NamePatterns where
  read : String → Except String (String → Bool)

end SheetTables
