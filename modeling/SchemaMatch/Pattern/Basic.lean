import SchemaMatch.Pattern.Matcher
import SchemaMatch.Pattern.Parser
import SchemaMatch.Pattern.Size

/-!
Contract: patterns as values.

Owns:
- the pattern, a source text together with the tree that is matched;
- compilation with its report, and the question whether a text contains a match.

Does not own: notation and matching.
-/

namespace SchemaMatch

/-- A pattern. Its tree is what it matches; patterns that are built with options beside their source
have other trees than the source alone denotes. -/
structure Pattern where
  source : String
  tree : PatternTree

namespace Pattern

/-- Why a pattern is refused that is well formed. -/
def tooLarge : String :=
  "Compiled regex exceeds size limit of " ++ toString PatternTree.sizeLimit ++ " bytes."

/-- Compile a pattern; the error is the report of its first fault. -/
def compile (source : String) : Except String Pattern :=
  match PatternTree.ofText? source with
  | .ok tree => if PatternTree.sizeLimit < tree.size then .error tooLarge else .ok ⟨source, tree⟩
  | .error error => .error (error.report source)

/-- Whether a match starts anywhere in the text. -/
def isMatch (pattern : Pattern) (text : String) : Bool :=
  pattern.tree.occursIn text

end Pattern

end SchemaMatch
