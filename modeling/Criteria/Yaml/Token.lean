set_option autoImplicit false
set_option relaxedAutoImplicit false

/-!
# Tokens of a document

A document is cut into tokens: the signs that open and close collections, those of their entries, the
names that mark nodes, and scalars. Indentation opens and closes collections as brackets do.
-/

namespace Criteria.Yaml

inductive Directive
  | version (major minor : Nat)
  | tagHandle (handle stem : String)
  | other
  deriving DecidableEq, Repr

inductive Token
  | directive (d : Directive)
  | documentStart
  | documentEnd
  | streamEnd
  | blockSequenceStart
  | blockMappingStart
  | blockEnd
  | flowSequenceStart
  | flowSequenceEnd
  | flowMappingStart
  | flowMappingEnd
  | flowEntry
  | blockEntry
  | key
  | value
  | alias (name : String)
  | anchor (name : String)
  | tag (handle : Option String) (suffix : String)
  | scalar (text : String) (plain : Bool)
  deriving DecidableEq, Repr

end Criteria.Yaml
