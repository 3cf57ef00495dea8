import QueryDescriptor.Text.LetterCase
import QueryDescriptor.Text.Occurrence

namespace QueryDescriptor.Accessor

/-- A field is settable on create and update input, or only ever produced by the server. -/
inductive Access where
  | modify
  | readOnly
  deriving DecidableEq

namespace Access

/-- A path decides by how often it names a node and an identifier, in any case: a field of the
root entity is writable if it is no identifier, one of a related entity if it is one. -/
def ofPath (path : Text) : Access :=
  let nodes := Text.occurrences ['n', 'o', 'd', 'e'] (Text.toLower path)
  let identifiers := Text.occurrences ['i', 'd'] (Text.toLower path)
  if (nodes ≤ 1 ∧ identifiers = 0) ∨ (2 ≤ nodes ∧ 1 ≤ identifiers) then modify else readOnly

def isModify : Access → Bool
  | modify => true
  | readOnly => false

def name : Access → Text
  | modify => "modify"
  | readOnly => "read_only"

end Access
end QueryDescriptor.Accessor
