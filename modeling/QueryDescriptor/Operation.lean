import QueryDescriptor.Text.Basic

namespace QueryDescriptor

inductive Operation where
  | query
  | mutation
  deriving DecidableEq

namespace Operation

def name : Operation → Text
  | query => "query"
  | mutation => "mutation"

def keyword (op : Operation) : Text := op.name ++ [' ']

/-- The operation that a line opens, with the text after its keyword. -/
def ofLine? (line : Text) : Option (Operation × Text) :=
  match Text.dropStart? query.keyword line with
  | some rest => some (query, rest)
  | none => (Text.dropStart? mutation.keyword line).map fun rest => (mutation, rest)

end Operation
end QueryDescriptor
