import QueryDescriptor.Text.Basic

namespace QueryDescriptor.Accessor

inductive Shape where
  | list
  | single
  deriving DecidableEq

namespace Shape

/-- A root selection with a required variable resolves to one entity. -/
def ofVariable : Option Text → Shape
  | none => list
  | some _ => single

def edges : Shape → Text
  | list => "Edges[i]"
  | single => "Edges[0]"

def name : Shape → Text
  | list => "list"
  | single => "single"

end Shape
end QueryDescriptor.Accessor
