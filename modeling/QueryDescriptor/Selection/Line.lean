import QueryDescriptor.Text.Blank

namespace QueryDescriptor.Selection

inductive Line where
  | opening (name : Text)
  | closing
  | blank
  | leaf (text : Text)
  deriving DecidableEq

/-- A line that ends in a space and a brace opens a set, a closing brace alone closes one, and
every other line that is not blank is a leaf. -/
def Line.ofText (raw : Text) : Line :=
  match Text.dropEnd? [' ', '\x7b'] (Text.trim raw) with
  | some name => .opening (Text.trim name)
  | none =>
    match Text.trim raw with
    | [] => .blank
    | ['\x7d'] => .closing
    | text => .leaf text

end QueryDescriptor.Selection
