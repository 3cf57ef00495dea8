import QueryDescriptor.Text.Basic

namespace QueryDescriptor.Text

abbrev Block := List Text

namespace Block

def withComma : Block → Block
  | [] => []
  | [line] => [line ++ [',']]
  | line :: next :: rest => line :: withComma (next :: rest)

def labelled (label : Text) : Block → Block
  | [] => []
  | line :: rest => (label ++ ": " ++ line) :: rest

/-- The blocks inside a bracket, each moved in by four columns and ended by a comma. -/
def bracketed (opening closing : Text) (inside : List Block) : Block :=
  opening :: inside.flatMap (fun b => (withComma b).map ("    " ++ ·)) ++ [closing]

def toText (b : Block) : Text := join ['\n'] b

end Block
end QueryDescriptor.Text
