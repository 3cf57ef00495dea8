import QueryDescriptor.Text.Basic

namespace QueryDescriptor.Text

/-- A line ends at a line feed, and a carriage return directly before it belongs to the end.
The text after the last line feed is a line unless it is empty. -/
def lines : Text → List Text
  | [] => []
  | '\n' :: t => [] :: lines t
  | '\r' :: '\n' :: t => [] :: lines t
  | c :: t =>
    match lines t with
    | [] => [[c]]
    | line :: rest => (c :: line) :: rest

end QueryDescriptor.Text
