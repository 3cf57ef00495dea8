import QueryDescriptor.Text.Basic
import QueryDescriptor.Text.Invisible

namespace QueryDescriptor.Text

def hex (c : Char) : Text := Nat.toDigits 16 c.toNat

def escaped (c : Char) : Text :=
  match c with
  | '"' => ['\\', '"']
  | '\\' => ['\\', '\\']
  | '\t' => ['\\', 't']
  | '\n' => ['\\', 'n']
  | '\r' => ['\\', 'r']
  | '\x00' => ['\\', '0']
  | c => if isInvisible c then "\\u\x7b" ++ hex c ++ "\x7d" else [c]

/-- The text in double quotes, with an escape for every character that would be misread. -/
def quoted (t : Text) : Text := '"' :: t.flatMap escaped ++ ['"']

end QueryDescriptor.Text
