import QueryDescriptor.Text.Basic

namespace QueryDescriptor

/-- A value. The members of a record keep their order. -/
inductive Json where
  | null
  | text (t : Text)
  | number (n : Nat)
  | list (items : List Json)
  | record (members : List (Text × Json))

namespace Json

def ofText? : Option Text → Json
  | none => null
  | some t => text t

def texts (ts : List Text) : Json := list (ts.map text)

def controlDigits (c : Char) : Text :=
  if c.toNat < 16 then "000" ++ Nat.toDigits 16 c.toNat else "00" ++ Nat.toDigits 16 c.toNat

def escaped (c : Char) : Text :=
  match c with
  | '"' => ['\\', '"']
  | '\\' => ['\\', '\\']
  | '\x08' => ['\\', 'b']
  | '\x0c' => ['\\', 'f']
  | '\n' => ['\\', 'n']
  | '\r' => ['\\', 'r']
  | '\t' => ['\\', 't']
  | c => if c.toNat < 32 then ['\\', 'u'] ++ controlDigits c else [c]

def quoted (t : Text) : Text := '"' :: t.flatMap escaped ++ ['"']

/-- The start of a line at a depth: two spaces for each level. -/
def margin (depth : Nat) : Text := List.replicate (2 * depth) ' '

/-- The parts between brackets, each on a line of its own; brackets with nothing inside stay
together. -/
def enclosed (opening closing : Char) (depth : Nat) : List Text → Text
  | [] => [opening, closing]
  | parts =>
    opening :: '\n' :: Text.join [',', '\n'] (parts.map (margin (depth + 1) ++ ·)) ++
      '\n' :: margin depth ++ [closing]

mutual

def layout (depth : Nat) : Json → Text
  | null => "null"
  | text t => quoted t
  | number n => Text.ofNat n
  | list items => enclosed '[' ']' depth (layoutItems (depth + 1) items)
  | record members => enclosed '\x7b' '\x7d' depth (layoutMembers (depth + 1) members)

def layoutItems (depth : Nat) : List Json → List Text
  | [] => []
  | item :: items => layout depth item :: layoutItems depth items

def layoutMembers (depth : Nat) : List (Text × Json) → List Text
  | [] => []
  | (key, value) :: members =>
    (quoted key ++ [':', ' '] ++ layout depth value) :: layoutMembers depth members

end

def pretty (j : Json) : Text := layout 0 j

end Json
end QueryDescriptor
