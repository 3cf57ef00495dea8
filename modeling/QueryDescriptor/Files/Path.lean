import QueryDescriptor.Text.Basic

namespace QueryDescriptor.Files

abbrev Path := Text

inductive Component where
  | root
  | here
  | up
  | name (n : Text)
  deriving DecidableEq

namespace Component

/-- The component that a piece between slashes stands for; an empty piece and a dot stand for
none. -/
def ofPiece? : Text → Option Component
  | [] => none
  | ['.'] => none
  | ['.', '.'] => some up
  | n => some (name n)

end Component

namespace Path

def pieces (p : Path) : List Text := Text.split '/' p

/-- The components of a path. Two paths with the same components are equal as paths; a dot counts
only at the start. -/
def components (p : Path) : List Component :=
  if ['/'].isPrefixOf p then .root :: (pieces p).filterMap Component.ofPiece?
  else match pieces p with
    | ['.'] :: rest => .here :: rest.filterMap Component.ofPiece?
    | ps => ps.filterMap Component.ofPiece?

def ofComponents : List Component → Path
  | [] => []
  | .root :: rest => '/' :: ofComponents rest
  | c :: rest =>
    let piece : Text := match c with
      | .name n => n
      | .up => ['.', '.']
      | _ => ['.']
    match rest with
    | [] => piece
    | _ => piece ++ '/' :: ofComponents rest

/-- The directories above a path, the nearest first; the working directory of a relative path is
not among them. -/
def parents (p : Path) : List Path :=
  let cs := components p
  ((List.range cs.length).drop 1).reverse.map fun n => ofComponents (cs.take n)

def fileName? (p : Path) : Option Text :=
  match (components p).getLast? with
  | some (.name n) => some n
  | _ => none

/-- The part of a file name after its last dot, unless that dot is its first character. -/
def extensionOf? (name : Text) : Option Text :=
  match name.reverse.dropWhile (· != '.') with
  | [] => none
  | [_] => none
  | _ => some (name.reverse.takeWhile (· != '.')).reverse

def extension? (p : Path) : Option Text := (fileName? p).bind extensionOf?

def child (p : Path) (name : Text) : Path :=
  if p = [] ∨ ['/'].isSuffixOf p then p ++ name else p ++ '/' :: name

end Path
end QueryDescriptor.Files
