import QueryDescriptor.Operation
import QueryDescriptor.Text.Blank
import QueryDescriptor.Text.Letter
import QueryDescriptor.Text.LetterCase

namespace QueryDescriptor

structure RootSelection where
  object : Text
  requiredVariable : Option Text
  deriving DecidableEq

namespace RootSelection

def closesVariable (c : Char) : Bool := c == ')' || c == ',' || c == '{'

def variableIn (t : Text) : Option Text :=
  match Text.after? (· == '$') (Text.before (· == ':') t) with
  | none => none
  | some t =>
    match Text.dropEndWhile closesVariable (Text.before isBlank t) with
    | [] => none
    | name => some name

/-- Reads a trimmed line: without a colon its first word is the object, with one the object
stands before the argument list. -/
def ofLine (line : Text) : RootSelection :=
  match Text.after? (· == ':') line with
  | none => ⟨Text.firstWord line, none⟩
  | some value =>
    ⟨Text.trim (Text.before (· == '(') (Text.before (· == ':') line)), variableIn value⟩

def ofLines? (lines : List Text) : Option RootSelection :=
  (lines.find? (!Text.allBlank ·)).map fun line => ofLine (Text.trim line)

/-- The number of lines up to the one with the root selection, or of all lines without one. -/
def height (lines : List Text) : Nat :=
  min ((lines.takeWhile Text.allBlank).length + 1) lines.length

end RootSelection

structure Heading where
  operation : Operation
  name : Text
  root : Option RootSelection
  /-- The number of lines above the first line of the body. -/
  bodyStart : Nat
  deriving DecidableEq

namespace Heading

/-- The name of an operation, in the text after its keyword: the first word up to a bracket, with
its first character in lower case. It starts with a letter or an underscore. -/
def name? (t : Text) : Option Text :=
  match Text.before (fun c => c == '(' || c == '\x7b') (Text.firstWord t) with
  | [] => none
  | c :: rest => if isLetter c || c == '_' then some (lower c ++ rest) else none

/-- The heading is on the first line that opens an operation. A name that is missing there is not
looked for further below. -/
def ofLines? : List Text → Option Heading
  | [] => none
  | line :: below =>
    match Operation.ofLine? (Text.trim line) with
    | some (operation, rest) =>
      (name? rest).map fun name =>
        ⟨operation, name, RootSelection.ofLines? below, RootSelection.height below + 1⟩
    | none => (ofLines? below).map fun h => { h with bodyStart := h.bodyStart + 1 }

def rootObject (h : Heading) : Text := (h.root.map (·.object)).getD []

def requiredVariable (h : Heading) : Option Text := h.root.bind (·.requiredVariable)

end Heading
end QueryDescriptor
