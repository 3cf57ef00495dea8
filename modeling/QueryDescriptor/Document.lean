import QueryDescriptor.Descriptor
import QueryDescriptor.Files.Tree

namespace QueryDescriptor

open Files (Path FileTree Fault)

inductive DocumentError where
  | unreadable (path : Path) (fault : Fault)
  | notAFile (path : Path)
  | missingOperationName
  deriving DecidableEq

namespace DocumentError

def message : DocumentError → Text
  | unreadable path fault =>
    "Query document at " ++ Text.quoted path ++ " could not be read: " ++ fault.message
  | notAFile path => "Expected a query document file at " ++ Text.quoted path
  | missingOperationName => "Failed to parse GraphQL document: missing operation name"

/-- Two errors are the same if they agree in cause; paths agree by components, faults by kind. -/
def same : DocumentError → DocumentError → Bool
  | unreadable p f, unreadable q g =>
    Path.components p == Path.components q && f.kind == g.kind
  | notAFile p, notAFile q => Path.components p == Path.components q
  | missingOperationName, missingOperationName => true
  | _, _ => false

end DocumentError

namespace Descriptor

def ofText (text : Text) : Except DocumentError Descriptor :=
  match ofText? text with
  | some d => .ok d
  | none => .error .missingOperationName

def textAt (t : FileTree) (path : Path) : Except DocumentError Text :=
  if t.isFile path then
    match t.readText path with
    | .ok text => .ok text
    | .error f => .error (.unreadable path f)
  else .error (.notAFile path)

def ofFile (t : FileTree) (path : Path) : Except DocumentError Descriptor :=
  (textAt t path).bind ofText

def fileRecords (t : FileTree) (path : Path) : List Log.Record :=
  match textAt t path with
  | .ok text => ⟨.trace, "Parsing query document at " ++ Text.quoted path ++ "."⟩ :: records text
  | .error _ => []

end Descriptor
end QueryDescriptor
