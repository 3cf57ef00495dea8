import QueryDescriptor.Accessor.Access
import QueryDescriptor.Accessor.Segment
import QueryDescriptor.Accessor.Shape
import QueryDescriptor.Operation

namespace QueryDescriptor
namespace Accessor

def edgesSegment : Text := "Edges"

def nodeSegment : Text := "Node"

def idSegment : Text := "Id"

def idCall : Text := "GetId()"

def readId : List Text → List Text
  | [] => []
  | [s] => [if s = idSegment then idCall else s]
  | s :: t :: rest => s :: readId (t :: rest)

def indexEdges (shape : Shape) (segments : List Text) : List Text :=
  segments.map fun s => if s = edgesSegment then shape.edges else s

def unwrap (segments : List Text) : List Text :=
  segments.filter fun s => s ≠ edgesSegment ∧ s ≠ nodeSegment

/-- The number of outer segments that a create or update response wraps an object in. -/
def envelopeDepth : Nat := 2

def path (segments : List Text) : Text := Text.join ['.'] segments

end Accessor

open Accessor in
/-- A field with the paths that reach it in generated client code. -/
structure Accessor where
  dottedName : Text
  segments : List Text
  /-- From the root object of a query response. -/
  queryPath : Text
  /-- The same without the root object and without wrapping segments. -/
  barePath : Text
  /-- Into the input of a mutation, where an identifier is a plain field. -/
  inputPath : Text
  /-- From the object that a create or update response holds. -/
  responsePath : Text
  access : Option Access
  deriving DecidableEq

namespace Accessor

structure Target where
  rootObject : Text
  operation : Operation
  shape : Shape
  compounds : List Text
  deriving DecidableEq

def Target.queryPath (t : Target) (segments : List Text) : Text :=
  t.rootObject ++ ['.'] ++ path (readId (indexEdges t.shape segments))

def Target.access (t : Target) (queryPath : Text) : Option Access :=
  match t.operation with
  | .mutation => some (.ofPath queryPath)
  | .query => none

def Target.accessor (t : Target) (dottedName : Text) : Accessor :=
  let segments := segmentsOf t.compounds dottedName
  { dottedName
    segments
    queryPath := t.queryPath segments
    barePath := path (readId (unwrap segments))
    inputPath := path (unwrap segments)
    responsePath := path (readId (segments.drop envelopeDepth))
    access := t.access (t.queryPath segments) }

end Accessor
end QueryDescriptor
