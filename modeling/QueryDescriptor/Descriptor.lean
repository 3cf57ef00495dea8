import QueryDescriptor.Accessor.Path
import QueryDescriptor.Heading
import QueryDescriptor.Selection.Outline
import QueryDescriptor.Text.Lines

namespace QueryDescriptor

open Accessor (Shape Target)
open Selection (Diagnostic Event Outline)

/-- What is told about one query or mutation document. Fields and accessors are in the order of
the leaves, one each. -/
structure Descriptor where
  accessors : List Accessor
  diagnostics : List Diagnostic
  fields : List Text
  name : Text
  operation : Operation
  requiredVariable : Option Text
  shape : Shape
  rootObject : Text
  deriving DecidableEq

namespace Descriptor

def headingDiagnostics (h : Heading) : List Diagnostic :=
  match h.root with
  | none => [.missingRootSelection]
  | some _ => []

def bodyEvents (h : Heading) (lines : List Text) : List Event :=
  Selection.scan .start (h.bodyStart + 1) (lines.drop h.bodyStart)

def target (h : Heading) (compounds : List Text) : Target :=
  ⟨h.rootObject, h.operation, .ofVariable h.requiredVariable, compounds⟩

def ofOutline (h : Heading) (o : Outline) : Descriptor where
  accessors := o.fields.map (target h o.compounds).accessor
  diagnostics := headingDiagnostics h ++ o.diagnostics
  fields := o.fields
  name := h.name
  operation := h.operation
  requiredVariable := h.requiredVariable
  shape := .ofVariable h.requiredVariable
  rootObject := h.rootObject

def ofText? (text : Text) : Option Descriptor :=
  (Heading.ofLines? (Text.lines text)).map fun h =>
    ofOutline h (.ofEvents (bodyEvents h (Text.lines text)))

def writable (d : Descriptor) : List Accessor :=
  d.accessors.filter fun a => a.access.any (·.isModify)

def readOnly (d : Descriptor) : List Accessor :=
  d.accessors.filter fun a => a.access.any fun access => !access.isModify

def record (d : Descriptor) : Log.Record :=
  ⟨.debug, "Parsed " ++ d.operation.name ++ " `" ++ d.name ++ "` with " ++
    Text.ofNat d.accessors.length ++ " fields."⟩

def records (text : Text) : List Log.Record :=
  match Heading.ofLines? (Text.lines text) with
  | none => []
  | some h =>
    let events := bodyEvents h (Text.lines text)
    Selection.records events ++ [record (ofOutline h (.ofEvents events))]

end Descriptor
end QueryDescriptor
