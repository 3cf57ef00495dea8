import QueryDescriptor.Descriptor
import QueryDescriptor.Json

namespace QueryDescriptor

namespace Selection.Diagnostic

def json : Diagnostic → Json
  | missingRootSelection => .record [("kind", .text "missing_root_selection")]
  | selectionOutsideBlock line text =>
    .record [("kind", .text "selection_outside_block"), ("line", .number line),
      ("text", .text text)]
  | trailingContentIgnored stoppedAt firstIgnored =>
    .record [("kind", .text "trailing_content_ignored"),
      ("stopped_at_line", .number stoppedAt),
      ("first_ignored_line", .number firstIgnored)]
  | unclosedSelectionSet depth =>
    .record [("kind", .text "unclosed_selection_set"), ("depth", .number depth)]

end Selection.Diagnostic

def Accessor.json (a : Accessor) : Json :=
  .record [
    ("access", .ofText? (a.access.map (·.name))),
    ("dotted_name", .text a.dottedName),
    ("input_object_path", .text a.inputPath),
    ("no_prefix_path", .text a.barePath),
    ("plain_object_path", .text a.responsePath),
    ("query_path", .text a.queryPath),
    ("segments", .texts a.segments)]

def Descriptor.json (d : Descriptor) : Json :=
  .record [
    ("derived_fields", .list (d.accessors.map (·.json))),
    ("diagnostics", .list (d.diagnostics.map (·.json))),
    ("fields", .list (d.fields.map fun name => .record [("dotted_name", .text name)])),
    ("name", .text d.name),
    ("operation_kind", .text d.operation.name),
    ("required_variable_name", .ofText? d.requiredVariable),
    ("response_shape", .text d.shape.name),
    ("root_object_name", .text d.rootObject)]

structure Report where
  dataSources : List Text
  resources : List Text
  documents : List Descriptor
  deriving DecidableEq

namespace Report

def namesOf (operation : Operation) (documents : List Descriptor) : List Text :=
  (documents.filter (·.operation = operation)).map (·.name)

/-- The report on a list of documents: queries are data sources, and mutations resources. -/
def ofDocuments (documents : List Descriptor) : Report :=
  ⟨namesOf .query documents, namesOf .mutation documents, documents⟩

/-- The names among `names` that were met before, each once, in the order in which they are met
again. `seen` holds the names above and `found` the result so far. -/
def repeatsFrom (seen found : List Text) : List Text → List Text
  | [] => found
  | name :: names =>
    if name ∈ seen ∧ name ∉ found then repeatsFrom (name :: seen) (found ++ [name]) names
    else repeatsFrom (name :: seen) found names

def sharedNames (r : Report) : List Text := repeatsFrom [] [] (r.documents.map (·.name))

def json (r : Report) : Json :=
  .record [
    ("data_sources", .texts r.dataSources),
    ("resources", .texts r.resources),
    ("documents", .list (r.documents.map (·.json)))]

def registration (r : Report) : Json :=
  .record [("data_sources", .texts r.dataSources), ("resources", .texts r.resources)]

end Report
end QueryDescriptor
