import Mathlib.Data.List.Forall2
import QueryDescriptor.Descriptor
import QueryDescriptor.Proofs.Accessor.Words
import QueryDescriptor.Proofs.Heading.Written
import QueryDescriptor.Proofs.Selection.Preorder

namespace QueryDescriptor

open Accessor (Shape Target indexEdges readId unwrap)
open Selection (Forest Name Outline closingText dotted separator)
open Text (contents)

namespace Selection.Forest

/-- No name of a set and no name with a separator starts another name with a separator. -/
def Unambiguous (f : Forest) : Prop :=
  ∀ b ∈ f.names, separator ∈ b →
    (∀ a ∈ f.setNames, a <+: b → a = b) ∧ ∀ a ∈ f.names, separator ∈ a → a <+: b → a = b

instance (f : Forest) : Decidable f.Unambiguous := List.decidableBAll _ f.names

theorem Unambiguous.wordsOf_dotted {f : Forest} (hu : f.Unambiguous) {path : List Text}
    (hp : path ∈ f.paths) : Accessor.wordsOf f.compounds (dotted path) = path := by
  apply Accessor.wordsOf_dotted (paths_ne_nil hp)
  · intro name hn c hc hpre
    obtain ⟨hmem, hs⟩ := mem_compounds_iff.1 hc
    exact (hu c hmem hs).1 name (mem_setNames_of_mem_dropLast hp name hn) hpre
  · intro name hn hs
    exact mem_compounds_iff.2 ⟨mem_names_of_mem_path hp name hn, hs⟩
  · intro name hn hs c hc hpre
    obtain ⟨hmem, hsc⟩ := mem_compounds_iff.1 hc
    exact (hu name (mem_names_of_mem_path hp name hn) hs).2 c hmem hsc hpre

theorem ofLines_tree (top : Name) (inner : Forest) (k n : Nat) {lines : List Text}
    (h : contents lines = (set top inner nil).lines ++ List.replicate k closingText) :
    Outline.ofLines n lines =
      ⟨(set top inner nil).paths.map dotted, (set top inner nil).compounds, []⟩ := by
  have hr := (set top inner nil).reading_scan (n := n) h
  rw [Outline.ofLines, Outline.ofEvents, hr.fields, hr.names, hr.diagnostics, trailing,
    passedOver_tree, processed_tree]
  rfl

end Selection.Forest

namespace Descriptor

/-- The accessor of a leaf, by the names on its path. -/
structure LeadsTo (operation : Operation) (root : RootSelection) (path : List Text)
    (a : Accessor) : Prop where
  dottedName : a.dottedName = dotted path
  segments : a.segments = path.map Text.upperFirst
  queryPath : a.queryPath = root.object ++ ['.'] ++ Accessor.path
    (readId (indexEdges (.ofVariable root.requiredVariable) (path.map Text.upperFirst)))
  barePath : a.barePath = Accessor.path (readId (unwrap (path.map Text.upperFirst)))
  inputPath : a.inputPath = Accessor.path (unwrap (path.map Text.upperFirst))
  responsePath : a.responsePath =
    Accessor.path (readId ((path.map Text.upperFirst).drop Accessor.envelopeDepth))
  access : a.access = match operation with
    | .mutation => some (.ofPath a.queryPath)
    | .query => none

/-- A descriptor of a document with the given heading lines and selections. -/
structure Describes (first : HeadingLine) (root : RootLine) (f : Forest) (d : Descriptor) :
    Prop where
  operation : d.operation = first.operation
  name : d.name = first.name
  rootObject : d.rootObject = root.selection.object
  requiredVariable : d.requiredVariable = root.selection.requiredVariable
  shape : d.shape = .ofVariable root.selection.requiredVariable
  diagnostics : d.diagnostics = []
  fields : d.fields = f.paths.map dotted
  accessors : List.Forall₂ (LeadsTo first.operation root.selection) f.paths d.accessors

theorem leadsTo_accessor {f : Forest} (hu : f.Unambiguous) {path : List Text}
    (hp : path ∈ f.paths) (operation : Operation) (root : RootSelection) :
    LeadsTo operation root path (Target.accessor
      ⟨root.object, operation, .ofVariable root.requiredVariable, f.compounds⟩ (dotted path)) := by
  have hs : Accessor.segmentsOf f.compounds (dotted path) = path.map Text.upperFirst := by
    rw [Accessor.segmentsOf, hu.wordsOf_dotted hp]
  refine ⟨rfl, hs, ?_, ?_, ?_, ?_, rfl⟩
  · rw [← hs]
    rfl
  · rw [← hs]
    rfl
  · rw [← hs]
    rfl
  · rw [← hs]
    rfl

/-- A document that writes a heading and one unambiguous tree, in any layout, has a descriptor
without diagnostics and with one accessor for each leaf of the tree. -/
theorem exists_describes {text : Text} {first : HeadingLine} {root : RootLine} {top : Name}
    {inner : Forest} {k : Nat} (hu : (Forest.set top inner .nil).Unambiguous)
    (h : contents (Text.lines text) = first.text :: root.text ::
      ((Forest.set top inner .nil).lines ++ List.replicate k closingText)) :
    ∃ d, ofText? text = some d ∧ Describes first root (.set top inner .nil) d := by
  obtain ⟨heading, hh, hoperation, hname, hroot, hbody⟩ := Heading.exists_ofLines? h
  have hobject : heading.rootObject = root.selection.object := by
    rw [Heading.rootObject, hroot]
    rfl
  have hvariable : heading.requiredVariable = root.selection.requiredVariable := by
    rw [Heading.requiredVariable, hroot]
    rfl
  have houtline := Forest.ofLines_tree top inner k (heading.bodyStart + 1) hbody
  rw [Outline.ofLines] at houtline
  refine ⟨ofOutline heading ⟨(Forest.set top inner .nil).paths.map dotted,
    (Forest.set top inner .nil).compounds, []⟩, ?_, hoperation, hname, hobject, hvariable,
    congrArg Shape.ofVariable hvariable, ?_, ?_, ?_⟩
  · rw [ofText?, hh, Option.map_some, bodyEvents, houtline]
  · rw [ofOutline, headingDiagnostics, hroot]
    rfl
  · rfl
  · change List.Forall₂ _ _ (((Forest.set top inner .nil).paths.map dotted).map _)
    rw [List.map_map, List.forall₂_map_right_iff, List.forall₂_same]
    intro path hp
    rw [target, hobject, hvariable, hoperation]
    exact leadsTo_accessor hu hp first.operation root.selection

def lookupText : Text :=
  "query Device($device_name: String!) \x7b\n\n  InfraDevice(name__value: $device_name) \x7b\n" ++
  "    edges \x7b\n      node \x7b\n        id\n\n  primary_address \x7b\n    ip__v4\n  \x7d\n" ++
  "      \x7d\n    \x7d\n  \x7d\n\x7d\n"

def lookupHeading : HeadingLine where
  operation := .query
  gap := []
  initial := 'D'
  more := "evice"
  tail := "($device_name: String!) \x7b"
  gap_blank := by decide
  initial_opens := by decide
  name_plain := by decide
  tail_apart := by decide

def lookupRoot : RootLine :=
  .lookup (.of "InfraDevice" (by decide))
    { argument := "name__value"
      gap := " "
      name := "device_name"
      closers := ")"
      argument_plain := by decide
      gap_blank := by decide
      name_ne_nil := by decide
      name_not_blank := by decide
      name_plain := by decide
      name_ends := by decide
      closers_close := by decide }
    " \x7b" (by decide) (by decide) (by decide)

def lookupTop : Name := .of "edges" (by decide)

def lookupInner : Forest :=
  .set (.of "node" (by decide))
    (.leaf (.of "id" (by decide)) (by decide)
      (.set (.of "primary_address" (by decide))
        (.leaf (.of "ip__v4" (by decide)) (by decide) .nil) .nil)) .nil

theorem exists_describes_lookup : ∃ d, ofText? lookupText = some d ∧
    Describes lookupHeading lookupRoot (.set lookupTop lookupInner .nil) d ∧
    d.accessors.map Accessor.queryPath = ["InfraDevice.Edges[0].Node.GetId()",
      "InfraDevice.Edges[0].Node.Primary_address.Ip__v4"] := by
  have hcontents : contents (Text.lines lookupText) = lookupHeading.text :: lookupRoot.text ::
      ((Forest.set lookupTop lookupInner .nil).lines ++ List.replicate 2 closingText) := by decide
  have hpaths : (ofText? lookupText).map (·.accessors.map Accessor.queryPath) =
      some (["InfraDevice.Edges[0].Node.GetId()",
        "InfraDevice.Edges[0].Node.Primary_address.Ip__v4"] : List Text) := by decide
  obtain ⟨d, hd, hdescribes⟩ := exists_describes (by decide) hcontents
  rw [hd] at hpaths
  exact ⟨d, hd, hdescribes, Option.some.inj hpaths⟩

end Descriptor
end QueryDescriptor
