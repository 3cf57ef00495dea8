import QueryDescriptor.Document
import QueryDescriptor.Proofs.Accessor.Words
import QueryDescriptor.Proofs.Heading.Written
import QueryDescriptor.Proofs.Selection.Preorder
import QueryDescriptor.Proofs.Selection.Reorder

namespace QueryDescriptor.Descriptor

open Accessor (Target)
open Selection (Forest Outline closingText dotted)
open Text (contents)

variable {text other : Text} {first : HeadingLine} {root : Text} {f g : Forest} {k l : Nat}

def targetOf (operation : Operation) (root : RootSelection) (compounds : List Text) : Target :=
  ⟨root.object, operation, .ofVariable root.requiredVariable, compounds⟩

theorem exists_accessors
    (h : contents (Text.lines text) =
      first.text :: root :: (f.lines ++ List.replicate k closingText)) :
    ∃ d, ofText text = .ok d ∧ d.accessors = f.processed.sets.paths.map fun path =>
      (targetOf first.operation (.ofLine root) f.processed.sets.compounds).accessor
        (dotted path) := by
  obtain ⟨heading, hh, hoperation, _, hroot, hbody⟩ := Heading.exists_ofLines?_of_contents h
  have hr := f.reading_scan (n := heading.bodyStart + 1) hbody
  have htarget (compounds : List Text) :
      target heading compounds = targetOf first.operation (.ofLine root) compounds := by
    rw [target, Heading.rootObject, Heading.requiredVariable, hroot, hoperation]
    rfl
  refine ⟨ofOutline heading (.ofEvents (bodyEvents heading (Text.lines text))), ?_, ?_⟩
  · rw [ofText, ofText?, hh]
    rfl
  · rw [ofOutline, bodyEvents, Outline.ofEvents, hr.fields, hr.names]
    dsimp only
    rw [htarget, List.map_map]
    rfl

theorem accessor_congr {compounds others : List Text} (operation : Operation)
    (root : RootSelection) (h : ∀ a ∈ compounds, ∀ b ∈ compounds, a <+: b → a = b)
    (hm : ∀ name, name ∈ compounds ↔ name ∈ others) (dottedName : Text) :
    (targetOf operation root compounds).accessor dottedName =
      (targetOf operation root others).accessor dottedName := by
  have hs := Accessor.segmentsOf_congr h hm dottedName
  rw [Target.accessor, Target.accessor, targetOf, targetOf]
  dsimp only
  rw [hs]
  rfl

/-- A document that writes selections and one that writes them in another order inside the sets are
both described, and a leaf has the same accessor in both. -/
theorem accessors_perm (ha : f.Antichain) (hr : f.ReorderedInside g)
    (h : contents (Text.lines text) =
      first.text :: root :: (f.lines ++ List.replicate k closingText))
    (ho : contents (Text.lines other) =
      first.text :: root :: (g.lines ++ List.replicate l closingText)) :
    ∃ d e, ∃ accessorAt : List Text → Accessor, ofText text = .ok d ∧ ofText other = .ok e ∧
      d.accessors = f.processed.sets.paths.map accessorAt ∧
      e.accessors = g.processed.sets.paths.map accessorAt ∧
      f.processed.sets.paths.Perm g.processed.sets.paths ∧ d.accessors.Perm e.accessors := by
  obtain ⟨d, hd, hda⟩ := exists_accessors h
  obtain ⟨e, he, hea⟩ := exists_accessors ho
  have hscanned := hr.scanned.reordered
  have hsame := accessor_congr first.operation (.ofLine root) ha.compounds
    hscanned.mem_compounds_iff
  simp only [← hsame] at hea
  refine ⟨d, e, _, hd, he, hda, hea, hscanned.paths_perm, ?_⟩
  rw [hda, hea]
  exact hscanned.paths_perm.map _

def upsertHeading : HeadingLine where
  operation := .mutation
  gap := [' ']
  initial := 'U'
  more := "psert"
  tail := " \x7b"
  gap_blank := by decide
  initial_opens := by decide
  name_plain := by decide
  tail_apart := by decide

def upsertRoot : Text := "Device \x7b"

def upsertText : Text :=
  "mutation  Upsert \x7b\nDevice \x7b\nedges \x7b\nsite_id\n" ++
  "node_group \x7b\nserial\nname\n\x7d\nrole\n\x7d\n\x7d\n\x7d"

def reorderedText : Text :=
  "mutation  Upsert \x7b\nDevice \x7b\nedges \x7b\nrole\n" ++
  "node_group \x7b\nname\nserial\n\x7d\nsite_id\n\x7d\n\x7d\n\x7d"

def siteLeaf (rest : Forest) : Forest := .leaf (.of "site_id" (by decide)) (by decide) rest

def roleLeaf (rest : Forest) : Forest := .leaf (.of "role" (by decide)) (by decide) rest

def serialLeaf (rest : Forest) : Forest := .leaf (.of "serial" (by decide)) (by decide) rest

def nameLeaf (rest : Forest) : Forest := .leaf (.of "name" (by decide)) (by decide) rest

def groupSet (inner rest : Forest) : Forest := .set (.of "node_group" (by decide)) inner rest

theorem edges_plain : ("edges" : Text) ≠ [] ∧ ∀ c ∈ ("edges" : Text), isBlank c = false := by
  decide

def upsertForest : Forest :=
  .set (.of "edges" edges_plain)
    (siteLeaf (groupSet (serialLeaf (nameLeaf .nil)) (roleLeaf .nil))) .nil

def reorderedForest : Forest :=
  .set (.of "edges" edges_plain)
    (roleLeaf (groupSet (nameLeaf (serialLeaf .nil)) (siteLeaf .nil))) .nil

theorem upsertForest_reordered : upsertForest.ReorderedInside reorderedForest := by
  have hgroup : Forest.Reordered (serialLeaf (nameLeaf .nil)) (nameLeaf (serialLeaf .nil)) :=
    .perm (.swap (nameLeaf .nil) (serialLeaf .nil) [])
  have hedges : Forest.Reordered
      (siteLeaf (groupSet (nameLeaf (serialLeaf .nil)) (roleLeaf .nil)))
      (roleLeaf (groupSet (nameLeaf (serialLeaf .nil)) (siteLeaf .nil))) :=
    .perm (List.reverse_perm [roleLeaf .nil, groupSet (nameLeaf (serialLeaf .nil)) .nil,
      siteLeaf .nil])
  have hinside : Forest.Reordered
      (siteLeaf (groupSet (serialLeaf (nameLeaf .nil)) (roleLeaf .nil)))
      (siteLeaf (groupSet (nameLeaf (serialLeaf .nil)) (roleLeaf .nil))) :=
    .leaf _ _ (.set _ hgroup (.leaf _ _ .nil))
  exact .set _ (hinside.trans hedges) .nil

theorem accessors_perm_upsert : upsertForest.Antichain ∧
    upsertForest.ReorderedInside reorderedForest ∧
    ∃ d e, ofText upsertText = .ok d ∧ ofText reorderedText = .ok e ∧
      d.accessors.map Accessor.queryPath = ["Device.Edges[i].Site_id",
        "Device.Edges[i].Node_group.Serial", "Device.Edges[i].Node_group.Name",
        "Device.Edges[i].Role"] ∧
      e.accessors.map Accessor.queryPath = ["Device.Edges[i].Role",
        "Device.Edges[i].Node_group.Name", "Device.Edges[i].Node_group.Serial",
        "Device.Edges[i].Site_id"] ∧
      d.accessors.Perm e.accessors := by
  have ha : upsertForest.Antichain := by decide
  have hcontents : contents (Text.lines upsertText) = upsertHeading.text :: upsertRoot ::
      (upsertForest.lines ++ List.replicate 2 closingText) := by decide
  have hothers : contents (Text.lines reorderedText) = upsertHeading.text :: upsertRoot ::
      (reorderedForest.lines ++ List.replicate 2 closingText) := by decide
  have hpaths : (ofText upsertText).map (·.accessors.map Accessor.queryPath) =
      .ok ["Device.Edges[i].Site_id", "Device.Edges[i].Node_group.Serial",
        "Device.Edges[i].Node_group.Name", "Device.Edges[i].Role"] := by decide
  have hmore : (ofText reorderedText).map (·.accessors.map Accessor.queryPath) =
      .ok ["Device.Edges[i].Role", "Device.Edges[i].Node_group.Name",
        "Device.Edges[i].Node_group.Serial", "Device.Edges[i].Site_id"] := by decide
  obtain ⟨d, e, _, hd, he, _, _, _, hperm⟩ :=
    accessors_perm ha upsertForest_reordered hcontents hothers
  rw [hd] at hpaths
  rw [he] at hmore
  exact ⟨ha, upsertForest_reordered, d, e, hd, he, Except.ok.inj hpaths, Except.ok.inj hmore, hperm⟩

end QueryDescriptor.Descriptor
