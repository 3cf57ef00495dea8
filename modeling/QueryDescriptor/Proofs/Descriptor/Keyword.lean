import QueryDescriptor.Document
import QueryDescriptor.Proofs.Heading.Keyword

namespace QueryDescriptor.Descriptor

open Accessor (Access)

variable {text : Text} {d : Descriptor}

def asMutation (d : Descriptor) : Descriptor where
  __ := d
  operation := .mutation
  accessors := d.accessors.map fun a => { a with access := some (.ofPath a.queryPath) }

/-- The accessors are divided into those that are writable and those that are read-only, and both
lists keep their order. -/
structure Divided (d : Descriptor) : Prop where
  writable_sublist : d.writable.Sublist d.accessors
  readOnly_sublist : d.readOnly.Sublist d.accessors
  disjoint : d.writable.Disjoint d.readOnly
  perm : (d.writable ++ d.readOnly).Perm d.accessors

theorem filter_access_eq_nil (h : ∀ a ∈ d.accessors, a.access = none) (p : Access → Bool) :
    (d.accessors.filter fun a => a.access.any p) = [] := by
  rw [List.filter_eq_nil_iff]
  intro a ha
  rw [h a ha]
  exact Bool.false_ne_true

theorem divided_of_access (h : ∀ a ∈ d.accessors, ∃ access, a.access = some access) : d.Divided := by
  have hreadOnly : d.readOnly = d.accessors.filter fun a => !a.access.any (·.isModify) := by
    apply List.filter_congr
    intro a ha
    obtain ⟨access, he⟩ := h a ha
    rw [he]
    rfl
  refine ⟨List.filter_sublist, List.filter_sublist, ?_, ?_⟩
  · intro a hw hr
    rw [hreadOnly, List.mem_filter, (List.mem_filter.1 hw).2] at hr
    exact Bool.false_ne_true hr.2
  · rw [hreadOnly]
    exact List.filter_append_perm _ _

theorem asMutation_divided (d : Descriptor) : d.asMutation.Divided := by
  apply divided_of_access
  intro a ha
  obtain ⟨b, _, rfl⟩ := List.mem_map.1 ha
  exact ⟨_, rfl⟩

theorem asMutation_dottedNames (d : Descriptor) :
    d.asMutation.accessors.map Accessor.dottedName = d.accessors.map Accessor.dottedName := by
  rw [asMutation, List.map_map]
  rfl

theorem ofOutline_dottedNames (h : Heading) (o : Selection.Outline) :
    (ofOutline h o).accessors.map Accessor.dottedName = (ofOutline h o).fields := by
  rw [ofOutline, List.map_map]
  exact List.map_id _

theorem ofOutline_query_access (h : Heading) (o : Selection.Outline) :
    ∀ a ∈ (ofOutline { h with operation := .query } o).accessors, a.access = none := by
  intro a ha
  obtain ⟨name, _, rfl⟩ := List.mem_map.1 ha
  rfl

theorem ofOutline_mutation (h : Heading) (o : Selection.Outline) :
    ofOutline { h with operation := .mutation } o =
      (ofOutline { h with operation := .query } o).asMutation := by
  rw [ofOutline, ofOutline, asMutation]
  dsimp only
  rw [List.map_map]
  rfl

theorem ofText?_keyword (p : Declaration) :
    (∀ operation, ofText? (p.text operation) = none) ∨
      ∃ (h : Heading) (o : Selection.Outline), ∀ operation,
        ofText? (p.text operation) = some (ofOutline { h with operation := operation } o) := by
  obtain ⟨line, rest, hline, hlines⟩ := p.exists_lines
  have hheading := Heading.ofLines?_keyword p.above_plain p.indent_blank hline rest
  cases hname : Heading.name? (Text.trimEnd line) with
  | none =>
    left
    intro operation
    rw [ofText?, hlines, hheading, hname]
    rfl
  | some name =>
    right
    refine ⟨⟨.query, name, RootSelection.ofLines? rest,
      (Text.lines p.above).length + (RootSelection.height rest + 1)⟩, .ofLines
        ((Text.lines p.above).length + (RootSelection.height rest + 1) + 1)
        (rest.drop (RootSelection.height rest)), ?_⟩
    intro operation
    rw [ofText?, hlines, hheading, hname, Option.map_some, Option.map_some, bodyEvents,
      List.drop_length_add_append, List.drop_succ_cons]
    rfl

theorem ofText_eq_ok : ofText text = .ok d ↔ ofText? text = some d := by
  rw [ofText]
  cases ofText? text with
  | none => exact iff_of_false (fun h => by cases h) (fun h => by cases h)
  | some e => rw [Except.ok.injEq, Option.some.injEq]

/-- A document that is described opens its operation with a keyword. With the keyword of a mutation
in place of that of a query, it is described too. -/
theorem ofText_keyword (h : ofText text = .ok d) :
    (∃ p : Declaration, text = p.text d.operation) ∧
      d.accessors.map Accessor.dottedName = d.fields ∧
      ∀ p : Declaration, text = p.text .query →
        d.operation = .query ∧ ofText (p.text .mutation) = .ok d.asMutation ∧
        (∀ a ∈ d.accessors, a.access = none) ∧ d.writable = [] ∧ d.readOnly = [] ∧
        d.asMutation.Divided ∧
        d.asMutation.accessors.map Accessor.dottedName = d.asMutation.fields := by
  have hd := ofText_eq_ok.1 h
  obtain ⟨heading, hheading, rfl⟩ := Option.map_eq_some_iff.1 hd
  have hfields := ofOutline_dottedNames heading (.ofEvents (bodyEvents heading (Text.lines text)))
  refine ⟨Declaration.exists_of_heading hheading, hfields, ?_⟩
  rintro p rfl
  rcases ofText?_keyword p with hnone | ⟨written, o, hsome⟩
  · rw [hnone] at hd
    cases hd
  · rw [hsome, Option.some.injEq] at hd
    have haccess := ofOutline_query_access written o
    have hmutation := hsome .mutation
    rw [ofOutline_mutation] at hmutation
    rw [← hd]
    refine ⟨rfl, ofText_eq_ok.2 hmutation, haccess, filter_access_eq_nil haccess (·.isModify),
      filter_access_eq_nil haccess (!·.isModify), asMutation_divided _, ?_⟩
    rw [asMutation_dottedNames]
    exact ofOutline_dottedNames _ o

def sitesDeclaration : Declaration where
  above := "# a query of all sites\n\n"
  indent := "\t "
  below := " Sites($n: Int) \x7b\n  Site(first: $n) \x7b\n    edges \x7b\n      node \x7b\n" ++
    "        id\n        name\n        parent_node \x7b\n          id\n        \x7d\n" ++
    "      \x7d\n    \x7d\n  \x7d\n\x7d\nlate\n"
  above_ends := by decide
  above_plain := by
    intro raw hr operation
    cases operation with
    | query => revert raw; decide
    | mutation => revert raw; decide
  indent_blank := by decide
  indent_line := by decide
  below_written := by decide

theorem ofText_keyword_sites : ∃ d, ofText (sitesDeclaration.text .query) = .ok d ∧
    d.fields = ["edges_node_id", "edges_node_name", "edges_node_parent_node_id"] ∧
    d.writable = [] ∧ ofText (sitesDeclaration.text .mutation) = .ok d.asMutation ∧
    d.asMutation.Divided ∧
    d.asMutation.writable.map Accessor.dottedName =
      ["edges_node_name", "edges_node_parent_node_id"] ∧
    d.asMutation.readOnly.map Accessor.dottedName = ["edges_node_id"] := by
  have hfields : (ofText (sitesDeclaration.text .query)).map (·.fields) =
      .ok ["edges_node_id", "edges_node_name", "edges_node_parent_node_id"] := by decide
  have hwritable : (ofText (sitesDeclaration.text .mutation)).map
      (·.writable.map Accessor.dottedName) =
      .ok ["edges_node_name", "edges_node_parent_node_id"] := by decide
  have hreadOnly : (ofText (sitesDeclaration.text .mutation)).map
      (·.readOnly.map Accessor.dottedName) = .ok ["edges_node_id"] := by decide
  obtain ⟨d, hd⟩ : ∃ d, ofText? (sitesDeclaration.text .query) = some d :=
    Option.isSome_iff_exists.1 (by decide)
  have hquery := ofText_eq_ok.2 hd
  obtain ⟨_, _, hreplaced⟩ := ofText_keyword hquery
  obtain ⟨_, hmutation, _, hnone, _, hdivided, _⟩ := hreplaced sitesDeclaration rfl
  rw [hquery] at hfields
  rw [hmutation] at hwritable hreadOnly
  exact ⟨d, hquery, Except.ok.inj hfields, hnone, hmutation, hdivided, Except.ok.inj hwritable,
    Except.ok.inj hreadOnly⟩

end QueryDescriptor.Descriptor
