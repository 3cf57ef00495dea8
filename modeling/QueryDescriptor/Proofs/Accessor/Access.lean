import Mathlib.Data.List.Forall2
import QueryDescriptor.Accessor.Path
import QueryDescriptor.Proofs.Accessor.Words
import QueryDescriptor.Proofs.Text.Occurrence

namespace QueryDescriptor.Accessor

open Text (mentions)

variable {s t : Text} {segments words : List Text}

/-- Two texts mention nodes equally often, and identifiers too. -/
structure Alike (s t : Text) : Prop where
  nodes : mentions ['n', 'o', 'd', 'e'] s = mentions ['n', 'o', 'd', 'e'] t
  identifiers : mentions ['i', 'd'] s = mentions ['i', 'd'] t

namespace Alike

theorem trans {u : Text} (h : Alike s t) (hu : Alike t u) : Alike s u :=
  ⟨h.nodes.trans hu.nodes, h.identifiers.trans hu.identifiers⟩

theorem of_toLower (h : Text.toLower s = Text.toLower t) : Alike s t := by
  constructor
  · rw [mentions, mentions, h]
  · rw [mentions, mentions, h]

theorem ofPath_eq (h : Alike s t) : Access.ofPath s = Access.ofPath t := by
  obtain ⟨hn, hi⟩ := h
  rw [mentions, mentions] at hn hi
  rw [Access.ofPath, hn, hi]
  rfl

theorem join (h : List.Forall₂ Alike segments words) :
    Alike (Text.join ['.'] segments) (Text.join [Selection.separator] words) := by
  constructor
  · exact Text.mentions_join (by decide) (by decide) (by decide) (by decide) (by decide)
      (h.imp fun _ _ h => h.nodes)
  · exact Text.mentions_join (by decide) (by decide) (by decide) (by decide) (by decide)
      (h.imp fun _ _ h => h.identifiers)

theorem below (root : Text) (h : Alike s t) : Alike (root ++ '.' :: s) (root ++ '.' :: t) := by
  constructor
  · rw [Text.mentions_append_cons (by decide) (by decide) (by decide), h.nodes,
      Text.mentions_append_cons (by decide) (by decide) (by decide)]
  · rw [Text.mentions_append_cons (by decide) (by decide) (by decide), h.identifiers,
      Text.mentions_append_cons (by decide) (by decide) (by decide)]

theorem edges (shape : Shape) : Alike shape.edges edgesSegment := by
  cases shape with
  | list => exact ⟨by decide, by decide⟩
  | single => exact ⟨by decide, by decide⟩

theorem idCall : Alike idCall idSegment := ⟨by decide, by decide⟩

end Alike

theorem indexEdges_alike (shape : Shape) (h : List.Forall₂ Alike segments words) :
    List.Forall₂ Alike (indexEdges shape segments) words := by
  rw [indexEdges, List.forall₂_map_left_iff]
  refine h.imp fun s w hsw => ?_
  split
  · next he => exact (Alike.edges shape).trans (he ▸ hsw)
  · exact hsw

theorem readId_alike (h : List.Forall₂ Alike segments words) :
    List.Forall₂ Alike (readId segments) words := by
  induction h with
  | nil => exact .nil
  | @cons s w rest more hsw h ih =>
    cases h with
    | nil =>
      rw [readId]
      split
      · next he => exact .cons (Alike.idCall.trans (he ▸ hsw)) .nil
      · exact .cons hsw .nil
    | cons _ _ => exact .cons hsw ih

theorem segmentsOf_alike (compounds : List Text) {dottedName : Text}
    (h : ∀ c ∈ dottedName, c.toNat < 128) :
    List.Forall₂ Alike (segmentsOf compounds dottedName) (wordsOf compounds dottedName) := by
  rw [segmentsOf, List.forall₂_map_left_iff, List.forall₂_same]
  intro word hw
  apply Alike.of_toLower
  apply Text.toLower_upperFirst
  exact fun c hc => h c (mem_of_mem_wordsOf hw hc)

theorem queryPath_alike (t : Target) {dottedName : Text} (h : ∀ c ∈ dottedName, c.toNat < 128) :
    Alike (t.queryPath (segmentsOf t.compounds dottedName))
      (t.rootObject ++ '.' :: dottedName) := by
  have hsegments := segmentsOf_alike t.compounds h
  have hpath := Alike.join (readId_alike (indexEdges_alike t.shape hsegments))
  rw [← Selection.dotted, dotted_wordsOf] at hpath
  rw [Target.queryPath, List.append_assoc]
  exact hpath.below t.rootObject

/-- In a mutation the access of a field with an ASCII name is that of its root object and dotted
name, whatever compound names cut it and whatever the shape is; and the case of ASCII letters does
not count. -/
theorem access_eq (rootObject : Text) (shape : Shape) (compounds : List Text) (dottedName : Text)
    (h : ∀ c ∈ dottedName, c.toNat < 128) :
    (Target.accessor ⟨rootObject, .mutation, shape, compounds⟩ dottedName).access =
        some (.ofPath (rootObject ++ ['.'] ++ dottedName)) ∧
      ∀ path recased : Text, List.Forall₂ Recased path recased →
        Access.ofPath recased = Access.ofPath path := by
  refine ⟨?_, fun path recased hr => (Alike.of_toLower (Text.toLower_of_recased hr)).ofPath_eq⟩
  have halike := queryPath_alike ⟨rootObject, .mutation, shape, compounds⟩ h
  rw [List.append_assoc]
  exact congrArg some halike.ofPath_eq

theorem access_eq_relatedId :
    (∀ c ∈ ("edges_node_node_group_id" : Text), c.toNat < 128) ∧
      (Target.accessor ⟨"InfraDevice", .mutation, .single, ["node_group"]⟩
          "edges_node_node_group_id").access =
        some (.ofPath ("InfraDevice" ++ ['.'] ++ "edges_node_node_group_id")) ∧
      Access.ofPath ("InfraDevice" ++ ['.'] ++ "edges_node_node_group_id") = .modify ∧
      List.Forall₂ Recased ("Edges.Node_id" : Text) "eDGES.node_Id" ∧
      Access.ofPath "eDGES.node_Id" = Access.ofPath "Edges.Node_id" ∧
      Access.ofPath "Edges.Node_id" = .readOnly := by
  have hascii : ∀ c ∈ ("edges_node_node_group_id" : Text), c.toNat < 128 := by decide
  have hcase : List.Forall₂ Recased ("Edges.Node_id" : Text) "eDGES.node_Id" := by decide
  obtain ⟨haccess, hpath⟩ := access_eq "InfraDevice" .single ["node_group"] _ hascii
  exact ⟨hascii, haccess, by decide, hcase, hpath _ _ hcase, by decide⟩

end QueryDescriptor.Accessor
