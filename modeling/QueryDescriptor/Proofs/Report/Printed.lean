import QueryDescriptor.Describe
import QueryDescriptor.Proofs.Json.Pretty

namespace QueryDescriptor

open Files (FileTree)

theorem Json.ofText?_injective : Function.Injective ofText? := by
  intro s t h
  cases s with
  | none =>
    cases t with
    | none => rfl
    | some t => cases h
  | some s =>
    cases t with
    | none => cases h
    | some t => rw [text.inj h]

theorem Json.texts_injective : Function.Injective texts := by
  intro s t h
  exact List.map_injective_iff.2 (fun _ _ => text.inj) (list.inj h)

theorem Operation.name_injective : Function.Injective name := by
  intro o p h
  cases o with
  | query =>
    cases p with
    | query => rfl
    | mutation => cases h
  | mutation =>
    cases p with
    | query => cases h
    | mutation => rfl

theorem Accessor.Shape.name_injective : Function.Injective name := by
  intro s t h
  cases s with
  | list =>
    cases t with
    | list => rfl
    | single => cases h
  | single =>
    cases t with
    | list => cases h
    | single => rfl

theorem Accessor.Access.name_injective : Function.Injective name := by
  intro a b h
  cases a with
  | modify =>
    cases b with
    | modify => rfl
    | readOnly => cases h
  | readOnly =>
    cases b with
    | modify => cases h
    | readOnly => rfl

theorem Selection.Diagnostic.json_injective : Function.Injective json := by
  intro d e h
  cases d with
  | missingRootSelection =>
    cases e with
    | missingRootSelection => rfl
    | _ => simp [json] at h
  | selectionOutsideBlock line text =>
    cases e with
    | selectionOutsideBlock => simpa [json] using h
    | _ => simp [json] at h
  | trailingContentIgnored stoppedAt firstIgnored =>
    cases e with
    | trailingContentIgnored => simpa [json] using h
    | _ => simp [json] at h
  | unclosedSelectionSet depth =>
    cases e with
    | unclosedSelectionSet => simpa [json] using h
    | _ => simp [json] at h

theorem Accessor.json_injective : Function.Injective json := by
  intro a b h
  simp only [json, Json.record.injEq, List.cons.injEq, Prod.mk.injEq, true_and, and_true,
    Json.text.injEq] at h
  obtain ⟨haccess, hdotted, hinput, hbare, hresponse, hquery, hsegments⟩ := h
  have hvalues := Option.map_injective Access.name_injective (Json.ofText?_injective haccess)
  cases a
  cases b
  rw [mk.injEq]
  exact ⟨hdotted, Json.texts_injective hsegments, hquery, hbare, hinput, hresponse, hvalues⟩

theorem Descriptor.json_injective : Function.Injective json := by
  intro d e h
  simp only [json, Json.record.injEq, List.cons.injEq, Prod.mk.injEq, true_and, and_true,
    Json.text.injEq, Json.list.injEq] at h
  obtain ⟨haccessors, hdiagnostics, hfields, hname, hoperation, hvariable, hshape, hroot⟩ := h
  have hfield : Function.Injective fun name => Json.record [("dotted_name", .text name)] := by
    intro s t hst
    simpa only [Json.record.injEq, List.cons.injEq, Prod.mk.injEq, true_and, and_true,
      Json.text.injEq] using hst
  cases d
  cases e
  rw [mk.injEq]
  exact ⟨List.map_injective_iff.2 Accessor.json_injective haccessors,
    List.map_injective_iff.2 Selection.Diagnostic.json_injective hdiagnostics,
    List.map_injective_iff.2 hfield hfields, hname, Operation.name_injective hoperation,
    Json.ofText?_injective hvariable, Accessor.Shape.name_injective hshape, hroot⟩

theorem Report.json_injective : Function.Injective json := by
  intro r s h
  simp only [json, Json.record.injEq, List.cons.injEq, Prod.mk.injEq, true_and, and_true,
    Json.list.injEq] at h
  obtain ⟨hdataSources, hresources, hdocuments⟩ := h
  cases r
  cases s
  rw [mk.injEq]
  exact ⟨Json.texts_injective hdataSources, Json.texts_injective hresources,
    List.map_injective_iff.2 Descriptor.json_injective hdocuments⟩

/-- Two lists of descriptors whose reports are printed alike are the same. -/
theorem Describe.deliver_injective {d : Describe} (hd : d.outputDir = none) (t : FileTree) :
    Function.Injective fun documents => (d.deliver (.ofDocuments documents) t).answer := by
  intro documents others h
  simp only [deliver, hd, Answer.printed.injEq] at h
  exact congrArg Report.documents (Report.json_injective (Json.pretty_injective h))

def printing : Describe := ⟨["queries"], [".graphql"], none, false⟩

def outsideDescriptor (text : Text) (requiredVariable : Option Text) : Descriptor where
  accessors := []
  diagnostics := [.selectionOutsideBlock 3 text]
  fields := []
  name := "sites"
  operation := .query
  requiredVariable := requiredVariable
  shape := .list
  rootObject := "Site"

theorem deliver_injective_escapes : printing.outputDir = none ∧
    (printing.deliver (.ofDocuments [outsideDescriptor "\x01\"" none]) .empty).answer ≠
      (printing.deliver (.ofDocuments [outsideDescriptor "\\u0001\\\"" none]) .empty).answer ∧
    (printing.deliver (.ofDocuments [outsideDescriptor "x" none]) .empty).answer ≠
      (printing.deliver (.ofDocuments [outsideDescriptor "x" (some "null")]) .empty).answer := by
  have hinjective := Describe.deliver_injective (d := printing) rfl .empty
  exact ⟨rfl, hinjective.ne (by decide), hinjective.ne (by decide)⟩

end QueryDescriptor
