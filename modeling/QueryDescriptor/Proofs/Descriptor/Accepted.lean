import QueryDescriptor.Proofs.Descriptor.Continue
import QueryDescriptor.Proofs.Descriptor.Keyword
import QueryDescriptor.Proofs.Heading.Opening

namespace QueryDescriptor

open Selection (Diagnostic Event)

namespace Selection

variable {s t : State} {n : Nat} {line : Line} {lines : List Text} {events : List Event}

theorem State.not_missing_of_step (h : s.step n line = some (t, events)) :
    .diagnosed .missingRootSelection ∉ events := by
  intro hm
  rcases step_cases h with ⟨name, _, _, rfl⟩ | ⟨_, _, _, rfl⟩ | ⟨_, _, rfl⟩ |
    ⟨text, _, _, _, rfl⟩ | ⟨text, _, _, _, rfl⟩
  · cases List.mem_singleton.1 hm
  · cases List.mem_singleton.1 hm
  · cases hm
  · cases List.mem_singleton.1 hm
  · cases List.mem_singleton.1 hm

theorem Run.not_missing (h : Run s n lines events t) :
    .diagnosed .missingRootSelection ∉ events := by
  induction h with
  | nil => exact List.not_mem_nil
  | cons hs _ ih =>
    intro hm
    rcases List.mem_append.1 hm with hm | hm
    · exact State.not_missing_of_step hs hm
    · exact ih hm

theorem not_missing_of_scan (s : State) (n : Nat) (lines : List Text) :
    .diagnosed .missingRootSelection ∉ scan s n lines := by
  intro hm
  rcases scan_cases s n lines with ⟨events, t, hr, he⟩ |
    ⟨above, raw, below, events, t, _, hr, _, _, he⟩
  · rw [he] at hm
    rcases List.mem_append.1 hm with hm | hm
    · exact hr.not_missing hm
    · obtain ⟨d, hd, hmissing⟩ := List.mem_map.1 hm
      cases hmissing
      cases (unclosed?_eq_some_iff.1 (Option.mem_toList.1 hd)).2
  · rw [he] at hm
    rcases List.mem_append.1 hm with hm | hm
    · exact hr.not_missing hm
    · rcases List.mem_cons.1 hm with hm | hm
      · cases hm
      · obtain ⟨d, hd, hmissing⟩ := List.mem_map.1 hm
        cases hmissing
        obtain ⟨_, _, hd⟩ := Option.map_eq_some_iff.1 (Option.mem_toList.1 hd)
        cases hd

end Selection

namespace Descriptor

variable {h : Heading} {o : Opening}

/-- The descriptor of lines whose heading stands at an opening. A missing root line is its first
diagnostic, and no other diagnostic tells of one. -/
structure Heads (h : Heading) (o : Opening) (d : Descriptor) : Prop where
  eq_ofOutline : d = ofOutline h (.ofEvents (bodyEvents h o.lines))
  missing_first_iff : d.diagnostics.head? = some .missingRootSelection ↔ h.root = none
  missing_not_mem_tail : .missingRootSelection ∉ d.diagnostics.tail

theorem heads_ofOutline (h : Heading) (o : Opening) :
    Heads h o (ofOutline h (.ofEvents (bodyEvents h o.lines))) := by
  have hscanned : .missingRootSelection ∉
      (Selection.Outline.ofEvents (bodyEvents h o.lines)).diagnostics :=
    fun hm => Selection.not_missing_of_scan _ _ _ (Selection.Outline.mem_diagnostics_iff.1 hm)
  constructor
  · rfl
  · rw [ofOutline, headingDiagnostics]
    cases h.root with
    | none => exact iff_of_true rfl rfl
    | some root =>
      apply iff_of_false
      · intro he
        exact hscanned (List.mem_of_mem_head? he)
      · intro he
        cases he
  · rw [ofOutline, headingDiagnostics]
    cases h.root with
    | none => exact hscanned
    | some root => exact fun hm => hscanned (List.mem_of_mem_tail hm)

theorem ofText_eq_error {text : Text} {error : DocumentError} :
    ofText text = .error error ↔ error = .missingOperationName ∧ ofText? text = none := by
  rw [ofText]
  cases ofText? text with
  | none => simp only [Except.error.injEq, and_true, eq_comm]
  | some d => simp only [reduceCtorEq, and_false]

/-- A document is refused just if no line opens an operation or the first that does names none, and
always for the same reason. A line with nothing but the word of an operation does not open it. What
is accepted has a heading that stands on its lines, with the body below. -/
theorem ofText_accepted (text : Text) :
    (∀ error, ofText text = .error error ↔
      error = .missingOperationName ∧ Heading.Refused (Text.lines text)) ∧
    (∀ word operation : Operation, ¬ operation.keyword <+: word.name) ∧
    ∀ d, ofText text = .ok d →
      ∃ (o : Opening) (h : Heading), Text.lines text = o.lines ∧ Heading.ofLines? o.lines = some h ∧
        h.Stands o ∧ Heads h o d := by
  constructor
  · intro error
    rw [ofText_eq_error, ofText?, Option.map_eq_none_iff, Heading.ofLines?_eq_none_iff]
  · constructor
    · intro word operation
      cases word with
      | query => cases operation <;> decide
      | mutation => cases operation <;> decide
    · intro d hd
      obtain ⟨h, hh, rfl⟩ := Option.map_eq_some_iff.1 (ofText_eq_ok.1 hd)
      obtain ⟨o, ho, hs⟩ := Heading.exists_stands hh
      rw [ho] at hh ⊢
      exact ⟨o, h, rfl, hh, hs, heads_ofOutline h o⟩

/-- The bracket on the first line that opens an operation is no name, and the line below it is not
read for one. -/
def unnamedOpening : Opening where
  above := ["query"]
  raw := " query (x)"
  below := ["query Late \x7b", "  R \x7b"]
  operation := .query
  rest := "(x)"
  above_plain := by
    intro l hl operation
    cases operation with
    | query => revert l; decide
    | mutation => revert l; decide
  trim_raw := by decide

def unnamedText : Text := "query\n query (x)\nquery Late \x7b\n  R \x7b\n"

def rootlessText : Text := "mutation\n\tmutation _m(\n\n \n"

theorem ofText_accepted_unnamed :
    ofText unnamedText = .error .missingOperationName ∧
      ∃ (d : Descriptor) (o : Opening) (h : Heading), ofText rootlessText = .ok d ∧
        Text.lines rootlessText = o.lines ∧ h.Stands o ∧ Heads h o d ∧
        d.diagnostics.head? = some .missingRootSelection ∧ ∀ l ∈ o.below, Text.allBlank l = true := by
  have hlines : Text.lines unnamedText = unnamedOpening.lines := by decide
  have hinitial : unnamedOpening.rest.find? (!isBlank ·) = some '(' := by decide
  have hdiagnostics : (ofText rootlessText).map (·.diagnostics) = .ok [.missingRootSelection] := by
    decide
  obtain ⟨d, hd⟩ : ∃ d, ofText? rootlessText = some d := Option.isSome_iff_exists.1 (by decide)
  have hok := ofText_eq_ok.2 hd
  obtain ⟨o, h, ho, _, hstands, hheads⟩ := (ofText_accepted rootlessText).2.2 d hok
  rw [hok] at hdiagnostics
  have hfirst : d.diagnostics.head? = some .missingRootSelection :=
    congrArg List.head? (Except.ok.inj hdiagnostics : d.diagnostics = [.missingRootSelection])
  constructor
  · apply ((ofText_accepted unnamedText).1 _).2
    rw [hlines]
    exact ⟨rfl, .unnamed unnamedOpening hinitial (by decide) (by decide)⟩
  · exact ⟨d, o, h, hok, ho, hstands, hheads, hfirst,
      hstands.root_eq_none_iff.1 (hheads.missing_first_iff.1 hfirst)⟩

end Descriptor
end QueryDescriptor
