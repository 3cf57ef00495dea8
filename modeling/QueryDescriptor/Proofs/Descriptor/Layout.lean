import QueryDescriptor.Document
import QueryDescriptor.Proofs.Heading.Written
import QueryDescriptor.Proofs.Selection.Layout

namespace QueryDescriptor

open Text (CutAlike Facing contents)

variable {lines others texts : List Text}

theorem RootSelection.ofLines?_layout (h : contents lines = contents others) :
    ofLines? lines = ofLines? others ∧ CutAlike lines others (height lines) (height others) := by
  cases ht : contents lines with
  | nil =>
    obtain ⟨hl, hk⟩ := ofLines?_of_blank ht
    obtain ⟨ho, hm⟩ := ofLines?_of_blank (h.symm.trans ht)
    have hcut : CutAlike (lines ++ []) (others ++ []) lines.length others.length := .intro h rfl
    rw [List.append_nil, List.append_nil] at hcut
    rw [hl, ho, hk, hm]
    exact ⟨rfl, hcut⟩
  | cons text rest =>
    obtain ⟨blank, raw, below, rfl, hb, hr, hn, hbelow⟩ := Text.exists_cons_of_contents ht
    obtain ⟨gap, facing, back, rfl, hg, hf, _, hback⟩ :=
      Text.exists_cons_of_contents (h.symm.trans ht)
    obtain ⟨hl, hk⟩ := ofLines?_blank_append hb (hr ▸ hn) below
    obtain ⟨ho, hm⟩ := ofLines?_blank_append hg (hf ▸ hn) back
    have hcut : CutAlike ([] ++ below) ([] ++ back) 0 0 := .intro rfl (hbelow.trans hback.symm)
    rw [hl, ho, hk, hm, hr, hf, Nat.add_comm blank.length, Nat.add_comm gap.length]
    exact ⟨rfl, hcut.next hb hg (hr.trans hf.symm)⟩

theorem Heading.ofLines?_layout (h : contents lines = texts) (ho : contents others = texts) :
    (ofLines? lines = none ∧ ofLines? others = none) ∨
      ∃ heading k, ofLines? lines = some heading ∧
        ofLines? others = some { heading with bodyStart := k } ∧
        CutAlike lines others heading.bodyStart k := by
  induction texts generalizing lines others with
  | nil =>
    have hl := ofLines?_blank_append h []
    have hr := ofLines?_blank_append ho []
    rw [List.append_nil] at hl hr
    exact .inl ⟨hl, hr⟩
  | cons text texts ih =>
    obtain ⟨blank, raw, below, rfl, hb, hr, _, hbelow⟩ := Text.exists_cons_of_contents h
    obtain ⟨gap, facing, rest, rfl, hg, hf, _, hrest⟩ := Text.exists_cons_of_contents ho
    have htrim : Text.trim raw = Text.trim facing := hr.trans hf.symm
    rw [ofLines?_blank_append hb, ofLines?_blank_append hg, ofLines?, ofLines?, htrim]
    cases Operation.ofLine? (Text.trim facing) with
    | none =>
      rcases ih hbelow hrest with ⟨hn, hm⟩ | ⟨heading, k, hn, hm, hcut⟩
      · rw [hn, hm]
        exact .inl ⟨rfl, rfl⟩
      · rw [hn, hm]
        exact .inr ⟨_, _, rfl, rfl, hcut.next hb hg htrim⟩
    | some opened =>
      obtain ⟨operation, after⟩ := opened
      obtain ⟨hroot, hcut⟩ := RootSelection.ofLines?_layout (hbelow.trans hrest.symm)
      dsimp only
      cases name? after with
      | none => exact .inl ⟨rfl, rfl⟩
      | some name =>
        rw [hroot]
        exact .inr ⟨_, _, rfl, rfl, hcut.next hb hg htrim⟩

namespace Descriptor

/-- Descriptors that differ in nothing but the line numbers of their diagnostics, which are
related. -/
structure Matches (R : Nat → Nat → Prop) (d e : Descriptor) : Prop where
  name : d.name = e.name
  operation : d.operation = e.operation
  requiredVariable : d.requiredVariable = e.requiredVariable
  shape : d.shape = e.shape
  rootObject : d.rootObject = e.rootObject
  fields : d.fields = e.fields
  accessors : d.accessors = e.accessors
  diagnostics : List.Forall₂ (Selection.Diagnostic.Matches R) d.diagnostics e.diagnostics

theorem headingDiagnostics_matches (R : Nat → Nat → Prop) (h : Heading) :
    List.Forall₂ (Selection.Diagnostic.Matches R) (headingDiagnostics h)
      (headingDiagnostics h) := by
  rw [headingDiagnostics]
  split
  · exact .cons .missingRootSelection .nil
  · exact .nil

theorem bodyEvents_matches {h : Heading} {k : Nat} (hc : CutAlike lines others h.bodyStart k) :
    List.Forall₂ (Selection.Event.Matches (Facing 1 1 lines others)) (bodyEvents h lines)
      (bodyEvents { h with bodyStart := k } others) := by
  obtain ⟨operation, name, root, start⟩ := h
  dsimp only at hc
  cases hc with
  | @intro above other below rest ha hb =>
    have hscan := Selection.scan_matches (s := .start) (m := above.length + 1)
      (n := other.length + 1) rfl hb.symm
    rw [bodyEvents, bodyEvents]
    dsimp only
    rw [List.drop_left, List.drop_left]
    refine hscan.imp fun a b hab => hab.mono fun i j hij => ?_
    rw [Nat.add_comm above.length, Nat.add_comm other.length] at hij
    exact hij.below ha

theorem ofOutline_matches {R : Nat → Nat → Prop} {events more : List Selection.Event} (h : Heading)
    (k : Nat) (he : List.Forall₂ (Selection.Event.Matches R) events more) :
    (ofOutline h (.ofEvents events)).Matches R
      (ofOutline { h with bodyStart := k } (.ofEvents more)) := by
  obtain ⟨hfields, hcompounds, hdiagnostics⟩ := Selection.outline_of_matches he
  refine ⟨rfl, rfl, rfl, rfl, rfl, hfields, ?_, ?_⟩
  · rw [ofOutline, hfields, hcompounds]
    rfl
  · exact List.rel_append (headingDiagnostics_matches R h) hdiagnostics

theorem ofText?_layout {s t : Text} (h : contents (Text.lines s) = contents (Text.lines t)) :
    (ofText? s = none ∧ ofText? t = none) ∨ ∃ d e, ofText? s = some d ∧ ofText? t = some e ∧
      d.Matches (Facing 1 1 (Text.lines s) (Text.lines t)) e := by
  rw [ofText?, ofText?]
  rcases Heading.ofLines?_layout h rfl with ⟨hs, ht⟩ | ⟨heading, k, hs, ht, hcut⟩
  · rw [hs, ht]
    exact .inl ⟨rfl, rfl⟩
  · rw [hs, ht]
    exact .inr ⟨_, _, rfl, rfl, ofOutline_matches heading k (bodyEvents_matches hcut)⟩

/-- Documents with the same trimmed lines, blank ones left out, are refused for the same reason or
have descriptors that differ in nothing but line numbers, and those name facing lines. Other blanks
around lines, other ends of lines and other blank lines leave the trimmed lines as they are. -/
theorem ofText_layout (s t : Text) :
    (contents (Text.lines s) = contents (Text.lines t) →
      (∃ error, ofText s = .error error ∧ ofText t = .error error) ∨
        ∃ d e, ofText s = .ok d ∧ ofText t = .ok e ∧
          d.Matches (Facing 1 1 (Text.lines s) (Text.lines t)) e) ∧
    (Text.Relaid s t → contents (Text.lines s) = contents (Text.lines t)) := by
  refine ⟨fun h => ?_, Text.Relaid.contents_lines⟩
  rw [ofText, ofText]
  rcases ofText?_layout h with ⟨hs, ht⟩ | ⟨d, e, hs, ht, hmatch⟩
  · rw [hs, ht]
    exact .inl ⟨_, rfl, rfl⟩
  · rw [hs, ht]
    exact .inr ⟨d, e, rfl, rfl, hmatch⟩

def denseText : Text := "query Q \x7b\nR \x7b\nx\n\x7d\n\x7d"

def spacedText : Text := "\r\n query Q \x7b\r\n\n  R \x7b\r\n\tx\r\n \r\n  \x7d\n\x7d\n"

theorem ofText_layout_spaced :
    contents (Text.lines denseText) = contents (Text.lines spacedText) ∧
      (∃ d e, ofText denseText = .ok d ∧ ofText spacedText = .ok e ∧
        d.diagnostics = [.selectionOutsideBlock 3 "x"] ∧
        e.diagnostics = [.selectionOutsideBlock 5 "x"] ∧
        d.Matches (Facing 1 1 (Text.lines denseText) (Text.lines spacedText)) e) ∧
      contents (Text.lines (denseText ++ [])) = contents (Text.lines (denseText ++ ['\n'])) := by
  have hsame : contents (Text.lines denseText) = contents (Text.lines spacedText) := by decide
  refine ⟨hsame, ?_, (ofText_layout _ _).2 (.ending denseText rfl rfl)⟩
  have hdense : (ofText denseText).map (·.diagnostics) = .ok [.selectionOutsideBlock 3 "x"] := by
    decide
  have hspaced : (ofText spacedText).map (·.diagnostics) = .ok [.selectionOutsideBlock 5 "x"] := by
    decide
  rcases (ofText_layout denseText spacedText).1 hsame with ⟨error, hd, _⟩ | ⟨d, e, hd, he, hmatch⟩
  · rw [hd] at hdense
    cases hdense
  · rw [hd] at hdense
    rw [he] at hspaced
    exact ⟨d, e, hd, he, Except.ok.inj hdense, Except.ok.inj hspaced, hmatch⟩

end Descriptor
end QueryDescriptor
