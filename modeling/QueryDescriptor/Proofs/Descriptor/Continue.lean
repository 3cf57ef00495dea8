import QueryDescriptor.Document
import QueryDescriptor.Proofs.Descriptor.Compound
import QueryDescriptor.Proofs.Heading.Written
import QueryDescriptor.Proofs.Selection.Continue

namespace QueryDescriptor

open Selection (Diagnostic Event Idle Outline unclosed?)

variable {lines added : List Text} {s t : Text} {h : Heading}

theorem RootSelection.ofLines?_append (hr : (ofLines? lines).isSome) (added : List Text) :
    ofLines? (lines ++ added) = ofLines? lines ∧ height (lines ++ added) = height lines := by
  cases hc : Text.contents lines with
  | nil =>
    rw [(ofLines?_of_blank hc).1] at hr
    cases hr
  | cons text rest =>
    obtain ⟨blank, raw, below, rfl, hb, ht, hn, _⟩ := Text.exists_cons_of_contents hc
    obtain ⟨hroot, hheight⟩ := ofLines?_blank_append hb (ht ▸ hn) below
    obtain ⟨hmore, hfar⟩ := ofLines?_blank_append hb (ht ▸ hn) (below ++ added)
    rw [List.append_assoc, List.cons_append, hmore, hfar]
    exact ⟨hroot.symm, hheight.symm⟩

theorem RootSelection.height_le (lines : List Text) : height lines ≤ lines.length :=
  Nat.min_le_right _ _

theorem Heading.ofLines?_append (hh : ofLines? lines = some h) (hr : h.root.isSome)
    (added : List Text) :
    ofLines? (lines ++ added) = some h ∧ h.bodyStart ≤ lines.length := by
  induction lines generalizing h with
  | nil => cases hh
  | cons line below ih =>
    rw [List.cons_append, ofLines?]
    rw [ofLines?] at hh
    cases ho : Operation.ofLine? (Text.trim line) with
    | none =>
      -- A line that opens no operation only moves the heading down.
      rw [ho] at hh
      obtain ⟨inner, hi, rfl⟩ := Option.map_eq_some_iff.1 hh
      obtain ⟨ha, hs⟩ := ih hi hr
      dsimp only
      rw [ha]
      exact ⟨rfl, Nat.succ_le_succ hs⟩
    | some opened =>
      obtain ⟨operation, rest⟩ := opened
      rw [ho] at hh
      obtain ⟨name, hn, rfl⟩ := Option.map_eq_some_iff.1 hh
      obtain ⟨hroot, hheight⟩ := RootSelection.ofLines?_append hr added
      dsimp only
      rw [hn, hroot, hheight]
      exact ⟨rfl, Nat.succ_le_succ (RootSelection.height_le below)⟩

namespace Descriptor

/-- The second descriptor tells all that the first one tells, but for the sets that were left
open. -/
structure Continues (d e : Descriptor) : Prop where
  name : e.name = d.name
  operation : e.operation = d.operation
  requiredVariable : e.requiredVariable = d.requiredVariable
  shape : e.shape = d.shape
  rootObject : e.rootObject = d.rootObject
  fields : d.fields <+: e.fields
  diagnostics : ∃ kept depth, d.diagnostics = kept ++ (unclosed? depth).toList ∧
    kept <+: e.diagnostics

/-- What is described once the scan of `count` lines has stopped at line `stop`, before and after
lines are added: the first of them with content is told of if there was none above it. -/
structure Settled (stop count : Nat) (added : List Text) (d e : Descriptor) : Prop where
  fields : e.fields = d.fields
  accessors : e.accessors = d.accessors
  diagnostics :
    e.diagnostics = d.diagnostics ∧
        ((∃ i j, .trailingContentIgnored i j ∈ d.diagnostics) ∨ ∀ raw ∈ added, Idle raw) ∨
      (∀ i j, .trailingContentIgnored i j ∉ d.diagnostics) ∧
        ∃ idle raw below, added = idle ++ raw :: below ∧ (∀ l ∈ idle, Idle l) ∧ ¬ Idle raw ∧
          e.diagnostics =
            d.diagnostics ++ [.trailingContentIgnored stop (count + idle.length + 1)]

theorem ofText_of_heading (hh : Heading.ofLines? (Text.lines t) = some h) :
    ofText t = .ok (ofOutline h (.ofEvents (eventsOf t))) ∧
      eventsOf t = bodyEvents h (Text.lines t) := by
  have he : eventsOf t = bodyEvents h (Text.lines t) := by
    rw [eventsOf, hh]
  refine ⟨?_, he⟩
  rw [ofText, ofText?, hh, he]
  rfl

theorem bodyEvents_append (hs : h.bodyStart ≤ lines.length) (added : List Text) :
    bodyEvents h (lines ++ added) =
      Selection.scan .start (h.bodyStart + 1) (lines.drop h.bodyStart ++ added) := by
  rw [bodyEvents, List.drop_append_of_le_length hs]

theorem continues_of_scan {n : Nat} (h : Heading) (body added : List Text) :
    Continues (ofOutline h (.ofEvents (Selection.scan .start n body)))
      (ofOutline h (.ofEvents (Selection.scan .start n (body ++ added)))) := by
  obtain ⟨kept, depth, he, hp⟩ := Selection.exists_scan_append .start n body added
  obtain ⟨hfields, _, hdiagnostics⟩ := Outline.ofEvents_prefix hp
  rw [he, Outline.ofEvents_append_diagnosed]
  refine ⟨rfl, rfl, rfl, rfl, rfl, hfields, ?_⟩
  refine ⟨headingDiagnostics h ++ (Outline.ofEvents kept).diagnostics, depth, ?_, ?_⟩
  · exact (List.append_assoc _ _ _).symm
  · rw [ofOutline, List.prefix_append_right_inj]
    exact hdiagnostics

theorem compounds_prefix (n : Nat) (body added : List Text) :
    (Outline.ofLines n body).compounds <+: (Outline.ofLines n (body ++ added)).compounds := by
  obtain ⟨kept, depth, he, hp⟩ := Selection.exists_scan_append .start n body added
  rw [Outline.ofLines, he, Outline.ofEvents_append_diagnosed]
  exact (Outline.ofEvents_prefix hp).2.1

theorem mem_ofOutline_diagnostics {events : List Event} {i j : Nat}
    (hm : .trailingContentIgnored i j ∈ (ofOutline h (.ofEvents events)).diagnostics) :
    .diagnosed (.trailingContentIgnored i j) ∈ events := by
  rcases List.mem_append.1 hm with hm | hm
  · rw [headingDiagnostics] at hm
    split at hm
    · cases List.mem_singleton.1 hm
    · cases hm
  · exact Outline.mem_diagnostics_iff.1 hm

theorem settled_of_stopped {n stop count : Nat} {body : List Text} (h : Heading)
    (hs : .stopped stop ∈ Selection.scan .start n body) (hn : n + body.length = count + 1)
    (added : List Text) :
    Settled stop count added (ofOutline h (.ofEvents (Selection.scan .start n body)))
      (ofOutline h (.ofEvents (Selection.scan .start n (body ++ added)))) := by
  obtain ⟨kept, told, hkept, hscan⟩ := Selection.exists_scan_append_of_stopped hs
  -- The scan of the lines alone is the case that none are added.
  have hbody := hscan []
  rw [List.append_nil, Selection.firstContent?, Option.or_none] at hbody
  rw [hbody, hscan added, hn, Outline.ofEvents_append_diagnosed,
    Outline.ofEvents_append_diagnosed]
  refine ⟨rfl, rfl, ?_⟩
  cases told with
  | some first =>
    refine .inl ⟨rfl, .inl ⟨stop, first, ?_⟩⟩
    apply List.mem_append_right
    apply List.mem_append_right
    exact List.mem_singleton_self _
  | none =>
    cases hf : Selection.firstContent? (count + 1) added with
    | none => exact .inl ⟨rfl, .inr (Selection.idle_of_firstContent? hf)⟩
    | some first =>
      obtain ⟨idle, raw, below, ha, hi, hr, rfl⟩ := Selection.firstContent?_eq_some_iff.1 hf
      refine .inr ⟨?_, idle, raw, below, ha, hi, hr, ?_⟩
      · intro i j hm
        rw [Option.map_none, Option.toList_none, List.append_nil] at hm
        exact hkept i j (mem_ofOutline_diagnostics hm)
      · rw [Option.none_or, Option.map_some, Option.map_none, Nat.add_right_comm]
        simp only [ofOutline, Option.toList_some, Option.toList_none, List.append_nil,
          List.append_assoc]

/-- A document with a root line keeps its heading, its fields and its compound names when lines are
added below it. If its scan has stopped, its descriptor does not change, but that it may tell of the
first added line with content. -/
theorem ofText_append (hh : Heading.ofLines? (Text.lines s) = some h) (hr : h.root.isSome)
    (ht : Text.lines t = Text.lines s ++ added) :
    ∃ d e, ofText s = .ok d ∧ ofText t = .ok e ∧ d.Continues e ∧
      compoundsOf s <+: compoundsOf t ∧
      ∀ stop, .stopped stop ∈ eventsOf s →
        d.Settled stop (Text.lines s).length added e := by
  obtain ⟨ha, hstart⟩ := Heading.ofLines?_append hh hr added
  rw [← ht] at ha
  obtain ⟨hd, hs⟩ := ofText_of_heading hh
  obtain ⟨he, hm⟩ := ofText_of_heading ha
  rw [ht, bodyEvents_append hstart] at hm
  rw [bodyEvents] at hs
  refine ⟨_, _, hd, he, ?_, ?_, ?_⟩
  · rw [hs, hm]
    exact continues_of_scan h _ added
  · rw [compoundsOf, compoundsOf, hs, hm]
    exact compounds_prefix _ _ added
  · intro stop hstop
    rw [hs] at hstop
    rw [hs, hm]
    apply settled_of_stopped h hstop
    rw [List.length_drop]
    omega

def unfinishedText : Text := "query Q \x7b\n  R \x7b\n    edges \x7b\n      a_b\n"

def stoppedText : Text := unfinishedText ++ "    \x7d\n"

def stoppedHeading : Heading := ⟨.query, "q", some ⟨"R", none⟩, 2⟩

theorem ofText_append_unfinished :
    (∃ d e, ofText unfinishedText = .ok d ∧ ofText stoppedText = .ok e ∧ d.Continues e ∧
      d.diagnostics = [.unclosedSelectionSet 1] ∧ e.diagnostics = []) ∧
    ∃ d e, ofText stoppedText = .ok d ∧ ofText (stoppedText ++ "\x7d\n\nc_d\n") = .ok e ∧
      d.Settled 5 5 ["\x7d", [], "c_d"] e ∧
      e.diagnostics = [.trailingContentIgnored 5 8] := by
  have hunfinished : Heading.ofLines? (Text.lines unfinishedText) = some stoppedHeading := by
    decide
  have hstopped : Heading.ofLines? (Text.lines stoppedText) = some stoppedHeading := by decide
  have hopen : (ofText unfinishedText).map (·.diagnostics) = .ok [.unclosedSelectionSet 1] := by
    decide
  have hclosed : (ofText stoppedText).map (·.diagnostics) = .ok [] := by decide
  have hlate : (ofText (stoppedText ++ "\x7d\n\nc_d\n")).map (·.diagnostics) =
      .ok [.trailingContentIgnored 5 8] := by decide
  constructor
  · have hlines : Text.lines stoppedText =
        Text.lines unfinishedText ++ [("    \x7d" : Text)] := by decide
    obtain ⟨d, e, hd, he, hc, _, _⟩ := ofText_append hunfinished rfl hlines
    rw [hd] at hopen
    rw [he] at hclosed
    exact ⟨d, e, hd, he, hc, Except.ok.inj hopen, Except.ok.inj hclosed⟩
  · have hlines : Text.lines (stoppedText ++ "\x7d\n\nc_d\n") =
        Text.lines stoppedText ++ [("\x7d" : Text), [], "c_d"] := by decide
    obtain ⟨d, e, hd, he, _, _, hs⟩ := ofText_append hstopped rfl hlines
    rw [he] at hlate
    exact ⟨d, e, hd, he, hs 5 (by decide), Except.ok.inj hlate⟩

end Descriptor
end QueryDescriptor
