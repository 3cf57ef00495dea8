import QueryDescriptor.Proofs.Heading.Written
import QueryDescriptor.Proofs.Text.Layout
import QueryDescriptor.Proofs.Text.Lines

namespace QueryDescriptor

open Text (EndsLine allBlank)

/-- What stands around the keyword on the first line of a text that opens an operation: lines above
that open none, blanks before it on its line, and below it the rest of its line, which is not blank,
and all other lines. -/
structure Declaration where
  above : Text
  indent : Text
  below : Text
  above_ends : EndsLine above
  above_plain : ∀ raw ∈ Text.lines above, ∀ operation : Operation,
    ¬ operation.keyword <+: Text.trim raw
  indent_blank : allBlank indent
  indent_line : '\n' ∉ indent
  below_written : ∃ line ∈ (Text.lines below).head?, ¬ allBlank line

namespace Operation

theorem keyword_eq (operation : Operation) : operation.keyword = operation.name ++ [' '] := rfl

theorem not_newline_keyword (operation : Operation) : '\n' ∉ operation.keyword := by
  cases operation with
  | query => decide
  | mutation => decide

theorem name_ends (operation : Operation) : operation.name ≠ [] ∧
    (∀ c ∈ operation.name.head?, isBlank c = false) ∧
    ∀ c ∈ operation.name.getLast?, isBlank c = false := by
  cases operation with
  | query => decide
  | mutation => decide

theorem trim_keyword_append (operation : Operation) (line : Text) :
    Text.trim (operation.keyword ++ line) = operation.name ++ Text.trimEnd (' ' :: line) := by
  obtain ⟨hne, hstarts, hends⟩ := operation.name_ends
  rw [keyword_eq, List.append_assoc, Text.trim_append hne hstarts hends]
  rfl

theorem trim_keyword_append_of_not_blank {line : Text} (h : ¬ allBlank line)
    (operation : Operation) :
    Text.trim (operation.keyword ++ line) = operation.keyword ++ Text.trimEnd line := by
  rw [trim_keyword_append, ← List.singleton_append, Text.trimEnd_append_of_not_blank h,
    keyword_eq, List.append_assoc]

theorem not_allBlank_of_trim {operation : Operation} {line rest : Text}
    (h : Text.trim (operation.keyword ++ line) = operation.keyword ++ rest) : ¬ allBlank line := by
  intro hb
  have hnil : Text.trimEnd (' ' :: line) = [] :=
    Text.trimEnd_append_blank (Text.allBlank_cons.2 ⟨rfl, hb⟩) []
  rw [trim_keyword_append, hnil, keyword_eq, List.append_assoc] at h
  cases List.append_cancel_left h

end Operation

namespace Declaration

def text (p : Declaration) (operation : Operation) : Text :=
  p.above ++ (p.indent ++ (operation.keyword ++ p.below))

theorem exists_lines (p : Declaration) : ∃ line rest, ¬ allBlank line ∧
    ∀ operation, Text.lines (p.text operation) =
      Text.lines p.above ++ (p.indent ++ (operation.keyword ++ line)) :: rest := by
  obtain ⟨line, hl, hline⟩ := p.below_written
  obtain ⟨rest, hb⟩ := List.head?_eq_some_iff.1 hl
  refine ⟨line, rest, hline, fun operation => ?_⟩
  have hfront : '\n' ∉ p.indent ++ operation.keyword := by
    rw [List.mem_append]
    rintro (hm | hm)
    · exact p.indent_line hm
    · exact operation.not_newline_keyword hm
  have hhead : p.below.head? ≠ some '\n' := by
    intro he
    obtain ⟨back, hback⟩ := List.head?_eq_some_iff.1 he
    rw [hback, Text.lines] at hb
    cases hb
    exact hline rfl
  rw [text, Text.lines_append p.above_ends, ← List.append_assoc,
    Text.lines_append_line hfront hhead hb, List.append_assoc]

end Declaration

namespace Heading

theorem ofLines?_keyword {above : List Text} {indent line : Text}
    (ha : ∀ raw ∈ above, ∀ operation : Operation, ¬ operation.keyword <+: Text.trim raw)
    (hi : allBlank indent) (hl : ¬ allBlank line) (rest : List Text) (operation : Operation) :
    ofLines? (above ++ (indent ++ (operation.keyword ++ line)) :: rest) =
      (name? (Text.trimEnd line)).map fun name =>
        ⟨operation, name, RootSelection.ofLines? rest,
          above.length + (RootSelection.height rest + 1)⟩ := by
  have hnone : ∀ raw ∈ above, Operation.ofLine? (Text.trim raw) = none :=
    fun raw hr => Operation.ofLine?_eq_none_iff.2 (ha raw hr)
  rw [ofLines?_append_of_none hnone, ofLines?, Text.trim_blank_append hi,
    operation.trim_keyword_append_of_not_blank hl, Operation.ofLine?_keyword]
  dsimp only
  rw [Option.map_map]
  congr 1
  funext name
  rw [Function.comp_apply, Nat.add_comm above.length]

theorem exists_of_ofLines? {lines : List Text} {h : Heading} (hh : ofLines? lines = some h) :
    ∃ above raw below rest, lines = above ++ raw :: below ∧
      (∀ l ∈ above, ∀ operation : Operation, ¬ operation.keyword <+: Text.trim l) ∧
      Text.trim raw = h.operation.keyword ++ rest := by
  induction lines generalizing h with
  | nil => cases hh
  | cons raw lines ih =>
    rw [ofLines?] at hh
    cases ho : Operation.ofLine? (Text.trim raw) with
    | none =>
      rw [ho] at hh
      obtain ⟨inner, hi, rfl⟩ := Option.map_eq_some_iff.1 hh
      obtain ⟨above, first, below, rest, rfl, ha, hf⟩ := ih hi
      refine ⟨raw :: above, first, below, rest, rfl, ?_, hf⟩
      exact List.forall_mem_cons.2 ⟨Operation.ofLine?_eq_none_iff.1 ho, ha⟩
    | some opened =>
      obtain ⟨operation, rest⟩ := opened
      rw [ho] at hh
      obtain ⟨name, _, rfl⟩ := Option.map_eq_some_iff.1 hh
      exact ⟨[], raw, lines, rest, rfl, List.forall_mem_nil _, Operation.eq_keyword_append ho⟩

end Heading

theorem Operation.exists_of_trim {operation : Operation} {raw rest : Text}
    (h : Text.trim raw = operation.keyword ++ rest) :
    ∃ indent line, raw = indent ++ (operation.keyword ++ line) ∧ allBlank indent ∧
      ¬ allBlank line := by
  obtain ⟨back, hback⟩ := Text.trimEnd_prefix (Text.trimStart raw)
  rw [← Text.trim, h, List.append_assoc] at hback
  have hraw : raw = raw.takeWhile isBlank ++ (operation.keyword ++ (rest ++ back)) := by
    rw [hback]
    exact List.takeWhile_append_dropWhile.symm
  have hindent : allBlank (raw.takeWhile isBlank) := List.all_takeWhile
  refine ⟨_, _, hraw, hindent, ?_⟩
  rw [hraw, Text.trim_blank_append hindent] at h
  exact not_allBlank_of_trim h

theorem Declaration.exists_of_heading {text : Text} {h : Heading}
    (hh : Heading.ofLines? (Text.lines text) = some h) :
    ∃ p : Declaration, text = p.text h.operation := by
  obtain ⟨above, raw, below, rest, hlines, ha, hraw⟩ := Heading.exists_of_ofLines? hh
  obtain ⟨front, back, rfl, hends, rfl, hback⟩ := Text.exists_append_of_lines hlines
  obtain ⟨tail, rfl⟩ := Text.prefix_of_lines hback
  have hn : '\n' ∉ raw := Text.not_mem_of_lines (hback ▸ List.mem_cons_self)
  obtain ⟨indent, line, rfl, hindent, hline⟩ := Operation.exists_of_trim hraw
  rw [← List.append_assoc] at hback hn
  rw [List.mem_append, not_or] at hn
  obtain ⟨c, more, rfl⟩ := List.exists_cons_of_ne_nil (fun he => hline (he ▸ rfl) : line ≠ [])
  have hc : (c :: more ++ tail).head? ≠ some '\n' := by
    rintro ⟨⟩
    exact hn.2 List.mem_cons_self
  rw [List.append_assoc] at hback
  have hbelow := Text.lines_of_append_line hn.1 hc (List.cons_ne_nil c _) hback
  refine ⟨⟨front, indent, c :: more ++ tail, hends, ha, hindent, ?_, c :: more, ?_, hline⟩, ?_⟩
  · exact fun hm => hn.1 (List.mem_append_left _ hm)
  · rw [hbelow]
    rfl
  · rw [text]
    simp only [List.append_assoc]

end QueryDescriptor
