import QueryDescriptor.Proofs.Heading.Keyword

namespace QueryDescriptor

open Text (allBlank)

variable {t : Text} {c : Char}

namespace Text

theorem not_blank_getLast?_trim (h : c ∈ (trim t).getLast?) : isBlank c = false := by
  rw [trim, trimEnd, dropEndWhile_eq] at h
  obtain ⟨hne, rfl⟩ := List.mem_getLast?_eq_getLast h
  exact Bool.eq_false_iff.2 (List.rdropWhile_last_not isBlank _ hne)

end Text

/-- The first line that opens an operation, with the text after its keyword, between the lines above
it and those below. -/
structure Opening where
  above : List Text
  raw : Text
  below : List Text
  operation : Operation
  rest : Text
  above_plain : ∀ l ∈ above, ∀ operation : Operation, ¬ operation.keyword <+: Text.trim l
  trim_raw : Text.trim raw = operation.keyword ++ rest

namespace Opening

def lines (o : Opening) : List Text := o.above ++ o.raw :: o.below

theorem exists_of_keyword {lines : List Text} {raw : Text} (hr : raw ∈ lines) {operation : Operation}
    (hk : operation.keyword <+: Text.trim raw) : ∃ o : Opening, lines = o.lines := by
  induction lines with
  | nil => cases hr
  | cons first lines ih =>
    cases ho : Operation.ofLine? (Text.trim first) with
    | some opened =>
      obtain ⟨opens, rest⟩ := opened
      exact ⟨⟨[], first, lines, opens, rest, List.forall_mem_nil _,
        Operation.eq_keyword_append ho⟩, rfl⟩
    | none =>
      have hfirst := Operation.ofLine?_eq_none_iff.1 ho
      have hmem : raw ∈ lines := by
        rcases List.mem_cons.1 hr with rfl | hm
        · exact absurd hk (hfirst operation)
        · exact hm
      obtain ⟨o, rfl⟩ := ih hmem
      exact ⟨{ o with
        above := first :: o.above
        above_plain := List.forall_mem_cons.2 ⟨hfirst, o.above_plain⟩ }, rfl⟩

theorem ofLines?_lines (o : Opening) : Heading.ofLines? o.lines =
    (Heading.name? o.rest).map fun name => ⟨o.operation, name, RootSelection.ofLines? o.below,
      o.above.length + (RootSelection.height o.below + 1)⟩ := by
  have habove : ∀ l ∈ o.above, Operation.ofLine? (Text.trim l) = none :=
    fun l hl => Operation.ofLine?_eq_none_iff.2 (o.above_plain l hl)
  rw [lines, Heading.ofLines?_append_of_none habove, Heading.ofLines?, o.trim_raw,
    Operation.ofLine?_keyword]
  dsimp only
  rw [Option.map_map]
  congr 1
  funext name
  rw [Function.comp_apply, Nat.add_comm o.above.length]

theorem exists_initial (o : Opening) : ∃ c, o.rest.find? (!isBlank ·) = some c := by
  cases hf : o.rest.find? (!isBlank ·) with
  | some c => exact ⟨c, rfl⟩
  | none =>
    have hne : ' ' :: o.rest ≠ [] := List.cons_ne_nil _ _
    have hlast : (' ' :: o.rest).getLast hne ∈ (Text.trim o.raw).getLast? := by
      rw [o.trim_raw, Operation.keyword_eq, List.append_assoc, List.singleton_append,
        List.getLast?_append_of_ne_nil _ hne]
      exact List.getLast?_eq_some_getLast hne
    have hblank : ∀ d ∈ ' ' :: o.rest, isBlank d = true := by
      intro d hd
      rcases List.mem_cons.1 hd with rfl | hd
      · rfl
      · simpa only [Bool.not_eq_true, Bool.not_eq_false'] using List.find?_eq_none.1 hf d hd
    have hn := Text.not_blank_getLast?_trim hlast
    rw [hblank _ (List.getLast_mem hne)] at hn
    cases hn

end Opening

namespace Heading

theorem name?_eq_none_iff (h : t.find? (!isBlank ·) = some c) :
    name? t = none ↔ isLetter c = false ∧ c ≠ '_' := by
  obtain ⟨hc, gap, more, rfl, hg⟩ := List.find?_eq_some_iff_append.1 h
  have hgap : ∀ d ∈ gap, isBlank d = true := by
    intro d hd
    simpa only [Bool.not_not] using hg d hd
  have hword : Text.firstWord (gap ++ c :: more) = c :: Text.before isBlank more := by
    rw [Text.firstWord_blank_append hgap, ← List.singleton_append, Text.firstWord_append]
    · rfl
    · exact List.cons_ne_nil _ _
    · intro d hd
      rw [List.mem_singleton.1 hd]
      simpa only [Bool.not_eq_true'] using hc
  rw [name?, hword]
  cases hb : (c == '(' || c == '\x7b') with
  | true =>
    -- A bracket ends the name before it begins, and is no letter.
    rw [Text.before_eq_nil fun d hd => by cases hd; exact hb]
    rcases Bool.or_eq_true_iff.1 hb with hb | hb
    · cases eq_of_beq hb
      exact iff_of_true rfl (by decide)
    · cases eq_of_beq hb
      exact iff_of_true rfl (by decide)
  | false =>
    rw [← List.singleton_append, Text.before_append_of_not fun d hd => by
      rw [List.mem_singleton.1 hd]
      exact hb]
    rw [List.singleton_append]
    dsimp only
    cases hl : isLetter c with
    | true => simp only [Bool.true_or, ↓reduceIte, reduceCtorEq, Bool.true_eq_false, false_and]
    | false =>
      simp only [Bool.false_or, beq_iff_eq, ite_eq_right_iff, reduceCtorEq, imp_false, ne_eq,
        true_and]

/-- No line opens an operation, or a character that starts no name follows the keyword on the first
that does. -/
inductive Refused : List Text → Prop where
  | unopened {lines : List Text} :
      (∀ raw ∈ lines, ∀ operation : Operation, ¬ operation.keyword <+: Text.trim raw) →
      Refused lines
  | unnamed (o : Opening) {c : Char} : o.rest.find? (!isBlank ·) = some c →
      isLetter c = false → c ≠ '_' → Refused o.lines

theorem ofLines?_eq_none_iff {lines : List Text} : ofLines? lines = none ↔ Refused lines := by
  constructor
  · intro h
    by_cases hk : ∃ raw ∈ lines, ∃ operation : Operation, operation.keyword <+: Text.trim raw
    · obtain ⟨raw, hr, operation, hp⟩ := hk
      obtain ⟨o, rfl⟩ := Opening.exists_of_keyword hr hp
      obtain ⟨c, hc⟩ := o.exists_initial
      rw [o.ofLines?_lines, Option.map_eq_none_iff, name?_eq_none_iff hc] at h
      exact .unnamed o hc h.1 h.2
    · exact .unopened fun raw hr operation hp => hk ⟨raw, hr, operation, hp⟩
  · intro h
    cases h with
    | unopened hn =>
      have hnone := ofLines?_append_of_none
        (fun raw hr => Operation.ofLine?_eq_none_iff.2 (hn raw hr)) []
      rw [List.append_nil] at hnone
      exact hnone
    | unnamed o hc hl hu => rw [o.ofLines?_lines, (name?_eq_none_iff hc).2 ⟨hl, hu⟩, Option.map_none]

/-- The heading stands on the opening line and on the first line below it that is not blank. Its
body begins below both, or behind all lines if there is no root line. -/
structure Stands (h : Heading) (o : Opening) : Prop where
  operation : h.operation = o.operation
  lt_bodyStart : o.above.length < h.bodyStart
  bodyStart_le : h.bodyStart ≤ o.lines.length
  root_eq_none_iff : h.root = none ↔ ∀ l ∈ o.below, allBlank l = true
  rootLine : ∀ root, h.root = some root → ∃ blank line body, o.below = blank ++ line :: body ∧
    (∀ l ∈ blank, allBlank l = true) ∧ allBlank line = false ∧
    root = .ofLine (Text.trim line) ∧ h.bodyStart = o.above.length + 1 + blank.length + 1 ∧
    o.lines.drop h.bodyStart = body

theorem stands_of_blank (o : Opening) (name : Text) (hb : ∀ l ∈ o.below, allBlank l = true) :
    Stands ⟨o.operation, name, RootSelection.ofLines? o.below,
      o.above.length + (RootSelection.height o.below + 1)⟩ o := by
  obtain ⟨hroot, hheight⟩ := RootSelection.ofLines?_of_blank (Text.contents_of_allBlank hb)
  have hlength : o.lines.length = o.above.length + (o.below.length + 1) := by
    rw [Opening.lines, List.length_append, List.length_cons]
  rw [hroot, hheight]
  constructor
  · rfl
  · exact Nat.lt_add_of_pos_right (Nat.succ_pos _)
  · exact Nat.le_of_eq hlength.symm
  · exact iff_of_true rfl hb
  · intro root hr
    cases hr

theorem stands_of_rootLine (o : Opening) (name : Text) {blank body : List Text} {line : Text}
    (hbelow : o.below = blank ++ line :: body) (hb : ∀ l ∈ blank, allBlank l = true)
    (hl : allBlank line = false) :
    Stands ⟨o.operation, name, RootSelection.ofLines? o.below,
      o.above.length + (RootSelection.height o.below + 1)⟩ o := by
  have hline : Text.trim line ≠ [] := by
    intro he
    rw [Text.trim_eq_nil_iff.1 he] at hl
    cases hl
  obtain ⟨hroot, hheight⟩ := RootSelection.ofLines?_blank_append
    (Text.contents_of_allBlank hb) hline body
  have hlines : o.lines = (o.above ++ o.raw :: blank ++ [line]) ++ body := by
    rw [Opening.lines, hbelow]
    simp only [List.append_assoc, List.cons_append, List.nil_append]
  have hlength : (o.above ++ o.raw :: blank ++ [line]).length =
      o.above.length + (blank.length + 1 + 1) := by
    simp only [List.length_append, List.length_cons, List.length_nil, Nat.zero_add, Nat.add_assoc]
  rw [← hbelow] at hroot hheight
  rw [hroot, hheight]
  constructor
  · rfl
  · exact Nat.lt_add_of_pos_right (Nat.succ_pos _)
  · rw [hlines, List.length_append, hlength]
    exact Nat.le_add_right _ _
  · constructor
    · intro he
      cases he
    · intro hall
      rw [hall line (hbelow ▸ List.mem_append_right blank List.mem_cons_self)] at hl
      cases hl
  · intro root hr
    cases hr
    have hstart : o.above.length + (blank.length + 1 + 1) =
        o.above.length + 1 + blank.length + 1 := by omega
    refine ⟨blank, line, body, hbelow, hb, hl, rfl, hstart, ?_⟩
    dsimp only
    rw [hlines, ← hlength, List.drop_left]

theorem exists_stands {lines : List Text} {h : Heading} (hh : ofLines? lines = some h) :
    ∃ o : Opening, lines = o.lines ∧ h.Stands o := by
  obtain ⟨above, raw, below, rest, rfl, ha, hraw⟩ := exists_of_ofLines? hh
  obtain ⟨o, ho⟩ : ∃ o : Opening, above ++ raw :: below = o.lines :=
    Opening.exists_of_keyword (List.mem_append_right above List.mem_cons_self)
      (hraw ▸ List.prefix_append _ _)
  rw [ho, o.ofLines?_lines] at hh
  obtain ⟨name, _, rfl⟩ := Option.map_eq_some_iff.1 hh
  apply Exists.intro o
  apply And.intro ho
  by_cases hb : ∀ l ∈ o.below, allBlank l = true
  · exact stands_of_blank o name hb
  · cases hc : Text.contents o.below with
    | nil => exact absurd (Text.allBlank_of_contents hc) hb
    | cons text rest =>
      obtain ⟨blank, line, body, hbelow, hblank, rfl, hne, _⟩ := Text.exists_cons_of_contents hc
      apply stands_of_rootLine o name hbelow (Text.allBlank_of_contents hblank)
      exact Bool.eq_false_iff.2 fun hl => hne (Text.trim_eq_nil_iff.2 hl)

end Heading
end QueryDescriptor
