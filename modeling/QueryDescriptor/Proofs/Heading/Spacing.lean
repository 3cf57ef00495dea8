import QueryDescriptor.Proofs.Accessor.Path
import QueryDescriptor.Proofs.Heading.Declared
import QueryDescriptor.Proofs.Heading.Opening

namespace QueryDescriptor

open Text (allBlank)

structure Gap where
  text : Text
  blank : allBlank text = true

structure Identifier where
  text : Text
  ne_nil : text ≠ []
  plain : ∀ c ∈ text, inIdentifier c = true

inductive ArgumentValue where
  | reference (name : Identifier)
  | literal (text : Text) (plain : '$' ∉ text)

/-- An argument with the blanks around its name and around its value. -/
structure Argument where
  front : Gap
  name : Identifier
  nameGap : Gap
  valueGap : Gap
  value : ArgumentValue
  back : Gap

/-- A root line from its object to its brace: bare, or with arguments. -/
inductive SpacedRoot where
  | bare (object : Identifier) (gap : Gap)
  | call (object : Identifier) (gap : Gap) (first : Argument) (others : List Argument)
    (braceGap : Gap)

theorem eq_false_of_inIdentifier {p : Char → Bool}
    (hp : ∀ n < 128, inIdentifier (Char.ofNat n) = true → p (Char.ofNat n) = false) {c : Char}
    (h : inIdentifier c = true) : p c = false := by
  have hc := hp c.toNat (toNat_lt_of_inIdentifier h)
  rw [Char.ofNat_toNat] at hc
  exact hc h

theorem not_blank_of_inIdentifier {c : Char} (h : inIdentifier c = true) : isBlank c = false :=
  eq_false_of_inIdentifier (by decide) h

theorem not_closes_of_inIdentifier {c : Char} (h : inIdentifier c = true) :
    RootSelection.closesVariable c = false :=
  eq_false_of_inIdentifier (by decide) h

namespace Gap

variable (g : Gap)

theorem isBlank_of_mem : ∀ c ∈ g.text, isBlank c = true := Text.isBlank_of_allBlank g.blank

theorem not_mem {c : Char} (hc : isBlank c = false) : c ∉ g.text := by
  intro h
  rw [g.isBlank_of_mem c h] at hc
  cases hc

end Gap

namespace Identifier

variable (i : Identifier)

theorem not_mem {c : Char} (hc : inIdentifier c = false) : c ∉ i.text := by
  intro h
  rw [i.plain c h] at hc
  cases hc

theorem not_blank : ∀ c ∈ i.text, isBlank c = false :=
  fun c hc => not_blank_of_inIdentifier (i.plain c hc)

end Identifier

namespace ArgumentValue

def text : ArgumentValue → Text
  | reference name => '$' :: name.text
  | literal text _ => text

def name? : ArgumentValue → Option Text
  | reference name => some name.text
  | literal .. => none

end ArgumentValue

namespace Argument

def label (a : Argument) : Text := a.front.text ++ (a.name.text ++ a.nameGap.text)

def rest (a : Argument) : Text := a.valueGap.text ++ (a.value.text ++ a.back.text)

def text (a : Argument) : Text := a.label ++ ':' :: a.rest

theorem not_mem_label (a : Argument) {c : Char} (hb : isBlank c = false)
    (hi : inIdentifier c = false) : c ∉ a.label := by
  intro h
  rcases List.mem_append.1 h with h | h
  · exact a.front.not_mem hb h
  · rcases List.mem_append.1 h with h | h
    · exact a.name.not_mem hi h
    · exact a.nameGap.not_mem hb h

end Argument

namespace SpacedRoot

def closing (others : List Argument) (braceGap : Gap) : Text :=
  others.flatMap (',' :: ·.text) ++ ')' :: (braceGap.text ++ ['{'])

theorem closing_cons (next : Argument) (others : List Argument) (braceGap : Gap) :
    closing (next :: others) braceGap = ',' :: (next.text ++ closing others braceGap) := by
  rw [closing, List.flatMap_cons, List.append_assoc]
  rfl

def text : SpacedRoot → Text
  | bare object gap => object.text ++ (gap.text ++ ['{'])
  | call object gap first others braceGap =>
    object.text ++ (gap.text ++ '(' :: (first.text ++ closing others braceGap))

/-- The object of the line, and the variable of its first argument. -/
def meant : SpacedRoot → RootSelection
  | bare object _ => ⟨object.text, none⟩
  | call object _ first .. => ⟨object.text, first.value.name?⟩

/-- What the variable of the first argument runs into: with no blank on either side of the comma
behind it, the comma and the next name. -/
def runOn (back : Gap) : List Argument → Text
  | [] => []
  | next :: _ => if back.text = [] ∧ next.front.text = [] then ',' :: next.name.text else []

def read : SpacedRoot → RootSelection
  | bare object gap => ⟨if gap.text = [] then object.text ++ ['{'] else object.text, none⟩
  | call object _ first others _ =>
    ⟨object.text, first.value.name?.map (· ++ runOn first.back others)⟩

/-- The layouts that run two parts of the line together. -/
inductive RunsTogether : SpacedRoot → Prop where
  | brace {object : Identifier} {gap : Gap} : gap.text = [] → RunsTogether (bare object gap)
  | comma {object name : Identifier} {gap braceGap : Gap} {first next : Argument}
    {others : List Argument} : first.value = .reference name → first.back.text = [] →
    next.front.text = [] → RunsTogether (call object gap first (next :: others) braceGap)

theorem read_eq_meant_iff (r : SpacedRoot) : r.read = r.meant ↔ ¬ r.RunsTogether := by
  cases r with
  | bare object gap =>
    by_cases hg : gap.text = []
    · apply iff_of_false
      · intro h
        have hobject : object.text ++ ['{'] = object.text := by
          simpa only [read, meant, if_pos hg, RootSelection.mk.injEq, and_true] using h
        exact List.cons_ne_nil _ _ (List.append_right_eq_self.1 hobject)
      · exact not_not_intro (.brace hg)
    · apply iff_of_true
      · rw [read, if_neg hg]
        rfl
      · intro h
        cases h with
        | brace he => exact hg he
  | call object gap first others braceGap =>
    cases hv : first.value with
    | literal text plain =>
      apply iff_of_true
      · rw [read, meant, hv]
        rfl
      · intro h
        cases h with
        | comma hr => rw [hv] at hr; cases hr
    | reference name =>
      have hread : (call object gap first others braceGap).read =
          (call object gap first others braceGap).meant ↔ runOn first.back others = [] := by
        simp only [read, meant, hv, ArgumentValue.name?, Option.map_some,
          RootSelection.mk.injEq, true_and, Option.some.injEq, List.append_right_eq_self]
      rw [hread]
      cases others with
      | nil =>
        apply iff_of_true rfl
        intro h
        cases h
      | cons next others =>
        by_cases hrun : first.back.text = [] ∧ next.front.text = []
        · apply iff_of_false
          · rw [runOn, if_pos hrun]
            exact List.cons_ne_nil _ _
          · exact not_not_intro (.comma hv hrun.1 hrun.2)
        · apply iff_of_true (if_neg hrun)
          intro h
          cases h with
          | comma _ hb hf => exact hrun ⟨hb, hf⟩

def EndsVariable (t : Text) : Prop := ∀ c ∈ t.head?, isBlank c = true ∨ c = ':'

theorem endsVariable_gap {g : Gap} {rest : Text} (h : g.text = [] → EndsVariable rest) :
    EndsVariable (g.text ++ rest) := by
  cases hg : g.text with
  | nil => exact h hg
  | cons d t =>
    intro c hc
    apply Or.inl
    apply g.isBlank_of_mem
    rw [hg]
    exact List.mem_of_mem_head? hc

theorem endsVariable_colon (rest : Text) : EndsVariable (':' :: rest) := by
  intro c hc
  cases hc
  exact .inr rfl

/-- The variable of the first argument, with what it runs into, is followed by signs that close it,
and then it ends. -/
theorem exists_closers (back : Gap) (others : List Argument) (braceGap : Gap) :
    ∃ closers tail, back.text ++ closing others braceGap =
        runOn back others ++ (closers ++ tail) ∧
      (∀ c ∈ closers, RootSelection.closesVariable c = true) ∧ EndsVariable tail := by
  by_cases hb : back.text = []
  · rw [hb, List.nil_append]
    cases others with
    | nil =>
      by_cases hg : braceGap.text = []
      · have hclosing : closing [] braceGap = [')', '{'] := by
          rw [closing, hg]
          rfl
        exact ⟨[')', '{'], [], hclosing, by decide, nofun⟩
      · exact ⟨[')'], braceGap.text ++ ['{'], rfl, by decide,
          endsVariable_gap fun hn => absurd hn hg⟩
    | cons next others =>
      have htext : next.text ++ closing others braceGap = next.front.text ++ (next.name.text ++
          (next.nameGap.text ++ ':' :: (next.rest ++ closing others braceGap))) := by
        simp only [Argument.text, Argument.label, List.append_assoc, List.cons_append]
      rw [closing_cons, htext]
      by_cases hf : next.front.text = []
      · rw [runOn, if_pos ⟨hb, hf⟩, hf]
        exact ⟨[], _, rfl, List.forall_mem_nil _, endsVariable_gap fun _ => endsVariable_colon _⟩
      · rw [runOn, if_neg fun h => hf h.2]
        exact ⟨[','], _, rfl, by decide, endsVariable_gap fun hn => absurd hn hf⟩
  · have hrun : runOn back others = [] := by
      cases others with
      | nil => rfl
      | cons next others => exact if_neg fun h => hb h.1
    rw [hrun]
    exact ⟨[], _, rfl, List.forall_mem_nil _, endsVariable_gap fun hn => absurd hn hb⟩

theorem runOn_eq_nil_or (back : Gap) (others : List Argument) :
    runOn back others = [] ∨ ∃ name : Identifier, runOn back others = ',' :: name.text := by
  cases others with
  | nil => exact .inl rfl
  | cons next others =>
    by_cases hrun : back.text = [] ∧ next.front.text = []
    · exact .inr ⟨next.name, if_pos hrun⟩
    · exact .inl (if_neg hrun)

theorem inIdentifier_append_runOn (name : Identifier) (back : Gap) (others : List Argument) :
    (∀ c ∈ name.text ++ runOn back others, inIdentifier c = true ∨ c = ',') ∧
      ∀ c ∈ (name.text ++ runOn back others).getLast?, inIdentifier c = true := by
  rcases runOn_eq_nil_or back others with h | ⟨next, h⟩
  · rw [h, List.append_nil]
    constructor
    · intro c hc
      exact .inl (name.plain c hc)
    · intro c hc
      exact name.plain c (List.mem_of_getLast? hc)
  · rw [h]
    constructor
    · intro c hc
      rcases List.mem_append.1 hc with hc | hc
      · exact .inl (name.plain c hc)
      · rcases List.mem_cons.1 hc with rfl | hc
        · exact .inr rfl
        · exact .inl (next.plain c hc)
    · intro c hc
      rw [List.append_cons, List.getLast?_append_of_ne_nil _ next.ne_nil] at hc
      exact next.plain c (List.mem_of_getLast? hc)

theorem variableIn_reference (gap back : Gap) (name : Identifier) (others : List Argument)
    (braceGap : Gap) :
    RootSelection.variableIn
        (gap.text ++ '$' :: (name.text ++ (back.text ++ closing others braceGap))) =
      some (name.text ++ runOn back others) := by
  obtain ⟨closers, tail, htext, hclosers, htail⟩ := exists_closers back others braceGap
  obtain ⟨hname, hlast⟩ := inIdentifier_append_runOn name back others
  have hcolon : ':' ∉ name.text ++ runOn back others := by
    intro hm
    rcases hname ':' hm with h | h
    · cases h
    · cases h
  have hblank : ∀ c ∈ name.text ++ runOn back others, isBlank c = false := by
    intro c hc
    rcases hname c hc with h | rfl
    · exact not_blank_of_inIdentifier h
    · rfl
  -- All that the variable runs into is read as its name.
  have hread := Lookup.variableIn_value
    { argument := []
      gap := gap.text
      name := name.text ++ runOn back others
      closers := closers
      argument_plain := List.not_mem_nil
      gap_blank := gap.isBlank_of_mem
      name_ne_nil := List.append_ne_nil_of_left_ne_nil name.ne_nil _
      name_not_blank := hblank
      name_plain := hcolon
      name_ends := fun c hc => not_closes_of_inIdentifier (hlast c hc)
      closers_close := hclosers } htail
  rw [htext]
  simpa only [Lookup.value, List.append_assoc, List.cons_append] using hread

theorem exists_plain (others : List Argument) (braceGap : Gap) :
    ∃ plain rest, closing others braceGap = plain ++ rest ∧ '$' ∉ plain ∧
      ∀ c ∈ rest.head?, (c == ':') = true := by
  cases others with
  | nil =>
    have hplain : '$' ∉ closing [] braceGap := by
      intro h
      rcases List.mem_cons.1 h with h | h
      · cases h
      · rcases List.mem_append.1 h with h | h
        · exact braceGap.not_mem rfl h
        · cases List.mem_singleton.1 h
    exact ⟨closing [] braceGap, [], (List.append_nil _).symm, hplain, nofun⟩
  | cons next others =>
    have hplain : '$' ∉ ',' :: next.label := by
      intro h
      rcases List.mem_cons.1 h with h | h
      · cases h
      · exact next.not_mem_label rfl rfl h
    have hclosing : closing (next :: others) braceGap =
        ',' :: next.label ++ ':' :: (next.rest ++ closing others braceGap) := by
      rw [closing_cons, Argument.text, List.append_assoc]
      rfl
    exact ⟨_, _, hclosing, hplain, fun c hc => by cases hc; rfl⟩

theorem variableIn_literal (gap back : Gap) {text : Text} (ht : '$' ∉ text)
    (others : List Argument) (braceGap : Gap) :
    RootSelection.variableIn (gap.text ++ (text ++ (back.text ++ closing others braceGap))) =
      none := by
  obtain ⟨plain, rest, hclosing, hplain, hrest⟩ := exists_plain others braceGap
  have hbefore : Text.before (· == ':') (gap.text ++ (text ++ (back.text ++ plain)) ++ rest) <+:
      gap.text ++ (text ++ (back.text ++ plain)) :=
    Text.before_append_prefix hrest
  have hnone : '$' ∉ gap.text ++ (text ++ (back.text ++ plain)) := by
    intro h
    rcases List.mem_append.1 h with h | h
    · exact gap.not_mem rfl h
    · rcases List.mem_append.1 h with h | h
      · exact ht h
      · rcases List.mem_append.1 h with h | h
        · exact back.not_mem rfl h
        · exact hplain h
  have htext : gap.text ++ (text ++ (back.text ++ closing others braceGap)) =
      gap.text ++ (text ++ (back.text ++ plain)) ++ rest := by
    rw [hclosing]
    simp only [List.append_assoc]
  rw [RootSelection.variableIn, htext,
    Text.after?_eq_none (Text.beq_of_not_mem fun h => hnone (hbefore.mem h))]

theorem ofLine_text (r : SpacedRoot) : RootSelection.ofLine r.text = r.read := by
  cases r with
  | bare object gap =>
    have hcolon : ':' ∉ object.text ++ (gap.text ++ ['{']) := by
      intro h
      rcases List.mem_append.1 h with h | h
      · exact object.not_mem rfl h
      · rcases List.mem_append.1 h with h | h
        · exact gap.not_mem rfl h
        · cases List.mem_singleton.1 h
    rw [text, RootSelection.ofLine, Text.after?_eq_none (Text.beq_of_not_mem hcolon)]
    dsimp only
    rw [Text.firstWord_append object.ne_nil object.not_blank, read]
    cases hg : gap.text with
    | nil => rfl
    | cons d t =>
      have hd := gap.isBlank_of_mem d (hg ▸ List.mem_cons_self)
      rw [if_neg (List.cons_ne_nil d t), Text.before_eq_nil fun c hc => by cases hc; exact hd,
        List.append_nil]
  | call object gap first others braceGap =>
    have hnot {d : Char} (hb : isBlank d = false) (hi : inIdentifier d = false) :
        d ∉ object.text ++ gap.text := by
      intro h
      rcases List.mem_append.1 h with h | h
      · exact object.not_mem hi h
      · exact gap.not_mem hb h
    have hobject : Text.trim (object.text ++ gap.text) = object.text := by
      rw [Text.trim_append_blank gap.blank, Text.trim_of_not_blank object.not_blank]
    have htext : (call object gap first others braceGap).text =
        (object.text ++ gap.text) ++ '(' :: first.label ++ ':' :: (first.valueGap.text ++
          (first.value.text ++ (first.back.text ++ closing others braceGap))) := by
      simp only [text, Argument.text, Argument.rest, List.append_assoc, List.cons_append]
    rw [htext, RootSelection.ofLine_argument (hnot rfl rfl) (hnot rfl rfl)
      (first.not_mem_label rfl rfl), hobject, read]
    cases first.value with
    | reference name =>
      exact congrArg _ (variableIn_reference first.valueGap first.back name others braceGap)
    | literal text plain =>
      exact congrArg _ (variableIn_literal first.valueGap first.back plain others braceGap)

theorem trim_text (r : SpacedRoot) (indent back : Gap) :
    Text.trim (indent.text ++ (r.text ++ back.text)) = r.text := by
  have hends : ∃ (object : Identifier) (inner : Text), r.text = object.text ++ (inner ++ ['{']) := by
    cases r with
    | bare object gap => exact ⟨object, gap.text, rfl⟩
    | call object gap first others braceGap =>
      have htext : gap.text ++ '(' :: (first.text ++ closing others braceGap) =
          gap.text ++ '(' :: (first.text ++
            (others.flatMap (',' :: ·.text) ++ ')' :: braceGap.text)) ++ ['{'] := by
        simp only [closing, List.append_assoc, List.cons_append]
      exact ⟨object, _, congrArg _ htext⟩
  obtain ⟨object, inner, htext⟩ := hends
  rw [Text.trim_blank_append indent.blank, Text.trim_append_blank back.blank]
  apply Text.trim_of_ends
  · intro c hc
    rw [htext, List.head?_append_of_ne_nil _ object.ne_nil] at hc
    exact object.not_blank c (List.mem_of_mem_head? hc)
  · intro c hc
    rw [htext, ← List.append_assoc, List.getLast?_concat] at hc
    cases hc
    rfl

theorem text_ne_nil (r : SpacedRoot) : r.text ≠ [] := by
  cases r with
  | bare object gap => exact List.append_ne_nil_of_left_ne_nil object.ne_nil _
  | call object gap first others braceGap =>
    exact List.append_ne_nil_of_left_ne_nil object.ne_nil _

end SpacedRoot

/-- The heading above a root line in any spacing, and the layouts in which the line is read as
meant. -/
theorem Heading.ofLines?_spaced (above blank below : List Text) (front indent back : Gap)
    (first : HeadingLine) (root : SpacedRoot)
    (ha : ∀ raw ∈ above, ∀ operation : Operation, ¬ operation.keyword <+: Text.trim raw)
    (hb : ∀ raw ∈ blank, allBlank raw = true) :
    ofLines? (above ++ (front.text ++ first.text) ::
        (blank ++ (indent.text ++ (root.text ++ back.text)) :: below)) =
      some ⟨first.operation, first.name, some root.read, above.length + 1 + blank.length + 1⟩ ∧
      (root.read = root.meant ↔ ¬ root.RunsTogether) := by
  have hne : Text.trim (indent.text ++ (root.text ++ back.text)) ≠ [] := by
    rw [root.trim_text]
    exact root.text_ne_nil
  obtain ⟨hroot, hheight⟩ :=
    RootSelection.ofLines?_blank_append (Text.contents_of_allBlank hb) hne below
  have hopening := Opening.ofLines?_lines
    { above := above
      raw := front.text ++ first.text
      below := blank ++ (indent.text ++ (root.text ++ back.text)) :: below
      operation := first.operation
      rest := first.trimmed.rest
      above_plain := ha
      trim_raw := first.trim_text front.blank }
  have hstart : above.length + (blank.length + 1 + 1) = above.length + 1 + blank.length + 1 := by
    omega
  apply And.intro _ root.read_eq_meant_iff
  dsimp only [Opening.lines] at hopening
  rw [hopening, first.trimmed.name?_rest, Option.map_some, hroot, hheight, root.trim_text,
    root.ofLine_text, hstart]
  rfl

def Gap.none : Gap := ⟨[], rfl⟩

def Gap.space : Gap := ⟨[' '], rfl⟩

def Identifier.of (text : Text) (h : text ≠ [] ∧ ∀ c ∈ text, inIdentifier c = true) : Identifier :=
  ⟨text, h.1, h.2⟩

def deviceLookup (gap front : Gap) : SpacedRoot :=
  .call (.of "Device" (by decide)) .none
    { front := .none
      name := .of "name" (by decide)
      nameGap := .none
      valueGap := gap
      value := .reference (.of "name" (by decide))
      back := .none }
    [{ front := front
       name := .of "limit" (by decide)
       nameGap := .none
       valueGap := gap
       value := .literal "5" (by decide)
       back := .none }] gap

def deviceHeading : HeadingLine where
  operation := .query
  gap := "\t "
  initial := 'L'
  more := "ookup"
  tail := "\x7b"
  gap_blank := by decide
  initial_opens := by decide
  name_plain := by decide
  tail_apart := by decide

theorem Heading.ofLines?_spaced_devices :
    ofLines? ["# query Old", "query \t Lookup\x7b", "", " Device(name:$name, limit:5)\x7b "] =
        some ⟨.query, "lookup", some ⟨"Device", some "name"⟩, 4⟩ ∧
      (deviceLookup .none .space).read = (deviceLookup .none .space).meant := by
  have hold : ∀ raw ∈ (["# query Old"] : List Text), Operation.ofLine? (Text.trim raw) = none := by
    decide
  obtain ⟨hlines, hmeant⟩ := ofLines?_spaced ["# query Old"] [[]] [] .none .space .space
    deviceHeading (deviceLookup .none .space)
    (fun raw hr => Operation.ofLine?_eq_none_iff.1 (hold raw hr)) (by decide)
  apply And.intro hlines
  apply hmeant.2
  intro h
  cases h with
  | comma _ _ hf => cases hf

theorem Heading.ofLines?_runsTogether :
    (deviceLookup .space .none).text = "Device(name: $name,limit: 5) \x7b" ∧
      (deviceLookup .space .none).meant = ⟨"Device", some "name"⟩ ∧
      ofLines? (Text.lines "query Devices \x7b\n  Device(name: $name,limit: 5) \x7b\n") =
        some ⟨.query, "devices", some ⟨"Device", some "name,limit"⟩, 2⟩ ∧
      ofLines? (Text.lines "query Devices \x7b\n  Device\x7b\n") =
        some ⟨.query, "devices", some ⟨"Device\x7b", none⟩, 2⟩ := by
  decide

end QueryDescriptor
