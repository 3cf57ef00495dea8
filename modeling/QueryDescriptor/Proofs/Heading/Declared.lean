import QueryDescriptor.Proofs.Heading.Written
import QueryDescriptor.Proofs.Text.Layout

namespace QueryDescriptor

open Text (allBlank)

variable {front indent : Text}

/-- What stands before an argument list. Blanks may stand inside it, but not at its ends. -/
structure Subject where
  text : Text
  ne_nil : text ≠ []
  starts : ∀ c ∈ text.head?, isBlank c = false
  ends : ∀ c ∈ text.getLast?, isBlank c = false
  not_colon : ':' ∉ text
  not_open : '(' ∉ text

/-- A root line as it may be written: an object alone or with text apart from it, or an object with
a first argument that is a variable or holds none. -/
inductive RootForm where
  | bare (object : Selection.Name) (tail : Text) (object_plain : ':' ∉ object.text)
    (tail_plain : ':' ∉ tail) (tail_apart : ∀ c ∈ tail.head?, isBlank c = true)
  | lookup (object : Subject) (first : Lookup) (tail : Text)
    (tail_apart : ∀ c ∈ tail.head?, isBlank c = true)
  | constant (object : Subject) (argument value : Text) (argument_plain : ':' ∉ argument)
    (value_plain : '$' ∉ Text.before (· == ':') value)

namespace RootForm

def text : RootForm → Text
  | bare object tail .. => object.text ++ tail
  | lookup object first tail _ =>
    object.text ++ '(' :: first.argument ++ ':' :: (first.value ++ tail)
  | constant object argument value .. => object.text ++ '(' :: argument ++ ':' :: value

def selection : RootForm → RootSelection
  | bare object .. => ⟨object.text, none⟩
  | lookup object first .. => ⟨object.text, some first.name⟩
  | constant object .. => ⟨object.text, none⟩

end RootForm

namespace HeadingLine

def trimmed (h : HeadingLine) : HeadingLine :=
  { h with
    tail := Text.trimEnd h.tail
    tail_apart := Text.head?_trimEnd h.tail_apart }

theorem trim_text (h : HeadingLine) (hf : allBlank front) :
    Text.trim (front ++ h.text) = h.trimmed.text := by
  have htext (tail : Text) : h.operation.keyword ++ (h.gap ++ (h.initial :: h.more ++ tail)) =
      h.operation.keyword ++ (h.gap ++ h.initial :: h.more) ++ tail := by
    simp only [List.append_assoc]
  have hstarts : ∀ c ∈ (h.operation.keyword ++ (h.gap ++ h.initial :: h.more)).head?,
      isBlank c = false := by
    intro c hc
    cases ho : h.operation with
    | query =>
      rw [ho] at hc
      cases hc
      rfl
    | mutation =>
      rw [ho] at hc
      cases hc
      rfl
  have hends : ∀ c ∈ (h.operation.keyword ++ (h.gap ++ h.initial :: h.more)).getLast?,
      isBlank c = false := by
    intro c hc
    rw [← List.append_assoc, List.getLast?_append_of_ne_nil _ (List.cons_ne_nil _ _)] at hc
    exact not_blank_of_plain (h.name_plain c (List.mem_of_getLast? hc))
  have hne : h.operation.keyword ++ (h.gap ++ h.initial :: h.more) ≠ [] :=
    List.append_ne_nil_of_right_ne_nil _
      (List.append_ne_nil_of_right_ne_nil _ (List.cons_ne_nil _ _))
  rw [Text.trim_blank_append hf, text, rest, htext, Text.trim_append hne hstarts hends, ← htext]
  rfl

end HeadingLine

theorem Lookup.value_ends (l : Lookup) : ∀ c ∈ l.value.getLast?, isBlank c = false := by
  intro c hc
  have hne : l.name ++ l.closers ≠ [] := List.append_ne_nil_of_left_ne_nil l.name_ne_nil _
  rw [value, List.append_cons, List.getLast?_append_of_ne_nil _ hne] at hc
  rcases List.mem_append.1 (List.mem_of_getLast? hc) with hn | hl
  · exact l.name_not_blank c hn
  · exact not_blank_of_closes (l.closers_close c hl)

theorem Subject.trim_argument (s : Subject) {value : Text}
    (hv : ∀ c ∈ value.getLast?, isBlank c = false) (argument tail : Text) :
    Text.trim (s.text ++ '(' :: argument ++ ':' :: (value ++ tail)) =
      s.text ++ '(' :: argument ++ ':' :: (value ++ Text.trimEnd tail) := by
  have htext (tail : Text) : s.text ++ '(' :: argument ++ ':' :: (value ++ tail) =
      s.text ++ ('(' :: argument ++ ':' :: value) ++ tail := by
    simp only [List.append_assoc, List.cons_append]
  have hstarts : ∀ c ∈ (s.text ++ ('(' :: argument ++ ':' :: value)).head?, isBlank c = false := by
    intro c hc
    rw [List.head?_append_of_ne_nil _ s.ne_nil] at hc
    exact s.starts c hc
  have hends : ∀ c ∈ (s.text ++ ('(' :: argument ++ ':' :: value)).getLast?,
      isBlank c = false := by
    intro c hc
    rw [← List.append_assoc, List.getLast?_append_of_ne_nil _ (List.cons_ne_nil _ _)] at hc
    by_cases hn : value = []
    · rw [hn] at hc
      cases hc
      rfl
    · rw [← List.singleton_append, List.getLast?_append_of_ne_nil _ hn] at hc
      exact hv c hc
  have hne := List.append_ne_nil_of_left_ne_nil s.ne_nil ('(' :: argument ++ ':' :: value)
  rw [htext, Text.trim_append hne hstarts hends, ← htext]

namespace RootForm

theorem ofLine_trim (r : RootForm) (hi : allBlank indent) :
    RootSelection.ofLine (Text.trim (indent ++ r.text)) = r.selection := by
  rw [Text.trim_blank_append hi]
  cases r with
  | bare object tail hobject htail hapart =>
    have hstarts : ∀ c ∈ object.text.head?, isBlank c = false :=
      fun c hc => object.not_blank c (List.mem_of_mem_head? hc)
    have hends : ∀ c ∈ object.text.getLast?, isBlank c = false :=
      fun c hc => object.not_blank c (List.mem_of_getLast? hc)
    have htrimmed : ':' ∉ Text.trimEnd tail := fun h => htail ((Text.trimEnd_prefix tail).mem h)
    rw [text, Text.trim_append object.ne_nil hstarts hends]
    exact (RootLine.bare object _ hobject htrimmed (Text.head?_trimEnd hapart)).ofLine_text
  | lookup object first tail hapart =>
    rw [text, object.trim_argument first.value_ends,
      RootSelection.ofLine_argument object.not_colon object.not_open first.argument_plain,
      Text.trim_of_ends object.starts object.ends,
      first.variableIn_value fun c hc => .inl (Text.head?_trimEnd hapart c hc)]
    rfl
  | constant object argument value hargument hvalue =>
    have hnone : ∀ c ∈ Text.before (· == ':') (Text.trimEnd value), (c == '$') = false := by
      apply Text.beq_of_not_mem
      intro hm
      obtain ⟨back, hb⟩ := Text.trimEnd_prefix value
      apply hvalue
      rw [← hb]
      exact (Text.before_prefix _ _ back).mem hm
    have hnil : ∀ c ∈ ([] : Text).getLast?, isBlank c = false := fun c hc => by cases hc
    have htrim := object.trim_argument hnil argument value
    rw [List.nil_append, List.nil_append] at htrim
    rw [text, htrim, RootSelection.ofLine_argument object.not_colon object.not_open hargument,
      Text.trim_of_ends object.starts object.ends, RootSelection.variableIn,
      Text.after?_eq_none hnone]
    rfl

theorem exists_not_blank (r : RootForm) : ∃ c ∈ r.text, isBlank c = false := by
  cases r with
  | bare object tail =>
    obtain ⟨c, hc⟩ := List.exists_mem_of_ne_nil _ object.ne_nil
    exact ⟨c, List.mem_append_left tail hc, object.not_blank c hc⟩
  | lookup object first tail =>
    exact ⟨'(', List.mem_append_left _ (List.mem_append_right _ List.mem_cons_self), rfl⟩
  | constant object argument value =>
    exact ⟨'(', List.mem_append_left _ (List.mem_append_right _ List.mem_cons_self), rfl⟩

theorem trim_ne_nil (r : RootForm) (indent : Text) : Text.trim (indent ++ r.text) ≠ [] := by
  intro h
  obtain ⟨c, hc, hn⟩ := r.exists_not_blank
  have hb := Text.isBlank_of_allBlank (Text.trim_eq_nil_iff.1 h) c (List.mem_append_right _ hc)
  rw [hn] at hb
  cases hb

end RootForm

/-- The heading that two lines declare in any layout, below lines that open no operation and above
any other lines. -/
theorem Heading.ofLines?_declared (above blank below : List Text) (front indent : Text)
    (first : HeadingLine) (root : RootForm)
    (ha : ∀ raw ∈ above, ∀ operation : Operation, ¬ operation.keyword <+: Text.trim raw)
    (hf : allBlank front) (hb : ∀ raw ∈ blank, allBlank raw) (hi : allBlank indent) :
    ofLines? (above ++ (front ++ first.text) :: (blank ++ (indent ++ root.text) :: below)) =
      some ⟨first.operation, first.name, some root.selection,
        above.length + 1 + blank.length + 1⟩ := by
  have habove : ∀ raw ∈ above, Operation.ofLine? (Text.trim raw) = none :=
    fun raw hr => Operation.ofLine?_eq_none_iff.2 (ha raw hr)
  obtain ⟨hroot, hheight⟩ := RootSelection.ofLines?_blank_append (Text.contents_of_allBlank hb)
    (root.trim_ne_nil indent) below
  rw [root.ofLine_trim hi] at hroot
  rw [ofLines?_append_of_none habove, ofLines?, first.trim_text hf, first.trimmed.ofLine?_text]
  dsimp only
  rw [first.trimmed.name?_rest, hroot, hheight, Option.map_some, Option.map_some]
  have hstart : blank.length + 1 + 1 + above.length = above.length + 1 + blank.length + 1 := by
    omega
  dsimp only
  rw [hstart]
  rfl

def listingHeading : HeadingLine where
  operation := .mutation
  gap := ['\t']
  initial := 'É'
  more := "tat_2"
  tail := "($a: Int) \x7b "
  gap_blank := by decide
  initial_opens := by decide
  name_plain := by decide
  tail_apart := by decide

def listingSubject : Subject where
  text := "Infra Device"
  ne_nil := by decide
  starts := by decide
  ends := by decide
  not_colon := by decide
  not_open := by decide

def listingArgument : Lookup where
  argument := " name__value "
  gap := "  "
  name := "a$)b"
  closers := "),\x7b"
  argument_plain := by decide
  gap_blank := by decide
  name_ne_nil := by decide
  name_not_blank := by decide
  name_plain := by decide
  name_ends := by decide
  closers_close := by decide

theorem Heading.ofLines?_declared_listing :
    ofLines? ["# query Old", "query", "  mutation \tÉtat_2($a: Int) \x7b ", " ",
        "\tInfra Device( name__value :  $a$)b),\x7b limit: $b", "x"] =
        some ⟨.mutation, "état_2", some ⟨"Infra Device", some "a$)b"⟩, 5⟩ ∧
      ofLines? ["mutation \tÉtat_2($a: Int) \x7b ", "Infra Device(limit: 5, name: $a)"] =
        some ⟨.mutation, "état_2", some ⟨"Infra Device", none⟩, 2⟩ ∧
      ofLines? ["mutation \tÉtat_2($a: Int) \x7b ", " Devices(all) \x7b"] =
        some ⟨.mutation, "état_2", some ⟨"Devices(all)", none⟩, 2⟩ := by
  have hold : ∀ raw ∈ (["# query Old", "query"] : List Text),
      Operation.ofLine? (Text.trim raw) = none := by decide
  refine ⟨?_, ?_, ?_⟩
  · exact ofLines?_declared ["# query Old", "query"] [" "] ["x"] "  " "\t" listingHeading
      (.lookup listingSubject listingArgument " limit: $b" (by decide))
      (fun raw hr => Operation.ofLine?_eq_none_iff.1 (hold raw hr)) rfl (by decide) rfl
  · exact ofLines?_declared [] [] [] [] [] listingHeading
      (.constant listingSubject "limit" " 5, name: $a)" (by decide) (by decide))
      (List.forall_mem_nil _) rfl (by decide) rfl
  · exact ofLines?_declared [] [] [] [] " " listingHeading
      (.bare (.of "Devices(all)" (by decide)) " \x7b" (by decide) (by decide) (by decide))
      (List.forall_mem_nil _) rfl (by decide) rfl

end QueryDescriptor
