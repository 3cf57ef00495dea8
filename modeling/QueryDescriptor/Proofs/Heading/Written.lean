import QueryDescriptor.Heading
import QueryDescriptor.Proofs.Selection.Forest
import QueryDescriptor.Proofs.Text.Contents

namespace QueryDescriptor

open Text (contents)

theorem Operation.ofLine?_eq_none_iff {line : Text} :
    ofLine? line = none ↔ ∀ operation : Operation, ¬ operation.keyword <+: line := by
  rw [ofLine?]
  split
  · next rest h =>
    constructor
    · intro hn
      cases hn
    · intro hk
      rw [Text.dropStart?_eq_none_iff.2 (hk .query)] at h
      cases h
  · next h =>
    rw [Option.map_eq_none_iff, Text.dropStart?_eq_none_iff]
    constructor
    · intro hm operation
      cases operation with
      | query => exact Text.dropStart?_eq_none_iff.1 h
      | mutation => exact hm
    · intro hk
      exact hk .mutation

theorem Operation.ofLine?_keyword (operation : Operation) (rest : Text) :
    ofLine? (operation.keyword ++ rest) = some (operation, rest) := by
  rw [ofLine?]
  cases operation with
  | query => rw [Text.dropStart?_append]
  | mutation => rw [Text.dropStart?_append]; rfl

theorem Operation.eq_keyword_append {operation : Operation} {line rest : Text}
    (h : ofLine? line = some (operation, rest)) : line = operation.keyword ++ rest := by
  rw [ofLine?] at h
  split at h
  · next hd =>
    cases h
    exact Text.eq_append_of_dropStart? hd
  · obtain ⟨_, hd, he⟩ := Option.map_eq_some_iff.1 h
    cases he
    exact Text.eq_append_of_dropStart? hd

/-- The characters that end the name of an operation. -/
def endsName (c : Char) : Bool := isBlank c || (c == '(' || c == '\x7b')

structure HeadingLine where
  operation : Operation
  gap : Text
  initial : Char
  more : Text
  tail : Text
  gap_blank : ∀ c ∈ gap, isBlank c = true
  initial_opens : isLetter initial || initial == '_'
  name_plain : ∀ c ∈ initial :: more, endsName c = false
  tail_apart : ∀ c ∈ tail.head?, endsName c = true

namespace HeadingLine

def rest (h : HeadingLine) : Text := h.gap ++ (h.initial :: h.more ++ h.tail)

def text (h : HeadingLine) : Text := h.operation.keyword ++ h.rest

def name (h : HeadingLine) : Text := lower h.initial ++ h.more

theorem not_blank_of_plain {c : Char} (h : endsName c = false) : isBlank c = false :=
  (Bool.or_eq_false_iff.1 h).1

theorem not_bracket_of_plain {c : Char} (h : endsName c = false) :
    (c == '(' || c == '\x7b') = false :=
  (Bool.or_eq_false_iff.1 h).2

theorem name?_rest (h : HeadingLine) : Heading.name? h.rest = some h.name := by
  have hw : ∀ c ∈ h.initial :: h.more, isBlank c = false :=
    fun c hc => not_blank_of_plain (h.name_plain c hc)
  have hb : ∀ c ∈ h.initial :: h.more, (c == '(' || c == '\x7b') = false :=
    fun c hc => not_bracket_of_plain (h.name_plain c hc)
  have ht : ∀ c ∈ (Text.before isBlank h.tail).head?, (c == '(' || c == '\x7b') = true := by
    intro c hc
    obtain ⟨hmem, hn⟩ := Text.head?_before hc
    have he := h.tail_apart c hmem
    rw [endsName, hn, Bool.false_or] at he
    exact he
  rw [Heading.name?, rest, Text.firstWord_blank_append h.gap_blank,
    Text.firstWord_append (List.cons_ne_nil _ _) hw, Text.before_append hb ht]
  exact if_pos h.initial_opens

theorem ofLine?_text (h : HeadingLine) :
    Operation.ofLine? h.text = some (h.operation, h.rest) :=
  Operation.ofLine?_keyword h.operation h.rest

end HeadingLine

/-- The first argument of a root selection, with a variable as its value. -/
structure Lookup where
  argument : Text
  gap : Text
  name : Text
  closers : Text
  argument_plain : ':' ∉ argument
  gap_blank : ∀ c ∈ gap, isBlank c = true
  name_ne_nil : name ≠ []
  name_not_blank : ∀ c ∈ name, isBlank c = false
  name_plain : ':' ∉ name
  name_ends : ∀ c ∈ name.getLast?, RootSelection.closesVariable c = false
  closers_close : ∀ c ∈ closers, RootSelection.closesVariable c = true

namespace Lookup

def value (l : Lookup) : Text := l.gap ++ '$' :: (l.name ++ l.closers)

theorem not_blank_of_closes {c : Char} (h : RootSelection.closesVariable c = true) :
    isBlank c = false := by
  simp only [RootSelection.closesVariable, Bool.or_eq_true, beq_iff_eq] at h
  rcases h with (rfl | rfl) | rfl <;> rfl

theorem not_colon_of_closes {c : Char} (h : RootSelection.closesVariable c = true) :
    (c == ':') = false := by
  simp only [RootSelection.closesVariable, Bool.or_eq_true, beq_iff_eq] at h
  rcases h with (rfl | rfl) | rfl <;> rfl

theorem beq_of_blank {c d : Char} (h : isBlank c = true) (hd : isBlank d = false) :
    (c == d) = false := by
  apply beq_false_of_ne
  rintro rfl
  rw [h] at hd
  cases hd

theorem value_plain (l : Lookup) : ∀ c ∈ l.value, (c == ':') = false := by
  intro c hc
  rcases List.mem_append.1 hc with hg | hr
  · exact beq_of_blank (l.gap_blank c hg) rfl
  · rcases List.mem_cons.1 hr with rfl | hr
    · rfl
    · rcases List.mem_append.1 hr with hn | hl
      · exact Text.beq_of_not_mem l.name_plain c hn
      · exact not_colon_of_closes (l.closers_close c hl)

theorem variableIn_value (l : Lookup) {tail : Text}
    (ht : ∀ c ∈ tail.head?, isBlank c = true ∨ c = ':') :
    RootSelection.variableIn (l.value ++ tail) = some l.name := by
  have hcut : Text.before (· == ':') (l.value ++ tail) =
      l.gap ++ '$' :: (l.name ++ l.closers ++ Text.before (· == ':') tail) := by
    rw [Text.before_append_of_not l.value_plain, value, List.append_assoc]
    rfl
  have hdollar : Text.after? (· == '$') (Text.before (· == ':') (l.value ++ tail)) =
      some (l.name ++ l.closers ++ Text.before (· == ':') tail) := by
    rw [hcut]
    exact Text.after?_append (fun c hc => beq_of_blank (l.gap_blank c hc) rfl) rfl _
  have hword : Text.before isBlank (l.name ++ l.closers ++ Text.before (· == ':') tail) =
      l.name ++ l.closers := by
    apply Text.before_append
    · intro c hc
      rcases List.mem_append.1 hc with hn | hl
      · exact l.name_not_blank c hn
      · exact not_blank_of_closes (l.closers_close c hl)
    · intro c hc
      obtain ⟨hm, hn⟩ := Text.head?_before hc
      exact (ht c hm).resolve_right (beq_eq_false_iff_ne.1 hn)
  have hname : Text.dropEndWhile RootSelection.closesVariable (l.name ++ l.closers) = l.name :=
    Text.dropEndWhile_append l.name_ends l.closers_close
  rw [RootSelection.variableIn, hdollar]
  dsimp only
  rw [hword, hname]
  split
  · next hn => exact absurd hn l.name_ne_nil
  · rfl

end Lookup

theorem RootSelection.ofLine_argument {object argument : Text} (ho : ':' ∉ object)
    (hb : '(' ∉ object) (ha : ':' ∉ argument) (value : Text) :
    ofLine (object ++ '(' :: argument ++ ':' :: value) = ⟨Text.trim object, variableIn value⟩ := by
  have hcolon : ':' ∉ object ++ '(' :: argument := by
    intro h
    rcases List.mem_append.1 h with h | h
    · exact ho h
    · rcases List.mem_cons.1 h with h | h
      · cases h
      · exact ha h
  have hcut : Text.before (· == ':') (object ++ '(' :: argument ++ ':' :: value) =
      object ++ '(' :: argument :=
    Text.before_append (Text.beq_of_not_mem hcolon) fun c hc => by cases hc; rfl
  have hobject : Text.before (· == '(') (object ++ '(' :: argument) = object :=
    Text.before_append (Text.beq_of_not_mem hb) fun c hc => by cases hc; rfl
  rw [ofLine, Text.after?_append (Text.beq_of_not_mem hcolon) rfl]
  dsimp only
  rw [hcut, hobject]

/-- A line of a root selection: an object, and in a lookup its first argument. -/
inductive RootLine where
  | bare (object : Selection.Name) (tail : Text) (object_plain : ':' ∉ object.text)
    (tail_plain : ':' ∉ tail) (tail_apart : ∀ c ∈ tail.head?, isBlank c = true)
  | lookup (object : Selection.Name) (first : Lookup) (tail : Text)
    (object_plain : ':' ∉ object.text) (object_open : '(' ∉ object.text)
    (tail_apart : ∀ c ∈ tail.head?, isBlank c = true)

namespace RootLine

def text : RootLine → Text
  | bare object tail .. => object.text ++ tail
  | lookup object first tail .. =>
    object.text ++ '(' :: first.argument ++ ':' :: (first.value ++ tail)

def selection : RootLine → RootSelection
  | bare object .. => ⟨object.text, none⟩
  | lookup object first .. => ⟨object.text, some first.name⟩

theorem ofLine_text (r : RootLine) : RootSelection.ofLine r.text = r.selection := by
  cases r with
  | bare object tail hobject htail hapart =>
    have hcolon : ':' ∉ object.text ++ tail := by
      intro h
      rcases List.mem_append.1 h with h | h
      · exact hobject h
      · exact htail h
    have hword : Text.firstWord (object.text ++ tail) = object.text := by
      rw [Text.firstWord_append object.ne_nil object.not_blank, Text.before_eq_nil hapart,
        List.append_nil]
    rw [text, RootSelection.ofLine, Text.after?_eq_none (Text.beq_of_not_mem hcolon)]
    dsimp only
    rw [hword]
    rfl
  | lookup object first tail hobject hopen hapart =>
    rw [text, RootSelection.ofLine_argument hobject hopen first.argument_plain,
      Text.trim_of_not_blank object.not_blank,
      first.variableIn_value fun c hc => .inl (hapart c hc)]
    rfl

end RootLine

namespace RootSelection

theorem ofLines?_blank_append {blank : List Text} {raw : Text} (hb : contents blank = [])
    (hn : Text.trim raw ≠ []) (below : List Text) :
    ofLines? (blank ++ raw :: below) = some (ofLine (Text.trim raw)) ∧
      height (blank ++ raw :: below) = blank.length + 1 := by
  have hblank := Text.allBlank_of_contents hb
  have hraw : Text.allBlank raw = false := by
    cases hall : Text.allBlank raw with
    | false => rfl
    | true => exact absurd (Text.trim_eq_nil_iff.2 hall) hn
  refine ⟨?_, ?_⟩
  · have hfind : (blank ++ raw :: below).find? (!Text.allBlank ·) = some raw := by
      rw [List.find?_append, List.find?_eq_none.2, List.find?_cons_of_pos]
      · rfl
      · rw [hraw]
        rfl
      · intro l hl
        rw [hblank l hl]
        exact Bool.false_ne_true
    rw [ofLines?, hfind, Option.map_some]
  · have htake : (blank ++ raw :: below).takeWhile Text.allBlank = blank := by
      rw [List.takeWhile_append_of_pos hblank, List.takeWhile_cons_of_neg, List.append_nil]
      rw [hraw]
      exact Bool.false_ne_true
    rw [height, htake, List.length_append, List.length_cons]
    omega

theorem ofLines?_of_blank {lines : List Text} (h : contents lines = []) :
    ofLines? lines = none ∧ height lines = lines.length := by
  have hblank := Text.allBlank_of_contents h
  refine ⟨?_, ?_⟩
  · rw [ofLines?, List.find?_eq_none.2]
    · rfl
    · intro l hl
      rw [hblank l hl]
      exact Bool.false_ne_true
  · rw [height, List.takeWhile_eq_self_iff.2 hblank]
    omega

theorem ofLines?_of_contents {lines rest : List Text} {text : Text}
    (h : contents lines = text :: rest) : ofLines? lines = some (ofLine text) ∧
      contents (lines.drop (height lines)) = rest := by
  obtain ⟨blank, raw, below, rfl, hb, rfl, hn, hrest⟩ := Text.exists_cons_of_contents h
  obtain ⟨hroot, hheight⟩ := ofLines?_blank_append hb hn below
  refine ⟨hroot, ?_⟩
  rw [hheight, List.drop_length_add_append]
  exact hrest

end RootSelection

namespace Heading

theorem ofLines?_append_of_none {above : List Text}
    (h : ∀ raw ∈ above, Operation.ofLine? (Text.trim raw) = none) (lines : List Text) :
    ofLines? (above ++ lines) =
      (ofLines? lines).map fun h => { h with bodyStart := h.bodyStart + above.length } := by
  induction above with
  | nil =>
    rw [List.nil_append]
    exact Option.map_id'.symm
  | cons raw above ih =>
    rw [List.cons_append, ofLines?, h raw List.mem_cons_self]
    dsimp only
    rw [ih fun l hl => h l (List.mem_cons_of_mem raw hl), Option.map_map]
    rfl

theorem ofLines?_blank_append {blank : List Text} (h : contents blank = []) (lines : List Text) :
    ofLines? (blank ++ lines) =
      (ofLines? lines).map fun h => { h with bodyStart := h.bodyStart + blank.length } := by
  apply ofLines?_append_of_none
  intro raw hr
  rw [Text.trim_eq_nil_iff.2 (Text.allBlank_of_contents h raw hr)]
  rfl

theorem exists_ofLines?_of_contents {lines rest : List Text} {first : HeadingLine} {root : Text}
    (h : contents lines = first.text :: root :: rest) :
    ∃ heading, ofLines? lines = some heading ∧ heading.operation = first.operation ∧
      heading.name = first.name ∧ heading.root = some (.ofLine root) ∧
      contents (lines.drop heading.bodyStart) = rest := by
  obtain ⟨blank, raw, below, rfl, hb, hr, _, hbelow⟩ := Text.exists_cons_of_contents h
  obtain ⟨hroot, hrest⟩ := RootSelection.ofLines?_of_contents hbelow
  have hfirst : ofLines? (raw :: below) = some ⟨first.operation, first.name,
      some (.ofLine root), RootSelection.height below + 1⟩ := by
    rw [ofLines?, hr, first.ofLine?_text]
    dsimp only
    rw [first.name?_rest, hroot]
    rfl
  rw [ofLines?_blank_append hb, hfirst]
  refine ⟨_, rfl, rfl, rfl, rfl, ?_⟩
  dsimp only
  rw [Nat.add_comm, List.drop_length_add_append]
  exact hrest

theorem exists_ofLines? {lines rest : List Text} {first : HeadingLine} {root : RootLine}
    (h : contents lines = first.text :: root.text :: rest) :
    ∃ heading, ofLines? lines = some heading ∧ heading.operation = first.operation ∧
      heading.name = first.name ∧ heading.root = some root.selection ∧
      contents (lines.drop heading.bodyStart) = rest := by
  obtain ⟨heading, hh, hoperation, hname, hroot, hbody⟩ := exists_ofLines?_of_contents h
  rw [root.ofLine_text] at hroot
  exact ⟨heading, hh, hoperation, hname, hroot, hbody⟩

end Heading
end QueryDescriptor
