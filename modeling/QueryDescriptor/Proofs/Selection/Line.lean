import QueryDescriptor.Proofs.Text.Contents
import QueryDescriptor.Selection.Outline

namespace QueryDescriptor.Selection

def closingText : Text := ['\x7d']

def openingEnd : Text := [' ', '\x7b']

namespace Line

variable {raw text name : Text}

theorem ofText_of_blank (h : Text.trim raw = []) : ofText raw = .blank := by
  rw [ofText, h]
  rfl

theorem ofText_of_closing (h : Text.trim raw = closingText) : ofText raw = .closing := by
  rw [ofText, h]
  rfl

theorem ofText_of_opening (h : Text.trim raw = name ++ openingEnd) :
    ofText raw = .opening (Text.trim name) := by
  rw [ofText, h, ← openingEnd, Text.dropEnd?_append]

theorem ofText_of_leaf (h : Text.trim raw = text) (hn : text ≠ []) (hc : text ≠ closingText)
    (ho : ¬ openingEnd <:+ text) : ofText raw = .leaf text := by
  rw [ofText, h, ← openingEnd, Text.dropEnd?_eq_none_iff.2 ho]
  dsimp only
  split
  · exact absurd rfl hn
  · exact absurd rfl hc
  · rfl

theorem ofText_cases (raw : Text) :
    (Text.trim raw = [] ∧ ofText raw = .blank) ∨
    (Text.trim raw = closingText ∧ ofText raw = .closing) ∨
    (∃ name, Text.trim raw = name ++ openingEnd ∧ ofText raw = .opening (Text.trim name)) ∨
    (Text.trim raw ≠ [] ∧ Text.trim raw ≠ closingText ∧ ¬ openingEnd <:+ Text.trim raw ∧
      ofText raw = .leaf (Text.trim raw)) := by
  by_cases hn : Text.trim raw = []
  · exact .inl ⟨hn, ofText_of_blank hn⟩
  by_cases hc : Text.trim raw = closingText
  · exact .inr (.inl ⟨hc, ofText_of_closing hc⟩)
  by_cases ho : openingEnd <:+ Text.trim raw
  · obtain ⟨name, he⟩ := ho
    exact .inr (.inr (.inl ⟨name, he.symm, ofText_of_opening he.symm⟩))
  · exact .inr (.inr (.inr ⟨hn, hc, ho, ofText_of_leaf rfl hn hc ho⟩))

theorem ofText_eq_closing_iff : ofText raw = .closing ↔ Text.trim raw = closingText := by
  constructor
  · intro h
    rcases ofText_cases raw with ⟨_, he⟩ | ⟨ht, _⟩ | ⟨_, _, he⟩ | ⟨_, _, _, he⟩
    · rw [h] at he
      cases he
    · exact ht
    · rw [h] at he
      cases he
    · rw [h] at he
      cases he
  · exact ofText_of_closing

end Line

/-- A line that a scan which has stopped passes over in silence. -/
def Idle (raw : Text) : Prop := Text.trim raw = [] ∨ Text.trim raw = closingText

theorem firstContent?_of_idle {raw : Text} (h : Idle raw) (n : Nat) (below : List Text) :
    firstContent? n (raw :: below) = firstContent? (n + 1) below := by
  rcases h with h | h
  · rw [firstContent?, h]
  · rw [firstContent?, h]
    rfl

theorem firstContent?_of_not_idle {raw : Text} (h : ¬ Idle raw) (n : Nat) (below : List Text) :
    firstContent? n (raw :: below) = some n := by
  rw [firstContent?]
  split
  · next he => exact absurd (.inl he) h
  · next he => exact absurd (.inr he) h
  · rfl

theorem firstContent?_eq_none {lines : List Text} (h : ∀ raw ∈ lines, Idle raw) (n : Nat) :
    firstContent? n lines = none := by
  induction lines generalizing n with
  | nil => rfl
  | cons raw below ih =>
    rw [firstContent?_of_idle (h raw List.mem_cons_self)]
    exact ih (fun l hl => h l (List.mem_cons_of_mem raw hl)) (n + 1)

theorem firstContent?_append {idle : List Text} (h : ∀ raw ∈ idle, Idle raw) (n : Nat)
    (below : List Text) :
    firstContent? n (idle ++ below) = firstContent? (n + idle.length) below := by
  induction idle generalizing n with
  | nil => rfl
  | cons raw idle ih =>
    rw [List.cons_append, firstContent?_of_idle (h raw List.mem_cons_self),
      ih (fun l hl => h l (List.mem_cons_of_mem raw hl)), List.length_cons]
    congr 1
    omega

theorem exists_first_not_idle (lines : List Text) :
    (∀ raw ∈ lines, Idle raw) ∨
      ∃ idle raw below, lines = idle ++ raw :: below ∧ (∀ l ∈ idle, Idle l) ∧ ¬ Idle raw := by
  induction lines with
  | nil => exact .inl (fun raw hr => by cases hr)
  | cons raw below ih =>
    by_cases hr : Idle raw
    · rcases ih with hi | ⟨idle, first, rest, rfl, hi, hf⟩
      · exact .inl (List.forall_mem_cons.2 ⟨hr, hi⟩)
      · exact .inr ⟨raw :: idle, first, rest, rfl, List.forall_mem_cons.2 ⟨hr, hi⟩, hf⟩
    · exact .inr ⟨[], raw, below, rfl, fun l hl => (by cases hl), hr⟩

theorem firstContent?_eq_some_iff {n m : Nat} {lines : List Text} :
    firstContent? n lines = some m ↔
      ∃ idle raw below, lines = idle ++ raw :: below ∧ (∀ l ∈ idle, Idle l) ∧ ¬ Idle raw ∧
        m = n + idle.length := by
  constructor
  · intro h
    rcases exists_first_not_idle lines with hi | ⟨idle, raw, below, rfl, hi, hr⟩
    · rw [firstContent?_eq_none hi] at h
      cases h
    · rw [firstContent?_append hi, firstContent?_of_not_idle hr] at h
      cases h
      exact ⟨idle, raw, below, rfl, hi, hr, rfl⟩
  · rintro ⟨idle, raw, below, rfl, hi, hr, rfl⟩
    rw [firstContent?_append hi, firstContent?_of_not_idle hr]

theorem idle_of_contents {k : Nat} {lines : List Text}
    (h : Text.contents lines = List.replicate k closingText) : ∀ raw ∈ lines, Idle raw := by
  intro raw hr
  by_cases hb : Text.trim raw = []
  · exact .inl hb
  · have hm := Text.mem_contents hr hb
    rw [h] at hm
    exact .inr (List.eq_of_mem_replicate hm)

theorem firstContent?_of_contents {text : Text} {lines rest : List Text}
    (h : Text.contents lines = text :: rest) (hc : text ≠ closingText) (n : Nat) :
    firstContent? n lines = some (Text.lineAt n lines 0) := by
  obtain ⟨blank, raw, below, rfl, hb, rfl, hn, hr⟩ := Text.exists_cons_of_contents h
  have hi : ¬ Idle raw := by
    rintro (h | h)
    · exact hn h
    · exact hc h
  rw [Text.lineAt_blank_append hb, Text.lineAt_cons_zero hn,
    firstContent?_append (idle_of_contents (k := 0) hb), firstContent?_of_not_idle hi]

end QueryDescriptor.Selection
