import QueryDescriptor.Proofs.Text.Parts
import QueryDescriptor.Text.Lines

namespace QueryDescriptor.Text

variable {front back t line : Text} {above below rest : List Text} {c : Char}

/-- What follows the text begins a line. -/
def EndsLine (t : Text) : Prop := ∀ c ∈ t.getLast?, c = '\n'

instance (t : Text) : Decidable (EndsLine t) :=
  inferInstanceAs (Decidable (∀ c ∈ t.getLast?, c = '\n'))

theorem lines_ne_nil (h : t ≠ []) : lines t ≠ [] := by
  fun_cases lines t with
  | case1 => exact absurd rfl h
  | case2 t => exact List.cons_ne_nil _ _
  | case3 t => exact List.cons_ne_nil _ _
  | case4 c t hn hr hl => exact List.cons_ne_nil _ _
  | case5 c t hn hr line rest hl => exact List.cons_ne_nil _ _

theorem lines_cons (hn : c ≠ '\n') (hr : ∀ s, c = '\r' → t ≠ '\n' :: s) :
    lines (c :: t) = match lines t with
      | [] => [[c]]
      | line :: rest => (c :: line) :: rest :=
  lines.eq_4 c t hn hr

theorem lines_append_line (hf : '\n' ∉ front) (ht : t.head? ≠ some '\n')
    (h : lines t = line :: rest) : lines (front ++ t) = (front ++ line) :: rest := by
  induction front with
  | nil => exact h
  | cons c front ih =>
    have hc : c ≠ '\n' := fun he => hf (he ▸ List.mem_cons_self)
    have hfront : '\n' ∉ front := fun hm => hf (List.mem_cons_of_mem c hm)
    have hhead (s : Text) : front ++ t ≠ '\n' :: s := by
      intro he
      cases front with
      | nil => exact ht (congrArg List.head? he)
      | cons d front =>
        cases he
        exact hfront List.mem_cons_self
    rw [List.cons_append, lines_cons hc fun s _ => hhead s, ih hfront]
    rfl

theorem lines_of_append_line (hf : '\n' ∉ front) (ht : t.head? ≠ some '\n') (hne : t ≠ [])
    (h : lines (front ++ t) = (front ++ line) :: rest) : lines t = line :: rest := by
  obtain ⟨first, more, hfirst⟩ := List.exists_cons_of_ne_nil (lines_ne_nil hne)
  rw [lines_append_line hf ht hfirst] at h
  obtain ⟨hline, rfl⟩ := List.cons.inj h
  rw [hfirst, List.append_cancel_left hline]

theorem EndsLine.of_cons (h : EndsLine (c :: t)) : EndsLine t := by
  intro d hd
  apply h
  rw [List.getLast?_cons, Option.mem_def.1 hd]
  rfl

theorem EndsLine.cons (h : EndsLine t) (hc : t = [] → c = '\n') : EndsLine (c :: t) := by
  intro d hd
  by_cases ht : t = []
  · rw [ht] at hd
    cases hd
    exact hc ht
  · obtain ⟨e, s, rfl⟩ := List.exists_cons_of_ne_nil ht
    rw [List.getLast?_cons_cons] at hd
    exact h d hd

theorem lines_append (h : EndsLine front) (t : Text) :
    lines (front ++ t) = lines front ++ lines t := by
  fun_induction lines front with
  | case1 => rfl
  | case2 front ih => rw [List.cons_append, lines, ih h.of_cons, List.cons_append]
  | case3 front ih =>
    rw [List.cons_append, List.cons_append, lines, ih h.of_cons.of_cons, List.cons_append]
  | case4 c front hn hr hl ih =>
    -- A last line that is not ended is excluded.
    by_cases hf : front = []
    · rw [hf] at h
      exact absurd (h c rfl) hn
    · exact absurd hl (lines_ne_nil hf)
  | case5 c front hn hr line rest hl ih =>
    have hhead (s : Text) (hc : c = '\r') : front ++ t ≠ '\n' :: s := by
      intro he
      cases front with
      | nil => cases hl
      | cons d front =>
        cases he
        exact hr front hc rfl
    rw [List.cons_append, lines_cons hn hhead, ih h.of_cons, hl]
    rfl

theorem not_mem_of_lines (h : line ∈ lines t) : '\n' ∉ line := by
  fun_induction lines t generalizing line with
  | case1 => cases h
  | case2 t ih =>
    rcases List.mem_cons.1 h with rfl | h
    · exact List.not_mem_nil
    · exact ih h
  | case3 t ih =>
    rcases List.mem_cons.1 h with rfl | h
    · exact List.not_mem_nil
    · exact ih h
  | case4 c t hn hr hl ih =>
    rw [List.mem_singleton.1 h, List.mem_singleton]
    exact fun he => hn he.symm
  | case5 c t hn hr first rest hl ih =>
    rw [hl] at ih
    rcases List.mem_cons.1 h with rfl | h
    · rw [List.mem_cons]
      rintro (he | hm)
      · exact hn he.symm
      · exact ih List.mem_cons_self hm
    · exact ih (List.mem_cons_of_mem first h)

theorem prefix_of_lines (h : lines t = line :: rest) : line <+: t := by
  fun_induction lines t generalizing line rest with
  | case1 => cases h
  | case2 t ih =>
    cases h
    exact List.nil_prefix
  | case3 t ih =>
    cases h
    exact List.nil_prefix
  | case4 c t hn hr hl ih =>
    cases h
    exact ⟨t, rfl⟩
  | case5 c t hn hr first more hl ih =>
    cases h
    exact List.cons_prefix_cons.2 ⟨rfl, ih hl⟩

theorem exists_append_of_lines (h : lines t = above ++ line :: below) :
    ∃ front back, t = front ++ back ∧ EndsLine front ∧ lines front = above ∧
      lines back = line :: below := by
  have hnil : EndsLine [] := fun c hc => by cases hc
  have hne (above : List Text) : above ++ line :: below ≠ [] :=
    List.append_ne_nil_of_right_ne_nil above (List.cons_ne_nil line below)
  fun_induction lines t generalizing above with
  | case1 => exact absurd h.symm (hne above)
  | case2 t ih =>
    cases above with
    | nil => exact ⟨[], _, rfl, hnil, rfl, h⟩
    | cons first above =>
      obtain ⟨rfl, ht⟩ := List.cons_eq_cons.1 h
      obtain ⟨front, back, rfl, he, rfl, hb⟩ := ih ht
      exact ⟨'\n' :: front, back, rfl, he.cons fun _ => rfl, rfl, hb⟩
  | case3 t ih =>
    cases above with
    | nil => exact ⟨[], _, rfl, hnil, rfl, h⟩
    | cons first above =>
      obtain ⟨rfl, ht⟩ := List.cons_eq_cons.1 h
      obtain ⟨front, back, rfl, he, rfl, hb⟩ := ih ht
      refine ⟨'\r' :: '\n' :: front, back, rfl, ?_, rfl, hb⟩
      exact (he.cons fun _ => rfl).cons fun hn => by cases hn
  | case4 c t hn hr hl ih =>
    cases above with
    | nil => exact ⟨[], c :: t, rfl, hnil, rfl, by rw [lines_cons hn hr, hl]; exact h⟩
    | cons first above => exact absurd (List.cons_eq_cons.1 h).2.symm (hne above)
  | case5 c t hn hr first rest hl ih =>
    cases above with
    | nil => exact ⟨[], c :: t, rfl, hnil, rfl, by rw [lines_cons hn hr, hl]; exact h⟩
    | cons next above =>
      obtain ⟨rfl, rfl⟩ := List.cons_eq_cons.1 h
      have hmore : lines t = (first :: above) ++ line :: below := hl
      obtain ⟨front, back, rfl, he, hf, hb⟩ := ih hmore
      have hfront : front ≠ [] := by
        rintro rfl
        cases hf
      have hhead (s : Text) (hc : c = '\r') : front ≠ '\n' :: s := by
        rintro rfl
        exact hr _ hc rfl
      refine ⟨c :: front, back, rfl, he.cons fun hn => absurd hn hfront, ?_, hb⟩
      rw [lines_cons hn hhead, hf]

end QueryDescriptor.Text
