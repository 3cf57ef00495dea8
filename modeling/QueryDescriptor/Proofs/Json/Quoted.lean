import QueryDescriptor.Json
import QueryDescriptor.Proofs.Text.Parts

namespace QueryDescriptor.Json

variable {c d : Char} {s t x y : Text}

/-- The characters that do not stand for themselves between quotes. -/
def specials : List Char := '"' :: '\\' :: (List.range 32).map Char.ofNat

theorem escaped_of_not_mem (h : c ∉ specials) : escaped c = [c] := by
  have hc : ¬ c.toNat < 32 := by
    intro hlt
    apply h
    rw [← Char.ofNat_toNat c]
    exact List.mem_cons_of_mem _ (List.mem_cons_of_mem _
      (List.mem_map_of_mem (List.mem_range.2 hlt)))
  fun_cases escaped c with
  | case1 => exact absurd (by decide) h
  | case2 => exact absurd (by decide) h
  | case3 => exact absurd (by decide) h
  | case4 => exact absurd (by decide) h
  | case5 => exact absurd (by decide) h
  | case6 => exact absurd (by decide) h
  | case7 => exact absurd (by decide) h
  | case8 => exact absurd ‹_› hc
  | case9 => rfl

theorem head?_escaped_of_mem : ∀ c ∈ specials, (escaped c).head? = some '\\' := by decide

theorem escaped_prefix_inj :
    ∀ c ∈ specials, ∀ d ∈ specials, escaped c <+: escaped d → c = d := by decide

theorem head?_escaped (c : Char) :
    (escaped c).head? = some (if c ∈ specials then '\\' else c) := by
  split
  · next hc => exact head?_escaped_of_mem c hc
  · next hc => rw [escaped_of_not_mem hc, List.head?_singleton]

theorem head?_escaped_append (c : Char) (s : Text) :
    (escaped c ++ s).head? = some (if c ∈ specials then '\\' else c) := by
  rw [List.head?_append, head?_escaped, Option.some_or]

theorem escaped_append_inj (h : escaped c ++ s = escaped d ++ t) : c = d ∧ s = t := by
  have hslash : '\\' ∈ specials := by decide
  have hhead : (if c ∈ specials then '\\' else c) = if d ∈ specials then '\\' else d := by
    rw [← Option.some.injEq, ← head?_escaped_append c s, ← head?_escaped_append d t, h]
  have hcd : c = d := by
    by_cases hc : c ∈ specials
    · by_cases hd : d ∈ specials
      · rcases List.prefix_or_prefix_of_prefix ⟨s, h⟩ (List.prefix_append (escaped d) t) with hp | hp
        · exact escaped_prefix_inj c hc d hd hp
        · exact (escaped_prefix_inj d hd c hc hp).symm
      · rw [if_pos hc, if_neg hd] at hhead
        exact absurd (hhead ▸ hslash) hd
    · by_cases hd : d ∈ specials
      · rw [if_neg hc, if_pos hd] at hhead
        exact absurd (hhead ▸ hslash) hc
      · rwa [if_neg hc, if_neg hd] at hhead
  subst hcd
  exact ⟨rfl, List.append_cancel_left h⟩

theorem escaped_append_ne_quote (c : Char) (s x : Text) : escaped c ++ s ≠ '"' :: x := by
  intro h
  have hhead := congrArg List.head? h
  rw [head?_escaped_append, List.head?_cons, Option.some.injEq] at hhead
  split at hhead
  · cases hhead
  · next hc => exact hc (hhead ▸ by decide)

theorem flatMap_escaped_inj (h : s.flatMap escaped ++ '"' :: x = t.flatMap escaped ++ '"' :: y) :
    s = t ∧ x = y := by
  induction s generalizing t with
  | nil =>
    cases t with
    | nil => exact ⟨rfl, (List.cons.inj h).2⟩
    | cons d t =>
      rw [List.flatMap_cons, List.append_assoc] at h
      exact absurd h.symm (escaped_append_ne_quote d _ x)
  | cons c s ih =>
    rw [List.flatMap_cons, List.append_assoc] at h
    cases t with
    | nil => exact absurd h (escaped_append_ne_quote c _ y)
    | cons d t =>
      rw [List.flatMap_cons, List.append_assoc] at h
      obtain ⟨rfl, hrest⟩ := escaped_append_inj h
      obtain ⟨rfl, hxy⟩ := ih hrest
      exact ⟨rfl, hxy⟩

theorem quoted_append_inj (h : quoted s ++ x = quoted t ++ y) : s = t ∧ x = y := by
  rw [quoted, quoted, List.append_assoc, List.append_assoc] at h
  exact flatMap_escaped_inj (List.cons.inj h).2

end QueryDescriptor.Json
