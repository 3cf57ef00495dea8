import QueryDescriptor.Proofs.Text.Parts
import QueryDescriptor.Text.Occurrence

namespace QueryDescriptor.Text

variable {p new extra t gap rest : Text} {gaps others : List Text}

/-- No occurrence of the pattern starts before the one that ends the gap. -/
def FirstAfter (p gap rest : Text) : Prop :=
  ∀ above below, gap ++ p ++ rest = above ++ p ++ below → gap.length ≤ above.length

/-- The parts of a text around the leftmost occurrences of a pattern that do not overlap. -/
inductive Gaps (p : Text) : Text → List Text → Prop where
  | last {t : Text} : ¬ p <:+: t → Gaps p t [t]
  | next {gap rest : Text} {gaps : List Text} : FirstAfter p gap rest → Gaps p rest gaps →
      Gaps p (gap ++ p ++ rest) (gap :: gaps)

theorem exists_firstAfter (h : p <:+: t) :
    ∃ gap rest, t = gap ++ p ++ rest ∧ FirstAfter p gap rest := by
  induction t with
  | nil =>
    obtain rfl := List.infix_nil.1 h
    exact ⟨[], [], rfl, fun _ _ _ => Nat.zero_le _⟩
  | cons c t ih =>
    by_cases hp : p <+: c :: t
    · obtain ⟨rest, hr⟩ := hp
      exact ⟨[], rest, hr.symm, fun _ _ _ => Nat.zero_le _⟩
    · obtain ⟨gap, rest, rfl, hf⟩ := ih ((List.infix_cons_iff.1 h).resolve_left hp)
      refine ⟨c :: gap, rest, rfl, fun above below he => ?_⟩
      cases above with
      | nil => exact absurd ⟨below, he.symm⟩ hp
      | cons d above => exact Nat.succ_le_succ (hf above below (List.cons.inj he).2)

theorem exists_gaps (hp : p ≠ []) (t : Text) : ∃ gaps, Gaps p t gaps := by
  induction hn : t.length using Nat.strong_induction_on generalizing t with
  | _ n ih =>
    by_cases h : p <:+: t
    · obtain ⟨gap, rest, rfl, hf⟩ := exists_firstAfter h
      have hlt : rest.length < n := by
        have hpos := List.length_pos_of_ne_nil hp
        rw [← hn, List.length_append, List.length_append]
        omega
      obtain ⟨gaps, hg⟩ := ih rest.length hlt rest rfl
      exact ⟨gap :: gaps, .next hf hg⟩
    · exact ⟨[t], .last h⟩

namespace Gaps

theorem ne_nil (h : Gaps p t gaps) : gaps ≠ [] := by
  cases h with
  | last _ => exact List.cons_ne_nil _ _
  | next _ _ => exact List.cons_ne_nil _ _

theorem cases_eq (h : Gaps p t gaps) :
    (¬ p <:+: t ∧ gaps = [t]) ∨
      ∃ gap rest below, t = gap ++ p ++ rest ∧ FirstAfter p gap rest ∧ Gaps p rest below ∧
        gaps = gap :: below := by
  cases h with
  | last hn => exact .inl ⟨hn, rfl⟩
  | next hf hg => exact .inr ⟨_, _, _, rfl, hf, hg, rfl⟩

theorem unique (h : Gaps p t gaps) (ho : Gaps p t others) : others = gaps := by
  induction h generalizing others with
  | last hn =>
    rcases ho.cases_eq with ⟨_, rfl⟩ | ⟨gap, rest, _, rfl, _, _, _⟩
    · rfl
    · exact absurd ⟨gap, rest, rfl⟩ hn
  | @next gap rest gaps hf _ ih =>
    rcases ho.cases_eq with ⟨hn, _⟩ | ⟨gap', rest', below, he, hf', hg', rfl⟩
    · exact absurd ⟨gap, rest, rfl⟩ hn
    · have hl : gap.length = gap'.length :=
        Nat.le_antisymm (hf gap' rest' he) (hf' gap rest he.symm)
      rw [List.append_assoc, List.append_assoc] at he
      obtain ⟨rfl, hr⟩ := List.append_inj he hl
      obtain rfl := List.append_cancel_left hr
      rw [ih hg']

theorem join_cons (h : Gaps p t gaps) (separator gap : Text) :
    join separator (gap :: gaps) = gap ++ separator ++ join separator gaps := by
  obtain ⟨next, below, rfl⟩ := List.exists_cons_of_ne_nil h.ne_nil
  exact join_cons_cons separator gap next below

theorem join_eq (h : Gaps p t gaps) : join p gaps = t := by
  induction h with
  | last _ => rfl
  | next _ hg ih => rw [hg.join_cons, ih]

theorem firstAfter_append (h : FirstAfter p gap rest) (extra below : Text) :
    FirstAfter (p ++ extra) gap below := by
  intro above after he
  by_contra hlt
  -- An earlier occurrence of the longer pattern starts with one of `p` that ends within `gap ++ p`.
  have hearlier : above ++ p <+: gap ++ (p ++ extra) ++ below := by
    rw [he]
    exact ⟨extra ++ after, by simp only [List.append_assoc]⟩
  have hlater : gap ++ p <+: gap ++ (p ++ extra) ++ below :=
    ⟨extra ++ below, by simp only [List.append_assoc]⟩
  have hp : above ++ p <+: gap ++ p := by
    apply List.prefix_of_prefix_length_le hearlier hlater
    rw [List.length_append, List.length_append]
    omega
  obtain ⟨between, hb⟩ := hp
  exact hlt (h above (between ++ rest) (by rw [← hb, List.append_assoc (above ++ p)]))

theorem append (h : Gaps p t gaps) (extra : Text) :
    Gaps (p ++ extra) (join (p ++ extra) gaps) gaps := by
  induction h with
  | last hn => exact .last fun hi => hn ((List.prefix_append p extra).isInfix.trans hi)
  | next hf hg ih =>
    rw [hg.join_cons]
    exact .next (firstAfter_append hf extra _) ih

end Gaps

theorem replaceFrom_eq_drop (p new : Text) (covered : Nat) (t : Text) :
    replaceFrom p new covered t = replace p new (t.drop covered) := by
  induction t generalizing covered with
  | nil => rw [List.drop_nil, replace, replaceFrom, replaceFrom]
  | cons c t ih =>
    cases covered with
    | zero => rfl
    | succ covered => rw [replaceFrom, ih, List.drop_succ_cons]

theorem replace_append (hp : p ≠ []) (new rest : Text) :
    replace p new (p ++ rest) = new ++ replace p new rest := by
  obtain ⟨c, start, rfl⟩ := List.exists_cons_of_ne_nil hp
  have hpre : (c :: start).isPrefixOf (c :: (start ++ rest)) = true :=
    List.isPrefixOf_iff_prefix.2 (List.prefix_append (c :: start) rest)
  rw [List.cons_append, replace, replaceFrom, if_pos hpre, replaceFrom_eq_drop, List.length_cons,
    Nat.add_sub_cancel, List.drop_left]

theorem replace_cons {c : Char} (h : ¬ p <+: c :: t) :
    replace p new (c :: t) = c :: replace p new t := by
  rw [replace, replaceFrom, if_neg (mt List.isPrefixOf_iff_prefix.1 h)]
  rfl

theorem replace_of_not_infix (h : ¬ p <:+: t) : replace p new t = t := by
  induction t with
  | nil => rfl
  | cons c t ih =>
    rw [List.infix_cons_iff, not_or] at h
    rw [replace_cons h.1, ih h.2]

theorem replace_firstAfter (hp : p ≠ []) (h : FirstAfter p gap rest) :
    replace p new (gap ++ p ++ rest) = gap ++ new ++ replace p new rest := by
  induction gap with
  | nil => exact replace_append hp new rest
  | cons c gap ih =>
    have hn : ¬ p <+: c :: (gap ++ p ++ rest) := by
      rintro ⟨below, he⟩
      exact Nat.not_succ_le_zero _ (h [] below he.symm)
    have hf : FirstAfter p gap rest := by
      intro above below he
      exact Nat.le_of_succ_le_succ (h (c :: above) below (congrArg (c :: ·) he))
    rw [List.cons_append, List.cons_append, replace_cons hn, ih hf]
    rfl

theorem Gaps.replace_eq (hp : p ≠ []) (h : Gaps p t gaps) (new : Text) :
    replace p new t = join new gaps := by
  induction h with
  | last hn => exact replace_of_not_infix hn
  | next hf hg ih => rw [replace_firstAfter hp hf, ih, hg.join_cons]

theorem replace_replace_append (hp : p ≠ []) (extra t : Text) :
    replace (p ++ extra) p (replace p (p ++ extra) t) = t := by
  obtain ⟨gaps, hg⟩ := exists_gaps hp t
  rw [hg.replace_eq hp, (hg.append extra).replace_eq (List.append_ne_nil_of_left_ne_nil hp extra),
    hg.join_eq]

end QueryDescriptor.Text
