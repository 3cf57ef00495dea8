import Mathlib.Data.List.Forall2
import QueryDescriptor.Proofs.Text.Contents
import QueryDescriptor.Proofs.Text.Lines

namespace QueryDescriptor.Text

variable {t front back : Text} {c : Char}

theorem allBlank_cons : allBlank (c :: t) ↔ isBlank c ∧ allBlank t := by
  rw [allBlank, List.all_cons, Bool.and_eq_true]
  rfl

theorem allBlank_singleton (h : isBlank c) : allBlank [c] := allBlank_cons.2 ⟨h, rfl⟩

theorem isBlank_of_allBlank (h : allBlank t) : ∀ c ∈ t, isBlank c = true := List.all_eq_true.1 h

theorem trim_blank_append (h : allBlank front) (t : Text) : trim (front ++ t) = trim t := by
  rw [trim, trimStart, List.dropWhile_append_of_pos (isBlank_of_allBlank h)]
  rfl

theorem trimEnd_append_blank (h : allBlank back) (t : Text) : trimEnd (t ++ back) = trimEnd t := by
  have hr : ∀ c ∈ back.reverse, isBlank c = true :=
    fun c hc => isBlank_of_allBlank h c (List.mem_reverse.1 hc)
  rw [trimEnd, dropEndWhile, List.reverse_append, List.dropWhile_append_of_pos hr]
  rfl

theorem trimEnd_append_of_not_blank (h : ¬ allBlank back) (t : Text) :
    trimEnd (t ++ back) = t ++ trimEnd back := by
  have hne : ¬ (back.reverse.dropWhile isBlank).isEmpty := by
    intro he
    have hb := List.dropWhile_eq_nil_iff.1 (List.isEmpty_iff.1 he)
    exact h (List.all_eq_true.2 fun c hc => hb c (List.mem_reverse.2 hc))
  rw [trimEnd, dropEndWhile, List.reverse_append, List.dropWhile_append, if_neg hne,
    List.reverse_append, List.reverse_reverse]
  rfl

theorem trim_append_blank (h : allBlank back) (t : Text) : trim (t ++ back) = trim t := by
  rw [trim, trimStart, List.dropWhile_append]
  split
  · next ht =>
    have hs : trimStart t = [] := List.isEmpty_iff.1 ht
    have hb : List.dropWhile isBlank back = [] :=
      List.dropWhile_eq_nil_iff.2 (isBlank_of_allBlank h)
    rw [hb, trim, hs]
  · exact trimEnd_append_blank h _

theorem contents_append (above below : List Text) :
    contents (above ++ below) = contents above ++ contents below := by
  rw [contents, List.map_append, List.filter_append]
  rfl

theorem contents_eq_of_forall₂ {lines pieces : List Text}
    (h : List.Forall₂ (fun line piece => trim line = trim piece) lines pieces) :
    contents lines = contents pieces := by
  have hm : lines.map trim = pieces.map trim := by
    rw [← List.forall₂_eq_eq_eq, List.forall₂_map_left_iff, List.forall₂_map_right_iff]
    exact h
  rw [contents, hm]
  rfl

/-- The numbers of a line of some lines and of one of others that hold the same content, below the
same contents; their first lines have numbers `m` and `n`. -/
inductive Facing (m n : Nat) : List Text → List Text → Nat → Nat → Prop where
  | intro {above other : List Text} {raw facing : Text} (below rest : List Text) :
      contents above = contents other → trim raw = trim facing → trim raw ≠ [] →
      Facing m n (above ++ raw :: below) (other ++ facing :: rest) (m + above.length)
        (n + other.length)

theorem Facing.below {m n i j : Nat} {above other below rest : List Text}
    (h : contents above = contents other)
    (hf : Facing (m + above.length) (n + other.length) below rest i j) :
    Facing m n (above ++ below) (other ++ rest) i j := by
  cases hf with
  | @intro front facing raw line back last hc ht hn =>
    have hcontents : contents (above ++ front) = contents (other ++ facing) := by
      rw [contents_append, contents_append, h, hc]
    have hmore := Facing.intro (m := m) (n := n) back last hcontents ht hn
    rw [List.append_assoc, List.append_assoc, List.length_append, List.length_append,
      ← Nat.add_assoc, ← Nat.add_assoc] at hmore
    exact hmore

theorem Facing.next {m n i j : Nat} {blank gap below rest : List Text} {raw facing : Text}
    (hb : contents blank = []) (hg : contents gap = []) (ht : trim raw = trim facing)
    (h : Facing (m + blank.length + 1) (n + gap.length + 1) below rest i j) :
    Facing m n (blank ++ raw :: below) (gap ++ facing :: rest) i j := by
  have hc : contents (blank ++ [raw]) = contents (gap ++ [facing]) := by
    rw [contents_append, contents_append, hb, hg]
    exact contents_eq_of_forall₂ (.cons ht .nil)
  rw [List.append_cons, List.append_cons gap]
  apply Facing.below hc
  rw [List.length_append, List.length_append]
  exact h

/-- The first `k` lines of some and the first `l` of others have the same contents, and so have the
lines below. -/
inductive CutAlike : List Text → List Text → Nat → Nat → Prop where
  | intro {above other below rest : List Text} : contents above = contents other →
      contents below = contents rest →
      CutAlike (above ++ below) (other ++ rest) above.length other.length

theorem CutAlike.next {k l : Nat} {blank gap below rest : List Text} {raw facing : Text}
    (hb : contents blank = []) (hg : contents gap = []) (ht : trim raw = trim facing)
    (h : CutAlike below rest k l) :
    CutAlike (blank ++ raw :: below) (gap ++ facing :: rest) (k + 1 + blank.length)
      (l + 1 + gap.length) := by
  cases h with
  | @intro front other back last hf hl =>
    have hc : contents (blank ++ raw :: front) = contents (gap ++ facing :: other) := by
      rw [contents_append, contents_append, hb, hg, ← List.singleton_append (x := raw),
        ← List.singleton_append (x := facing), contents_append, contents_append, hf,
        contents_eq_of_forall₂ (.cons ht .nil)]
    have hcut := CutAlike.intro hc hl
    rw [List.append_assoc, List.append_assoc, List.length_append, List.length_append] at hcut
    rw [Nat.add_comm _ blank.length, Nat.add_comm _ gap.length]
    exact hcut

/-- A line is a piece between line feeds, less a carriage return; only an empty piece at the end is
no line. -/
theorem exists_pieces (t : Text) : ∃ pieces,
    List.Forall₂ (fun line piece => ∃ back, allBlank back ∧ piece = line ++ back) (lines t) pieces ∧
      (split '\n' t = pieces ∨ split '\n' t = pieces ++ [[]]) := by
  fun_induction lines t with
  | case1 => exact ⟨[], .nil, .inr rfl⟩
  | case2 t ih =>
    obtain ⟨pieces, hp, hs⟩ := ih
    refine ⟨[] :: pieces, .cons ⟨[], rfl, rfl⟩ hp, ?_⟩
    rw [split, if_pos rfl]
    rcases hs with hs | hs
    · exact .inl (by rw [hs])
    · exact .inr (by rw [hs]; rfl)
  | case3 t ih =>
    obtain ⟨pieces, hp, hs⟩ := ih
    refine ⟨['\r'] :: pieces, .cons ⟨['\r'], rfl, rfl⟩ hp, ?_⟩
    rw [split, if_neg (by decide), split, if_pos rfl]
    rcases hs with hs | hs
    · exact .inl (by rw [hs])
    · exact .inr (by rw [hs]; rfl)
  | case4 c t hn hr hl ih =>
    rw [hl] at ih
    obtain ⟨pieces, hp, hs⟩ := ih
    cases hp
    have hs : split '\n' t = [[]] := hs.resolve_left (split_ne_nil '\n' t)
    refine ⟨[[c]], .cons ⟨[], rfl, rfl⟩ .nil, .inl ?_⟩
    rw [split, if_neg hn, hs]
  | case5 c t hn hr line rest hl ih =>
    rw [hl] at ih
    obtain ⟨pieces, hp, hs⟩ := ih
    cases hp with
    | cons hb hp =>
      obtain ⟨back, hb, rfl⟩ := hb
      refine ⟨_, .cons ⟨back, hb, rfl⟩ hp, ?_⟩
      rw [split, if_neg hn]
      rcases hs with hs | hs
      · exact .inl (by rw [hs]; rfl)
      · exact .inr (by rw [hs]; rfl)

theorem contents_lines (t : Text) : contents (lines t) = contents (split '\n' t) := by
  obtain ⟨pieces, hp, hs⟩ := exists_pieces t
  have hc : contents (lines t) = contents pieces := by
    apply contents_eq_of_forall₂
    apply hp.imp
    rintro line piece ⟨back, hb, rfl⟩
    exact (trim_append_blank hb line).symm
  rcases hs with hs | hs
  · rw [hc, hs]
  · rw [hc, hs, contents_append]
    exact (List.append_nil _).symm

theorem contents_split_cons (hc : isBlank c) (t : Text) :
    contents (split '\n' (c :: t)) = contents (split '\n' t) := by
  obtain ⟨piece, pieces, hs⟩ := List.exists_cons_of_ne_nil (split_ne_nil '\n' t)
  rw [split, hs]
  split
  · exact contents_cons_of_blank rfl
  · apply contents_eq_of_forall₂
    refine .cons ?_ (List.forall₂_same.2 fun _ _ => rfl)
    exact trim_blank_append (allBlank_singleton hc) piece

theorem contents_split_blank_append (h : allBlank front) (t : Text) :
    contents (split '\n' (front ++ t)) = contents (split '\n' t) := by
  induction front with
  | nil => rfl
  | cons c front ih =>
    obtain ⟨hc, hf⟩ := allBlank_cons.1 h
    rw [List.cons_append, contents_split_cons hc, ih hf]

theorem exists_split_concat (hc : c ≠ '\n') (t : Text) :
    ∃ above last, split '\n' t = above ++ [last] ∧
      split '\n' (t ++ [c]) = above ++ [last ++ [c]] := by
  induction t with
  | nil =>
    refine ⟨[], [], rfl, ?_⟩
    rw [List.nil_append, split, if_neg hc]
    rfl
  | cons d t ih =>
    obtain ⟨above, last, hs, hsc⟩ := ih
    rw [List.cons_append, split, split, hs, hsc]
    by_cases hd : d = '\n'
    · exact ⟨[] :: above, last, if_pos hd, if_pos hd⟩
    · cases above with
      | nil => exact ⟨[], d :: last, if_neg hd, if_neg hd⟩
      | cons piece above => exact ⟨(d :: piece) :: above, last, if_neg hd, if_neg hd⟩

theorem contents_split_concat (hc : isBlank c) (t : Text) :
    contents (split '\n' (t ++ [c])) = contents (split '\n' t) := by
  by_cases hn : c = '\n'
  · subst hn
    rw [split_append, contents_append]
    exact List.append_nil _
  · obtain ⟨above, last, hs, hsc⟩ := exists_split_concat hn t
    rw [hs, hsc, contents_append, contents_append]
    congr 1
    apply contents_eq_of_forall₂
    exact .cons (trim_append_blank (allBlank_singleton hc) last) .nil

theorem contents_split_append_blank (h : allBlank back) (t : Text) :
    contents (split '\n' (t ++ back)) = contents (split '\n' t) := by
  induction back generalizing t with
  | nil => rw [List.append_nil]
  | cons c back ih =>
    obtain ⟨hc, hb⟩ := allBlank_cons.1 h
    rw [List.append_cons, ih hb, contents_split_concat hc]

theorem contents_lines_between {gap : Text} (h : allBlank gap) (hn : '\n' ∈ gap)
    (above below : Text) :
    contents (lines (above ++ (gap ++ below))) =
      contents (lines above) ++ contents (lines below) := by
  obtain ⟨front, back, rfl⟩ := List.append_of_mem hn
  rw [allBlank, List.all_append, Bool.and_eq_true] at h
  obtain ⟨hf, hb⟩ := h
  obtain ⟨_, hb⟩ := allBlank_cons.1 hb
  rw [List.append_assoc, List.cons_append, ← List.append_assoc, contents_lines, split_append,
    contents_append, contents_split_append_blank hf, contents_split_blank_append hb,
    contents_lines, contents_lines]

/-- The second text is the first with other blanks at its start, at its end or between two
lines. -/
inductive Relaid : Text → Text → Prop where
  | start {front other : Text} (body : Text) : allBlank front → allBlank other →
      Relaid (front ++ body) (other ++ body)
  | ending {back other : Text} (body : Text) : allBlank back → allBlank other →
      Relaid (body ++ back) (body ++ other)
  | between {gap other : Text} (above below : Text) : allBlank gap → allBlank other →
      '\n' ∈ gap → '\n' ∈ other → Relaid (above ++ (gap ++ below)) (above ++ (other ++ below))

theorem Relaid.contents_lines {s t : Text} (h : Relaid s t) :
    contents (lines s) = contents (lines t) := by
  cases h with
  | start body hf ho =>
    rw [Text.contents_lines, Text.contents_lines, contents_split_blank_append hf,
      contents_split_blank_append ho]
  | ending body hb ho =>
    rw [Text.contents_lines, Text.contents_lines, contents_split_append_blank hb,
      contents_split_append_blank ho]
  | between above below hg ho hn hm =>
    rw [contents_lines_between hg hn, contents_lines_between ho hm]

end QueryDescriptor.Text
