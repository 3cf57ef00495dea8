import QueryDescriptor.Proofs.Selection.Line

namespace QueryDescriptor.Selection

open Text (contents lineAt)

/-- The scan goes on through all the lines, the first of which has the given number, and reports
the events. -/
inductive Run : State → Nat → List Text → List Event → State → Prop where
  | nil {s : State} {n : Nat} : Run s n [] [] s
  | cons {s t u : State} {n : Nat} {raw : Text} {below : List Text} {events more : List Event} :
      s.step n (Line.ofText raw) = some (t, events) → Run t (n + 1) below more u →
      Run s n (raw :: below) (events ++ more) u

variable {s t u : State} {n : Nat} {line : Line} {raw : Text} {above below lines : List Text}
  {events more : List Event}

namespace State

theorem step_cases (h : s.step n line = some (t, events)) :
    (∃ name, line = .opening name ∧ t = s.enter name ∧ events = [.opened name]) ∨
    (line = .closing ∧ separatorsToGoOn ≤ s.nesting.separators ∧ t = s.leave ∧
      events = [.closed]) ∨
    (line = .blank ∧ t = s ∧ events = []) ∨
    (∃ text, line = .leaf text ∧ t = s ∧ s.nesting.depth = 0 ∧
      events = [.diagnosed (.selectionOutsideBlock n text)]) ∨
    (∃ text, line = .leaf text ∧ t = s ∧ 0 < s.nesting.depth ∧
      events = [.field s.nesting.depth text (s.stem ++ Text.firstWord text)]) := by
  cases line with
  | opening name =>
    cases h
    exact .inl ⟨name, rfl, rfl, rfl⟩
  | closing =>
    rw [step] at h
    split at h
    · cases h
    · next hs =>
      cases h
      exact .inr (.inl ⟨rfl, Nat.le_of_not_lt hs, rfl, rfl⟩)
  | blank =>
    cases h
    exact .inr (.inr (.inl ⟨rfl, rfl, rfl⟩))
  | leaf text =>
    rw [step] at h
    split at h
    · next hd =>
      cases h
      exact .inr (.inr (.inr (.inl ⟨text, rfl, rfl, hd, rfl⟩)))
    · next hd =>
      cases h
      exact .inr (.inr (.inr (.inr ⟨text, rfl, rfl, Nat.pos_of_ne_zero hd, rfl⟩)))

/-- The stem that is kept beside the open sets is theirs. -/
def Kept (s : State) : Prop := s.stem = s.nesting.stem

theorem Kept.start : Kept start := rfl

theorem Kept.enter (s : State) (name : Text) : (s.enter name).Kept := rfl

theorem Kept.leave (h : s.Kept) : s.leave.Kept := by
  obtain ⟨⟨names⟩, stem⟩ := s
  cases names with
  | nil => exact h
  | cons name names => rfl

theorem Kept.step (h : s.Kept) (hs : s.step n line = some (t, events)) : t.Kept := by
  rcases step_cases hs with ⟨name, _, rfl, _⟩ | ⟨_, _, rfl, _⟩ | ⟨_, rfl, _⟩ |
    ⟨text, _, rfl, _, _⟩ | ⟨text, _, rfl, _, _⟩
  · rfl
  · exact h.leave
  · exact h
  · exact h
  · exact h

theorem Kept.stem_enter (h : s.Kept) (name : Text) :
    (s.enter name).stem = s.stem ++ (name ++ [separator]) := by
  rw [State.enter, Nesting.stem_push, h]

theorem Kept.leave_enter (h : s.Kept) (name : Text) : (s.enter name).leave = s := by
  change State.mk s.nesting s.nesting.stem = s
  rw [← h]

theorem leave_names (s : State) : s.leave.nesting.names = s.nesting.names.tail := by
  obtain ⟨⟨names⟩, stem⟩ := s
  cases names with
  | nil => rfl
  | cons name names => rfl

theorem step_of_blank (h : Text.trim raw = []) : s.step n (Line.ofText raw) = some (s, []) := by
  rw [Line.ofText_of_blank h]
  rfl

theorem step_eq_none_iff :
    s.step n line = none ↔ line = .closing ∧ s.nesting.separators < separatorsToGoOn := by
  cases line with
  | opening name => simp only [step, reduceCtorEq, false_and]
  | closing => simp only [step, ite_eq_left_iff, reduceCtorEq, imp_false, not_not, true_and]
  | blank => simp only [step, reduceCtorEq, false_and]
  | leaf text =>
    rw [step]
    split <;> simp only [reduceCtorEq, false_and]

end State

theorem Nesting.separators_push (name : Text) (o : Nesting) :
    (o.push name).separators = name.count separator + 1 + o.separators := rfl

theorem Nesting.depth_le_separators (o : Nesting) : o.depth ≤ o.separators := by
  cases o with
  | mk names =>
    induction names with
    | nil => exact Nat.le_refl 0
    | cons name names ih =>
      have hs := separators_push name ⟨names⟩
      have hd : (Nesting.mk (name :: names)).depth = (Nesting.mk names).depth + 1 := rfl
      rw [hd, ← push, hs]
      omega

theorem Nesting.depth_pos_of_separators {o : Nesting} (h : 0 < o.separators) : 0 < o.depth := by
  cases o with
  | mk names =>
    cases names with
    | nil => cases h
    | cons name names => exact Nat.succ_pos names.length

namespace Run

theorem single (h : s.step n (Line.ofText raw) = some (t, events)) :
    Run s n [raw] events t := by
  have hr := Run.cons h .nil
  rw [List.append_nil] at hr
  exact hr

theorem append (h : Run s n above events t) (hb : Run t (n + above.length) below more u) :
    Run s n (above ++ below) (events ++ more) u := by
  induction h with
  | nil => exact hb
  | cons hs hr ih =>
    rw [List.cons_append, List.append_assoc]
    apply Run.cons hs
    apply ih
    rw [List.length_cons] at hb
    rw [Nat.add_right_comm]
    exact hb

theorem scan_eq (h : Run s n above events t) (below : List Text) :
    scan s n (above ++ below) = events ++ scan t (n + above.length) below := by
  induction h with
  | nil => rfl
  | cons hs hr ih =>
    rw [List.cons_append, scan, hs, List.append_assoc, List.length_cons]
    dsimp only
    rw [ih, Nat.add_right_comm, Nat.add_assoc]

theorem of_blank (h : contents lines = []) : Run s n lines [] s := by
  induction lines generalizing n with
  | nil => exact .nil
  | cons raw below ih =>
    by_cases hr : Text.trim raw = []
    · rw [Text.contents_cons_of_blank hr] at h
      exact Run.cons (State.step_of_blank hr) (ih h)
    · rw [Text.contents_cons_of_ne_nil hr] at h
      cases h

theorem of_content {text : Text} (h : contents lines = [text])
    (hs : ∀ raw, Text.trim raw = text →
      s.step (lineAt n lines 0) (Line.ofText raw) = some (t, events)) :
    Run s n lines events t := by
  induction lines generalizing n with
  | nil => cases h
  | cons raw below ih =>
    rw [lineAt] at hs
    by_cases hr : Text.trim raw = []
    · rw [Text.contents_cons_of_blank hr] at h
      rw [if_pos hr] at hs
      exact Run.cons (State.step_of_blank hr) (ih h hs)
    · rw [Text.contents_cons_of_ne_nil hr] at h
      rw [if_neg hr, if_pos rfl] at hs
      obtain ⟨ht, hb⟩ := List.cons_eq_cons.1 h
      have hrun := Run.cons (hs raw ht) (of_blank hb)
      rw [List.append_nil] at hrun
      exact hrun

end Run

theorem exists_run (s : State) (n : Nat) (lines : List Text) :
    ∃ above below events t, lines = above ++ below ∧ Run s n above events t ∧
      (below = [] ∨ ∃ raw rest, below = raw :: rest ∧ Line.ofText raw = .closing ∧
        t.nesting.separators < State.separatorsToGoOn) := by
  induction lines generalizing s n with
  | nil => exact ⟨[], [], [], s, rfl, .nil, .inl rfl⟩
  | cons raw lines ih =>
    cases hs : s.step n (Line.ofText raw) with
    | none =>
      obtain ⟨hc, hl⟩ := State.step_eq_none_iff.1 hs
      exact ⟨[], raw :: lines, [], s, rfl, .nil, .inr ⟨raw, lines, rfl, hc, hl⟩⟩
    | some next =>
      obtain ⟨t, events⟩ := next
      obtain ⟨above, below, more, u, rfl, hr, hb⟩ := ih t (n + 1)
      exact ⟨raw :: above, below, events ++ more, u, rfl, .cons hs hr, hb⟩

theorem scan_of_stop (hc : Line.ofText raw = .closing)
    (hs : s.nesting.separators < State.separatorsToGoOn) :
    scan s n (raw :: below) =
      .stopped n :: ((firstContent? (n + 1) below).map
        (Diagnostic.trailingContentIgnored n)).toList.map .diagnosed := by
  rw [scan, State.step_eq_none_iff.2 ⟨hc, hs⟩]
  dsimp only
  split
  · next m hm => rw [hm]; rfl
  · next hm => rw [hm]; rfl

end QueryDescriptor.Selection
