import QueryDescriptor.Proofs.Selection.Account

namespace QueryDescriptor.Selection

variable {s t : State} {n k : Nat} {line : Line} {lines above below : List Text} {event : Event}
  {events more : List Event}

theorem firstContent?_append_eq (n : Nat) (lines added : List Text) :
    firstContent? n (lines ++ added) =
      (firstContent? n lines).or (firstContent? (n + lines.length) added) := by
  rcases exists_first_not_idle lines with hi | ⟨idle, raw, below, rfl, hi, hr⟩
  · rw [firstContent?_append hi, firstContent?_eq_none hi, Option.none_or]
  · rw [List.append_assoc, List.cons_append, firstContent?_append hi, firstContent?_append hi,
      firstContent?_of_not_idle hr, firstContent?_of_not_idle hr, Option.some_or]

theorem idle_of_firstContent? (h : firstContent? n lines = none) : ∀ raw ∈ lines, Idle raw := by
  rcases exists_first_not_idle lines with hi | ⟨idle, raw, below, rfl, hi, hr⟩
  · exact hi
  · rw [firstContent?_append hi, firstContent?_of_not_idle hr] at h
    cases h

/-- The events that only the end of a scan has. -/
def Event.IsFinal : Event → Prop
  | stopped _ => True
  | diagnosed (.trailingContentIgnored _ _) => True
  | diagnosed (.unclosedSelectionSet _) => True
  | _ => False

theorem State.not_final_of_step (h : s.step n line = some (t, events)) (he : event ∈ events) :
    ¬ event.IsFinal := by
  intro hf
  rcases step_cases h with ⟨name, _, _, rfl⟩ | ⟨_, _, _, rfl⟩ | ⟨_, _, rfl⟩ |
    ⟨text, _, _, _, rfl⟩ | ⟨text, _, _, _, rfl⟩
  · cases List.mem_singleton.1 he
    exact hf
  · cases List.mem_singleton.1 he
    exact hf
  · cases he
  · cases List.mem_singleton.1 he
    exact hf
  · cases List.mem_singleton.1 he
    exact hf

theorem Run.not_final (h : Run s n lines events t) (he : event ∈ events) : ¬ event.IsFinal := by
  induction h with
  | nil => cases he
  | cons hs _ ih =>
    rcases List.mem_append.1 he with he | he
    · exact State.not_final_of_step hs he
    · exact ih he

theorem scan_cases (s : State) (n : Nat) (lines : List Text) :
    (∃ events t, Run s n lines events t ∧
      scan s n lines = events ++ (unclosed? t.nesting.depth).toList.map .diagnosed) ∨
    ∃ above raw below events t, lines = above ++ raw :: below ∧ Run s n above events t ∧
      Line.ofText raw = .closing ∧ t.nesting.separators < State.separatorsToGoOn ∧
      scan s n lines = events ++ .stopped (n + above.length) ::
        ((firstContent? (n + above.length + 1) below).map
          (Diagnostic.trailingContentIgnored (n + above.length))).toList.map .diagnosed := by
  obtain ⟨above, below, events, t, rfl, hr, hb⟩ := exists_run s n lines
  rcases hb with rfl | ⟨raw, rest, rfl, hc, hs⟩
  · refine .inl ⟨events, t, ?_, ?_⟩
    · rw [List.append_nil]
      exact hr
    · rw [hr.scan_eq, scan_nil]
  · refine .inr ⟨above, raw, rest, events, t, rfl, hr, hc, hs, ?_⟩
    rw [hr.scan_eq, scan_of_stop hc hs]

theorem exists_scan_append (s : State) (n : Nat) (lines added : List Text) :
    ∃ kept depth, scan s n lines = kept ++ (unclosed? depth).toList.map .diagnosed ∧
      kept <+: scan s n (lines ++ added) := by
  rcases scan_cases s n lines with ⟨events, t, hr, he⟩ |
    ⟨above, raw, below, events, t, rfl, hr, hc, hs, he⟩
  · refine ⟨events, t.nesting.depth, he, ?_⟩
    rw [hr.scan_eq]
    exact List.prefix_append events _
  · -- A scan that has stopped tells of no open sets, so all that it reports is kept.
    refine ⟨scan s n (above ++ raw :: below), 0, (List.append_nil _).symm, ?_⟩
    rw [he, List.append_assoc, List.cons_append, hr.scan_eq, scan_of_stop hc hs,
      firstContent?_append_eq, List.prefix_append_right_inj, List.cons_prefix_cons]
    refine ⟨rfl, ?_⟩
    cases firstContent? (n + above.length + 1) below with
    | none => exact List.nil_prefix
    | some m => exact List.prefix_refl _

/-- Below the line at which a scan stopped, more lines tell where content begins if there was none
so far, and nothing else. `told` is what the scan tells of the lines that are there. -/
theorem exists_scan_append_of_stopped (h : .stopped k ∈ scan s n lines) :
    ∃ kept told, (∀ i j, .diagnosed (.trailingContentIgnored i j) ∉ kept) ∧
      ∀ added, scan s n (lines ++ added) = kept ++
        ((Option.or told (firstContent? (n + lines.length) added)).map
          (Diagnostic.trailingContentIgnored k)).toList.map .diagnosed := by
  rcases scan_cases s n lines with ⟨events, t, hr, he⟩ |
    ⟨above, raw, below, events, t, rfl, hr, hc, hs, he⟩
  · -- A scan that comes to the end of its lines has no stop among its events.
    rw [he] at h
    rcases List.mem_append.1 h with h | h
    · exact absurd trivial (hr.not_final h)
    · obtain ⟨d, _, hd⟩ := List.mem_map.1 h
      cases hd
  · have hk : k = n + above.length := by
      rw [he] at h
      rcases List.mem_append.1 h with h | h
      · exact absurd trivial (hr.not_final h)
      · rcases List.mem_cons.1 h with h | h
        · cases h
          rfl
        · obtain ⟨d, _, hd⟩ := List.mem_map.1 h
          cases hd
    subst hk
    refine ⟨events ++ [.stopped (n + above.length)], firstContent? (n + above.length + 1) below,
      ?_, ?_⟩
    · intro i j hm
      rcases List.mem_append.1 hm with hm | hm
      · exact hr.not_final hm trivial
      · cases List.mem_singleton.1 hm
    · intro added
      have hn : n + above.length + 1 + below.length = n + (above ++ raw :: below).length := by
        rw [List.length_append, List.length_cons]
        omega
      rw [List.append_assoc, List.cons_append, hr.scan_eq, scan_of_stop hc hs,
        firstContent?_append_eq, hn, List.append_assoc]
      rfl

namespace Outline

theorem mem_diagnostics_iff {d : Diagnostic} :
    d ∈ (ofEvents events).diagnostics ↔ .diagnosed d ∈ events := by
  rw [ofEvents, List.mem_filterMap]
  constructor
  · rintro ⟨event, he, hd⟩
    cases event with
    | diagnosed _ =>
      cases hd
      exact he
    | _ => cases hd
  · intro he
    exact ⟨_, he, rfl⟩

theorem ofEvents_append_diagnosed (events : List Event) (ds : List Diagnostic) :
    ofEvents (events ++ ds.map .diagnosed) =
      { ofEvents events with diagnostics := (ofEvents events).diagnostics ++ ds } := by
  have hfields : (ds.map Event.diagnosed).filterMap Event.fieldName? = [] := by
    rw [List.filterMap_map]
    exact List.filterMap_eq_nil_iff.2 fun _ _ => rfl
  have hnames : (ds.map Event.diagnosed).filterMap Event.name? = [] := by
    rw [List.filterMap_map]
    exact List.filterMap_eq_nil_iff.2 fun _ _ => rfl
  have hdiagnostics : (ds.map Event.diagnosed).filterMap Event.diagnostic? = ds := by
    rw [List.filterMap_map]
    exact List.filterMap_some
  simp only [ofEvents, List.filterMap_append, hfields, hnames, hdiagnostics, List.append_nil]

theorem ofEvents_prefix (h : events <+: more) :
    (ofEvents events).fields <+: (ofEvents more).fields ∧
      (ofEvents events).compounds <+: (ofEvents more).compounds ∧
      (ofEvents events).diagnostics <+: (ofEvents more).diagnostics := by
  refine ⟨h.filterMap _, ?_, h.filterMap _⟩
  obtain ⟨rest, rfl⟩ := h
  simp only [ofEvents, List.filterMap_append, List.filter_append, List.eraseDups_append]
  exact List.prefix_append _ _

end Outline
end QueryDescriptor.Selection
