import QueryDescriptor.Proofs.Selection.Account
import QueryDescriptor.Proofs.Selection.Dotted

namespace QueryDescriptor.Selection

variable {s t : State} {n : Nat} {line : Line} {raw : Text}
  {above below lines inner outer : List Text} {events : List Event}

/-- A set has a name: the line that opens it does not start with the blank before its brace. -/
theorem Line.name_ne_nil {name : Text} (h : ofText raw = .opening name) : name ≠ [] := by
  rcases ofText_cases raw with ⟨_, he⟩ | ⟨_, he⟩ | ⟨before, ht, he⟩ | ⟨_, _, _, he⟩
  · rw [h] at he
    cases he
  · rw [h] at he
    cases he
  · rw [h] at he
    cases he
    have hhead := Text.not_blank_head?_trim raw
    rw [ht] at hhead
    intro hb
    cases before with
    | nil => exact absurd (hhead ' ' rfl) (by decide)
    | cons c rest =>
      have hall := List.all_eq_true.1 (Text.trim_eq_nil_iff.1 hb) c List.mem_cons_self
      rw [hhead c rfl] at hall
      cases hall
  · rw [h] at he
    cases he

theorem State.names_of_step (h : s.step n line = some (t, events)) :
    (∃ name, line = .opening name ∧ t.nesting.names = name :: s.nesting.names) ∨
      (line = .closing ∧ t.nesting.names = s.nesting.names.tail) ∨
      t.nesting.names = s.nesting.names := by
  rcases step_cases h with ⟨name, hl, rfl, _⟩ | ⟨hl, _, rfl, _⟩ | ⟨_, rfl, _⟩ |
    ⟨_, _, rfl, _⟩ | ⟨_, _, rfl, _⟩
  · exact .inl ⟨name, hl, rfl⟩
  · exact .inr (.inl ⟨hl, s.leave_names⟩)
  · exact .inr (.inr rfl)
  · exact .inr (.inr rfl)
  · exact .inr (.inr rfl)

namespace Run

theorem kept (h : Run s n lines events t) (hs : s.Kept) : t.Kept := by
  induction h with
  | nil => exact hs
  | cons hstep _ ih => exact ih (hs.step hstep)

theorem names_ne_nil (h : Run s n lines events t) (hs : ∀ name ∈ s.nesting.names, name ≠ []) :
    ∀ name ∈ t.nesting.names, name ≠ [] := by
  induction h with
  | nil => exact hs
  | cons hstep _ ih =>
    apply ih
    rcases State.names_of_step hstep with ⟨name, hl, he⟩ | ⟨_, he⟩ | he
    · rw [he, List.forall_mem_cons]
      exact ⟨Line.name_ne_nil hl, hs⟩
    · rw [he]
      exact fun name hm => hs name (List.mem_of_mem_tail hm)
    · rw [he]
      exact hs

end Run

theorem Nesting.separators_lt_iff {o : Nesting} :
    o.separators < State.separatorsToGoOn ↔
      o.names = [] ∨ ∃ name, o.names = [name] ∧ separator ∉ name := by
  obtain ⟨names⟩ := o
  cases names with
  | nil => exact ⟨fun _ => .inl rfl, fun _ => by decide⟩
  | cons name names =>
    have hsum := Nesting.separators_push name ⟨names⟩
    have hle := Nesting.depth_le_separators ⟨names⟩
    rw [push] at hsum
    rw [hsum, State.separatorsToGoOn]
    constructor
    · intro h
      cases names with
      | nil => exact .inr ⟨name, rfl, List.count_eq_zero.1 (by omega)⟩
      | cons next names =>
        have hd : (Nesting.mk (next :: names)).depth = names.length + 1 := rfl
        omega
    · rintro (h | ⟨only, h, hn⟩)
      · cases h
      · cases h
        rw [List.count_eq_zero.2 hn]
        decide

theorem State.pop?_of_closing (h : s.step n .closing = some (t, events)) :
    s.nesting.pop? = some t.nesting := by
  rw [step] at h
  split at h
  · cases h
  · next hs =>
    cases h
    obtain ⟨⟨names⟩, stem⟩ := s
    cases names with
    | nil => exact absurd Nat.zero_lt_two hs
    | cons name names => rfl

/-- Lines that close just the sets that they open themselves. -/
structure Balanced (lines : List Text) : Prop where
  even : openings lines = closings lines
  covered : ∀ above, above <+: lines → closings above ≤ openings above

theorem openings_append (above below : List Text) :
    openings (above ++ below) = openings above + openings below := List.countP_append

theorem closings_append (above below : List Text) :
    closings (above ++ below) = closings above + closings below := List.countP_append

theorem State.exists_names_append
    (h : s.step n (Line.ofText raw) = some (t, events)) (hs : s.nesting.names = inner ++ outer)
    (hc : closings [raw] ≤ inner.length + openings [raw]) :
    ∃ left, t.nesting.names = left ++ outer ∧
      left.length + closings [raw] = inner.length + openings [raw] := by
  have hdepth := depth_of_step h
  have hleft : ∃ left, t.nesting.names = left ++ outer := by
    rcases State.names_of_step h with ⟨name, _, he⟩ | ⟨hl, he⟩ | he
    · exact ⟨name :: inner, by rw [he, hs]; rfl⟩
    · have ht := Line.ofText_eq_closing_iff.1 hl
      have hclosings : closings [raw] = 1 := by
        rw [closings_cons, if_pos ht]
        rfl
      have hopenings : openings [raw] = 0 := by
        rw [openings_cons, ht, if_neg not_opening_closingText]
        rfl
      obtain ⟨name, left, rfl⟩ := List.exists_cons_of_length_pos (l := inner) (by omega)
      exact ⟨left, by rw [he, hs]; rfl⟩
    · exact ⟨inner, by rw [he, hs]⟩
  obtain ⟨left, he⟩ := hleft
  refine ⟨left, he, ?_⟩
  rw [Nesting.depth, Nesting.depth, he, hs, List.length_append, List.length_append] at hdepth
  omega

theorem Run.exists_names_append (h : Run s n lines events t)
    (hs : s.nesting.names = inner ++ outer)
    (hc : ∀ above, above <+: lines → closings above ≤ inner.length + openings above) :
    ∃ left, t.nesting.names = left ++ outer ∧
      left.length + closings lines = inner.length + openings lines := by
  induction h generalizing inner with
  | nil => exact ⟨inner, hs, rfl⟩
  | @cons s t u n raw below events more hstep _ ih =>
    obtain ⟨left, ht, hl⟩ := State.exists_names_append hstep hs
      (hc [raw] (List.cons_prefix_cons.2 ⟨rfl, List.nil_prefix⟩))
    obtain ⟨last, hu, hlast⟩ := ih ht fun above hp => by
      have hle := hc ([raw] ++ above) (List.cons_prefix_cons.2 ⟨rfl, hp⟩)
      rw [openings_append, closings_append] at hle
      omega
    refine ⟨last, hu, ?_⟩
    rw [← List.singleton_append, openings_append, closings_append]
    omega

theorem Run.restores (h : Run s n lines events t) (hs : s.Kept) (hb : Balanced lines) : t = s := by
  have hs' : s.nesting.names = [] ++ s.nesting.names := (List.nil_append _).symm
  obtain ⟨left, he, hl⟩ := h.exists_names_append hs' fun above hp => by
    rw [List.length_nil, Nat.zero_add]
    exact hb.covered above hp
  have hnil : left = [] := by
    rw [hb.even, List.length_nil, Nat.zero_add, Nat.add_eq_right] at hl
    exact List.length_eq_zero_iff.1 hl
  rw [hnil, List.nil_append] at he
  have hn : t.nesting = s.nesting := congrArg Nesting.mk he
  calc t = ⟨t.nesting, t.nesting.stem⟩ := by rw [← h.kept hs]
    _ = ⟨s.nesting, s.nesting.stem⟩ := by rw [hn]
    _ = s := by rw [← hs]

/-- What holds when a scan has gone through the lines above and is in the given state. -/
structure Point (above : List Text) (s : State) : Prop where
  stem_kept : s.stem = s.nesting.stem
  stem_eq : s.nesting.stem = s.nesting.names.reverse.flatMap (· ++ [separator])
  depth_eq : s.nesting.depth + closings above = openings above
  separators_eq : s.nesting.separators = s.nesting.stem.count separator
  depth_le : s.nesting.depth ≤ s.nesting.separators
  names_ne_nil : ∀ name ∈ s.nesting.names, name ≠ []
  stops_iff : ∀ n, s.step n .closing = none ↔
    s.nesting.names = [] ∨ ∃ name, s.nesting.names = [name] ∧ separator ∉ name
  pops : ∀ n t events, s.step n .closing = some (t, events) → s.nesting.pop? = some t.nesting
  restored : ∀ n block events t, Balanced block → Run s n block events t → t = s

theorem Run.point (h : Run .start n above events s) : Point above s where
  stem_kept := h.kept State.Kept.start
  stem_eq := rfl
  depth_eq := h.depth.trans (Nat.zero_add _)
  separators_eq := s.nesting.count_stem.symm
  depth_le := s.nesting.depth_le_separators
  names_ne_nil := h.names_ne_nil nofun
  stops_iff n := by
    rw [State.step_eq_none_iff, and_iff_right rfl, Nesting.separators_lt_iff]
  pops _ _ _ hs := State.pop?_of_closing hs
  restored n block events t hb hr := hr.restores (h.kept State.Kept.start) hb

theorem depth_le_of_stopsAt (h : StopsAt s below) (hb : below ≠ []) : s.nesting.depth ≤ 1 := by
  rcases h with rfl | ⟨_, _, _, _, hs⟩
  · exact absurd rfl hb
  · exact Nat.le_trans s.nesting.depth_le_separators (Nat.le_of_lt_succ hs)

/-- Every scan goes through lines until it stops, with at most one set open, or comes to their end;
and every point of it is sound, the lines below being scanned from there. -/
theorem scan_points (n : Nat) (lines : List Text) :
    (∃ above below events last, lines = above ++ below ∧ Run .start n above events last ∧
      StopsAt last below ∧ (below ≠ [] → last.nesting.depth ≤ 1)) ∧
    ∀ above below events s, lines = above ++ below → Run .start n above events s →
      scan .start n lines = events ++ scan s (n + above.length) below ∧ Point above s := by
  constructor
  · obtain ⟨above, below, events, last, rfl, hr, hb⟩ := exists_run .start n lines
    have hstop : StopsAt last below := by
      rcases hb with rfl | ⟨raw, rest, rfl, hc, hs⟩
      · exact .inl rfl
      · exact .inr ⟨raw, rest, rfl, Line.ofText_eq_closing_iff.1 hc, hs⟩
    exact ⟨above, below, events, last, rfl, hr, hstop, depth_le_of_stopsAt hstop⟩
  · rintro above below events s rfl hr
    exact ⟨hr.scan_eq below, hr.point⟩

def groupState : State := ⟨⟨["edges", "group_a"]⟩, "group_a_edges_"⟩

theorem scan_points_group :
    ∃ events, Run .start 3 [" group_a \x7b", "edges \x7b", "\tid # its own"] events groupState ∧
      scan .start 3 [" group_a \x7b", "edges \x7b", "\tid # its own", "\x7d", "\x7d"] =
        events ++ scan groupState 6 ["\x7d", "\x7d"] ∧
      Point [" group_a \x7b", "edges \x7b", "\tid # its own"] groupState := by
  have hgroup : State.start.step 3 (Line.ofText " group_a \x7b") =
      some (⟨⟨["group_a"]⟩, "group_a_"⟩, [.opened "group_a"]) := by decide
  have hedges : State.step ⟨⟨["group_a"]⟩, "group_a_"⟩ 4 (Line.ofText "edges \x7b") =
      some (groupState, [.opened "edges"]) := by decide
  have hid : groupState.step 5 (Line.ofText "\tid # its own") =
      some (groupState, [.field 2 "id # its own" "group_a_edges_id"]) := by decide
  have hrun := Run.cons hgroup (.cons hedges (.single hid))
  obtain ⟨hscan, hpoint⟩ := (scan_points 3 _).2 _ ["\x7d", "\x7d"] _ _ rfl hrun
  exact ⟨_, hrun, hscan, hpoint⟩

end QueryDescriptor.Selection
