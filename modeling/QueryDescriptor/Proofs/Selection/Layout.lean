import QueryDescriptor.Proofs.Selection.Run
import QueryDescriptor.Proofs.Text.Layout

namespace QueryDescriptor.Selection

open Text (Facing contents)

variable {R S : Nat → Nat → Prop} {s : State} {i j m n : Nat} {lines others texts : List Text}

/-- Diagnostics of the same kind with the same texts, whose line numbers are related. -/
inductive Diagnostic.Matches (R : Nat → Nat → Prop) : Diagnostic → Diagnostic → Prop where
  | missingRootSelection : Matches R .missingRootSelection .missingRootSelection
  | selectionOutsideBlock {i j : Nat} (text : Text) : R i j →
      Matches R (.selectionOutsideBlock i text) (.selectionOutsideBlock j text)
  | trailingContentIgnored {i j k l : Nat} : R i j → R k l →
      Matches R (.trailingContentIgnored i k) (.trailingContentIgnored j l)
  | unclosedSelectionSet (depth : Nat) :
      Matches R (.unclosedSelectionSet depth) (.unclosedSelectionSet depth)

inductive Event.Matches (R : Nat → Nat → Prop) : Event → Event → Prop where
  | opened (name : Text) : Matches R (.opened name) (.opened name)
  | closed : Matches R .closed .closed
  | field (depth : Nat) (text name : Text) :
      Matches R (.field depth text name) (.field depth text name)
  | diagnosed {d e : Diagnostic} : d.Matches R e → Matches R (.diagnosed d) (.diagnosed e)
  | stopped {i j : Nat} : R i j → Matches R (.stopped i) (.stopped j)

theorem Diagnostic.Matches.mono {d e : Diagnostic} (h : d.Matches R e)
    (hr : ∀ i j, R i j → S i j) : d.Matches S e := by
  cases h with
  | missingRootSelection => exact .missingRootSelection
  | selectionOutsideBlock text hi => exact .selectionOutsideBlock text (hr _ _ hi)
  | trailingContentIgnored hi hk => exact .trailingContentIgnored (hr _ _ hi) (hr _ _ hk)
  | unclosedSelectionSet depth => exact .unclosedSelectionSet depth

theorem Event.Matches.mono {a b : Event} (h : a.Matches R b) (hr : ∀ i j, R i j → S i j) :
    a.Matches S b := by
  cases h with
  | opened name => exact .opened name
  | closed => exact .closed
  | field depth text name => exact .field depth text name
  | diagnosed hd => exact .diagnosed (hd.mono hr)
  | stopped hi => exact .stopped (hr _ _ hi)

theorem Line.ofText_congr {raw facing : Text} (h : Text.trim raw = Text.trim facing) :
    ofText raw = ofText facing := by
  rw [ofText, h]
  rfl

theorem State.step_matches (s : State) (i j : Nat) (line : Line) :
    (s.step i line = none ∧ s.step j line = none) ∨
      ∃ t events more, s.step i line = some (t, events) ∧ s.step j line = some (t, more) ∧
        ∀ R : Nat → Nat → Prop, R i j → List.Forall₂ (Event.Matches R) events more := by
  cases line with
  | opening name => exact .inr ⟨_, _, _, rfl, rfl, fun R _ => .cons (.opened name) .nil⟩
  | closing =>
    rw [step, step]
    split
    · exact .inl ⟨rfl, rfl⟩
    · exact .inr ⟨_, _, _, rfl, rfl, fun R _ => .cons .closed .nil⟩
  | blank => exact .inr ⟨_, _, _, rfl, rfl, fun R _ => .nil⟩
  | leaf text =>
    rw [step, step]
    split
    · refine .inr ⟨_, _, _, rfl, rfl, fun R hij => ?_⟩
      exact .cons (.diagnosed (.selectionOutsideBlock text hij)) .nil
    · exact .inr ⟨_, _, _, rfl, rfl, fun R _ => .cons (.field _ text _) .nil⟩

theorem rel_mono {a b : Option Nat} (h : Option.Rel R a b) (hr : ∀ i j, R i j → S i j) :
    Option.Rel S a b := by
  cases h with
  | none => exact .none
  | some h => exact .some (hr _ _ h)

theorem firstContent?_facing (h : contents lines = texts) (ho : contents others = texts) :
    Option.Rel (Facing m n lines others) (firstContent? m lines) (firstContent? n others) := by
  induction texts generalizing m n lines others with
  | nil =>
    rw [firstContent?_eq_none (idle_of_contents (k := 0) h),
      firstContent?_eq_none (idle_of_contents (k := 0) ho)]
    exact .none
  | cons text texts ih =>
    obtain ⟨blank, raw, below, rfl, hb, ht, hn, hr⟩ := Text.exists_cons_of_contents h
    obtain ⟨gap, facing, rest, rfl, hg, hf, _, hs⟩ := Text.exists_cons_of_contents ho
    have htrim : Text.trim raw = Text.trim facing := ht.trans hf.symm
    rw [firstContent?_append (idle_of_contents (k := 0) hb),
      firstContent?_append (idle_of_contents (k := 0) hg)]
    by_cases hi : Idle raw
    · have hj : Idle facing := by
        rw [Idle, ← htrim]
        exact hi
      rw [firstContent?_of_idle hi, firstContent?_of_idle hj]
      exact rel_mono (ih hr hs) fun i j => Facing.next hb hg htrim
    · have hj : ¬ Idle facing := by
        rw [Idle, ← htrim]
        exact hi
      rw [firstContent?_of_not_idle hi, firstContent?_of_not_idle hj]
      exact .some (.intro below rest (hb.trans hg.symm) htrim (ht ▸ hn))

theorem scan_matches (h : contents lines = texts) (ho : contents others = texts) :
    List.Forall₂ (Event.Matches (Facing m n lines others)) (scan s m lines) (scan s n others) := by
  induction texts generalizing s m n lines others with
  | nil =>
    have hl := (Run.of_blank h : Run s m lines [] s).scan_eq []
    have hr := (Run.of_blank ho : Run s n others [] s).scan_eq []
    rw [List.append_nil, List.nil_append] at hl hr
    rw [hl, hr, scan, scan]
    split
    · exact .nil
    · exact .cons (.diagnosed (.unclosedSelectionSet _)) .nil
  | cons text texts ih =>
    obtain ⟨blank, raw, below, rfl, hb, ht, hn, hr⟩ := Text.exists_cons_of_contents h
    obtain ⟨gap, facing, rest, rfl, hg, hf, _, hs⟩ := Text.exists_cons_of_contents ho
    have htrim : Text.trim raw = Text.trim facing := ht.trans hf.symm
    have hhere := Facing.intro (m := m) (n := n) below rest (hb.trans hg.symm) htrim (ht ▸ hn)
    rw [(Run.of_blank hb : Run s m blank [] s).scan_eq,
      (Run.of_blank hg : Run s n gap [] s).scan_eq, List.nil_append, List.nil_append, scan, scan,
      Line.ofText_congr htrim]
    rcases s.step_matches (m + blank.length) (n + gap.length) (Line.ofText facing) with
      ⟨hstop, hother⟩ | ⟨t, events, more, hstep, hother, hmatch⟩
    · rw [hstop, hother]
      have hfirst := rel_mono (firstContent?_facing (m := m + blank.length + 1)
        (n := n + gap.length + 1) hr hs) fun i j => Facing.next hb hg htrim
      dsimp only
      generalize firstContent? (m + blank.length + 1) below = first,
        firstContent? (n + gap.length + 1) rest = last at hfirst
      cases hfirst with
      | none => exact .cons (.stopped hhere) .nil
      | some hi =>
        exact .cons (.stopped hhere) (.cons (.diagnosed (.trailingContentIgnored hhere hi)) .nil)
    · rw [hstep, hother]
      refine List.rel_append (hmatch _ hhere) ?_
      exact (ih hr hs).imp fun a b hab => hab.mono fun i j => Facing.next hb hg htrim

theorem fieldNames_of_matches {events more : List Event}
    (h : List.Forall₂ (Event.Matches R) events more) :
    events.filterMap Event.fieldName? = more.filterMap Event.fieldName? := by
  induction h with
  | nil => rfl
  | cons hab _ ih =>
    rw [List.filterMap_cons, List.filterMap_cons, ih]
    cases hab <;> rfl

theorem names_of_matches {events more : List Event}
    (h : List.Forall₂ (Event.Matches R) events more) :
    events.filterMap Event.name? = more.filterMap Event.name? := by
  induction h with
  | nil => rfl
  | cons hab _ ih =>
    rw [List.filterMap_cons, List.filterMap_cons, ih]
    cases hab <;> rfl

theorem diagnostics_of_matches {events more : List Event}
    (h : List.Forall₂ (Event.Matches R) events more) :
    List.Forall₂ (Diagnostic.Matches R) (events.filterMap Event.diagnostic?)
      (more.filterMap Event.diagnostic?) := by
  induction h with
  | nil => exact .nil
  | cons hab _ ih =>
    cases hab with
    | diagnosed hd => exact .cons hd ih
    | _ => exact ih

theorem outline_of_matches {events more : List Event}
    (h : List.Forall₂ (Event.Matches R) events more) :
    (Outline.ofEvents events).fields = (Outline.ofEvents more).fields ∧
      (Outline.ofEvents events).compounds = (Outline.ofEvents more).compounds ∧
      List.Forall₂ (Diagnostic.Matches R) (Outline.ofEvents events).diagnostics
        (Outline.ofEvents more).diagnostics := by
  refine ⟨fieldNames_of_matches h, ?_, diagnostics_of_matches h⟩
  rw [Outline.ofEvents, names_of_matches h]
  rfl

end QueryDescriptor.Selection
