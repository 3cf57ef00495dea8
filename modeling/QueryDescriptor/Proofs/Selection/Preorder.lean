import QueryDescriptor.Proofs.Selection.Forest
import QueryDescriptor.Proofs.Selection.Run

namespace QueryDescriptor.Selection

open Text (contents lineAt)

variable {s : State} {n k : Nat} {lines : List Text} {stem : Text} {depth : Nat}

theorem Name.trim_text (name : Name) : Text.trim name.text = name.text :=
  Text.trim_of_not_blank name.not_blank

theorem Name.firstWord_text (name : Name) : Text.firstWord name.text = name.text :=
  Text.firstWord_of_not_blank name.ne_nil name.not_blank

theorem Name.not_opening (name : Name) : ¬ openingEnd <:+ name.text := by
  intro h
  have hb := name.not_blank ' ' (h.sublist.mem List.mem_cons_self)
  cases hb

namespace State

theorem step_of_opening (name : Name) {raw : Text}
    (h : Text.trim raw = name.text ++ openingEnd) :
    s.step n (Line.ofText raw) = some (s.enter name.text, [.opened name.text]) := by
  rw [Line.ofText_of_opening h, name.trim_text]
  rfl

theorem step_of_closing {raw : Text} (h : Text.trim raw = closingText)
    (hs : separatorsToGoOn ≤ s.nesting.separators) :
    s.step n (Line.ofText raw) = some (s.leave, [.closed]) := by
  rw [Line.ofText_of_closing h, step, if_neg (Nat.not_lt.2 hs)]

theorem step_of_leaf (token : Name) (hc : token.text ≠ closingText) {raw : Text}
    (h : Text.trim raw = token.text) (hd : 0 < s.nesting.depth) :
    s.step n (Line.ofText raw) =
      some (s, [.field s.nesting.depth token.text (s.stem ++ token.text)]) := by
  rw [Line.ofText_of_leaf h token.ne_nil hc token.not_opening, step, if_neg (by omega),
    token.firstWord_text]

theorem step_of_outside (token : Name) (hc : token.text ≠ closingText) {raw : Text}
    (h : Text.trim raw = token.text) (hd : s.nesting.depth = 0) :
    s.step n (Line.ofText raw) =
      some (s, [.diagnosed (.selectionOutsideBlock n token.text)]) := by
  rw [Line.ofText_of_leaf h token.ne_nil hc token.not_opening, step, if_pos hd]

end State

theorem State.goesOn_iff (name : Text) :
    separatorsToGoOn ≤ (start.enter name).nesting.separators ↔ separator ∈ name := by
  change 2 ≤ name.count separator + 1 ↔ separator ∈ name
  rw [← List.count_pos_iff]
  omega

theorem scan_of_closing {raw : Text} {below : List Text} (h : Text.trim raw = closingText)
    (hs : State.separatorsToGoOn ≤ s.nesting.separators) :
    scan s n (raw :: below) = .closed :: scan s.leave (n + 1) below :=
  (Run.single (State.step_of_closing h hs)).scan_eq below

namespace Forest

/-- The events of the selections inside `depth` sets, where `stem` starts every dotted name. -/
def events (depth : Nat) (stem : Text) : Forest → List Event
  | nil => []
  | leaf token _ rest =>
    .field depth token.text (stem ++ token.text) :: rest.events depth stem
  | set name inner rest =>
    .opened name.text :: (inner.events (depth + 1) (stem ++ (name.text ++ [separator])) ++
      .closed :: rest.events depth stem)

theorem map_dotted_cons (f : Forest) (stem name : Text) :
    (f.paths.map (name :: ·)).map (stem ++ dotted ·) =
      f.paths.map (stem ++ (name ++ [separator]) ++ dotted ·) := by
  rw [List.map_map]
  apply List.map_congr_left
  intro path hp
  rw [Function.comp_apply, dotted_cons (paths_ne_nil hp)]
  simp only [List.append_assoc, List.singleton_append]

theorem fieldName_events (f : Forest) :
    (f.events depth stem).filterMap Event.fieldName? = f.paths.map (stem ++ dotted ·) := by
  induction f generalizing depth stem with
  | nil => rfl
  | leaf token h rest ih =>
    rw [events, paths, List.filterMap_cons, List.map_cons, ← ih, dotted_singleton]
    rfl
  | set name inner rest ihi ihr =>
    rw [events, paths, List.map_append, map_dotted_cons, ← ihi, ← ihr, List.filterMap_cons,
      List.filterMap_append, List.filterMap_cons]
    rfl

theorem name_events (f : Forest) : (f.events depth stem).filterMap Event.name? = f.names := by
  induction f generalizing depth stem with
  | nil => rfl
  | leaf token h rest ih =>
    rw [events, names, List.filterMap_cons, Event.name?, token.firstWord_text, ih]
  | set name inner rest ihi ihr =>
    rw [events, names, List.filterMap_cons, List.filterMap_append, List.filterMap_cons, ihi, ihr]
    rfl

theorem diagnostic_events (f : Forest) :
    (f.events depth stem).filterMap Event.diagnostic? = [] := by
  induction f generalizing depth stem with
  | nil => rfl
  | leaf token h rest ih => exact ih
  | set name inner rest ihi ihr =>
    rw [events, List.filterMap_cons, List.filterMap_append, List.filterMap_cons, ihi, ihr]
    rfl

theorem run_opening (name : Name) {first body : List Text} {inside : List Event} {t : State}
    (hf : contents first = [name.text ++ openingEnd])
    (hb : Run (s.enter name.text) (n + first.length) body inside t) :
    Run s n (first ++ body) (.opened name.text :: inside) t :=
  (Run.of_content hf fun _ hr => State.step_of_opening name hr).append hb

/-- Inside a set every set is closed again, whatever its name. -/
theorem run_inner (f : Forest) (hs : s.Kept) (hd : 0 < s.nesting.depth)
    (h : contents lines = f.lines) : Run s n lines (f.events s.nesting.depth s.stem) s := by
  induction f generalizing s n lines with
  | nil => exact .of_blank h
  | leaf token hc rest ih =>
    obtain ⟨first, below, rfl, hf, hb⟩ := Text.exists_append_of_contents
      (show contents lines = [token.text] ++ rest.lines from h)
    exact (Run.of_content hf fun raw hr => State.step_of_leaf token hc hr hd).append
      (ih hs hd hb)
  | set name inner rest ihi ihr =>
    obtain ⟨first, below, rfl, hf, hb⟩ := Text.exists_append_of_contents
      (show contents lines = [name.text ++ openingEnd] ++ _ from h)
    obtain ⟨body, below, rfl, hi, hb⟩ := Text.exists_append_of_contents hb
    obtain ⟨last, below, rfl, hl, hb⟩ := Text.exists_append_of_contents
      (show contents below = [closingText] ++ rest.lines from hb)
    -- Two sets are open here, so the stem holds enough separators for the scan to go on.
    have hsep : State.separatorsToGoOn ≤ (s.enter name.text).nesting.separators := by
      have hle := s.nesting.depth_le_separators
      have hp := Nesting.separators_push name.text s.nesting
      rw [State.separatorsToGoOn, State.enter, hp]
      omega
    have hbody := ihi (n := n + first.length) (State.Kept.enter s name.text)
      (Nat.succ_pos s.nesting.depth) hi
    have hclose : Run (s.enter name.text) (n + first.length + body.length) last [.closed] s := by
      apply Run.of_content hl
      intro raw hr
      rw [State.step_of_closing hr hsep, hs.leave_enter]
    rw [hs.stem_enter] at hbody
    exact run_opening name hf (hbody.append (hclose.append (ihr hs hd hb)))

theorem run_opened (name : Name) (inner : Forest) (hs : s.Kept)
    (h : contents lines = (name.text ++ openingEnd) :: inner.lines) :
    Run s n lines (.opened name.text ::
      inner.events (s.nesting.depth + 1) (s.stem ++ (name.text ++ [separator])))
      (s.enter name.text) := by
  obtain ⟨first, body, rfl, hf, hi⟩ := Text.exists_append_of_contents
    (show contents lines = [name.text ++ openingEnd] ++ inner.lines from h)
  have hbody := run_inner inner (n := n + first.length) (State.Kept.enter s name.text)
    (Nat.succ_pos s.nesting.depth) hi
  rw [hs.stem_enter] at hbody
  exact run_opening name hf hbody

/-- What is told of the selections passed over: the line that ended the scan, and their first. -/
def trailing (line : Nat → Nat) (f : Forest) : List Diagnostic :=
  match f.passedOver with
  | nil => []
  | _ =>
    [.trailingContentIgnored (line (f.processed.lines.length - 1)) (line f.processed.lines.length)]

structure Reading (f : Forest) (line : Nat → Nat) (events : List Event) : Prop where
  fields : events.filterMap Event.fieldName? = f.processed.sets.paths.map dotted
  names : events.filterMap Event.name? = f.processed.sets.names
  diagnostics : events.filterMap Event.diagnostic? =
    (f.processed.topLeaves.map fun (k, text) => .selectionOutsideBlock (line k) text) ++
      f.trailing line

theorem processed_lines_pos {f : Forest} (h : f.passedOver ≠ nil) :
    0 < f.processed.lines.length := by
  cases f with
  | nil => exact absurd rfl h
  | leaf token hc rest => exact Nat.succ_pos _
  | set name inner rest =>
    rw [processed]
    split <;> exact Nat.succ_pos _

theorem trailing_of_shift {f rest : Forest} {d : Nat} (line : Nat → Nat)
    (hp : f.passedOver = rest.passedOver)
    (hl : f.processed.lines.length = rest.processed.lines.length + d) :
    f.trailing line = rest.trailing fun k => line (k + d) := by
  rw [trailing, trailing, hp, hl]
  split
  · rfl
  · next hn =>
    have hpos := processed_lines_pos hn
    rw [Nat.sub_add_comm hpos]

theorem topLeaves_map_shift (rest : Forest) (d : Nat) (line : Nat → Nat) :
    (rest.topLeaves.map fun (k, text) => (k + d, text)).map
        (fun (k, text) => Diagnostic.selectionOutsideBlock (line k) text) =
      rest.topLeaves.map fun (k, text) => .selectionOutsideBlock (line (k + d)) text := by
  rw [List.map_map]
  rfl

theorem reading_leaf {rest : Forest} {line : Nat → Nat} {reported : List Event} (token : Name)
    (hc : token.text ≠ closingText) (h : Reading rest (fun k => line (k + 1)) reported) :
    Reading (leaf token hc rest) line
      (.diagnosed (.selectionOutsideBlock (line 0) token.text) :: reported) := by
  have ho : (leaf token hc rest).passedOver = rest.passedOver := rfl
  have hl : (leaf token hc rest).processed.lines.length = rest.processed.lines.length + 1 := rfl
  constructor
  · exact h.fields
  · exact h.names
  · rw [trailing_of_shift line ho hl, processed, topLeaves, List.map_cons, topLeaves_map_shift,
      List.cons_append, ← h.diagnostics]
    rfl

theorem reading_compound {inner rest : Forest} {line : Nat → Nat} {reported : List Event}
    {name : Name} (hn : separator ∈ name.text)
    (h : Reading rest (fun k => line (k + (inner.lines.length + 2))) reported) :
    Reading (set name inner rest) line
      (.opened name.text ::
        (inner.events 1 (name.text ++ [separator]) ++ .closed :: reported)) := by
  have hp : (set name inner rest).processed = set name inner rest.processed := if_pos hn
  have ho : (set name inner rest).passedOver = rest.passedOver := if_pos hn
  have hl : (set name inner rest).processed.lines.length =
      rest.processed.lines.length + (inner.lines.length + 2) := by
    rw [hp, lines, List.length_cons, List.length_append, List.length_cons]
    omega
  constructor
  · rw [hp, sets, paths, List.map_append, ← h.fields, List.filterMap_cons,
      List.filterMap_append, List.filterMap_cons, fieldName_events]
    change _ = (inner.paths.map (name.text :: ·)).map ([] ++ dotted ·) ++ _
    rw [map_dotted_cons]
    rfl
  · rw [hp, sets, names, ← h.names, List.filterMap_cons, List.filterMap_append,
      List.filterMap_cons, name_events]
    rfl
  · rw [trailing_of_shift line ho hl, hp, topLeaves, topLeaves_map_shift, ← h.diagnostics,
      List.filterMap_cons, List.filterMap_append, List.filterMap_cons, diagnostic_events]
    rfl

theorem reading_plain {inner rest : Forest} {line : Nat → Nat} {name : Name} {stopped : Nat}
    {ignored : List Diagnostic} (hn : separator ∉ name.text)
    (hi : ignored = (set name inner rest).trailing line) :
    Reading (set name inner rest) line
      (.opened name.text :: (inner.events 1 (name.text ++ [separator]) ++
        .stopped stopped :: ignored.map .diagnosed)) := by
  have hp : (set name inner rest).processed = set name inner nil := if_neg hn
  have hfields : (ignored.map Event.diagnosed).filterMap Event.fieldName? = [] := by
    rw [List.filterMap_map]
    exact List.filterMap_eq_nil_iff.2 fun d _ => rfl
  have hnames : (ignored.map Event.diagnosed).filterMap Event.name? = [] := by
    rw [List.filterMap_map]
    exact List.filterMap_eq_nil_iff.2 fun d _ => rfl
  have hdiagnostics : (ignored.map Event.diagnosed).filterMap Event.diagnostic? = ignored := by
    rw [List.filterMap_map]
    exact List.filterMap_some
  constructor
  · rw [hp, sets, sets, paths, List.filterMap_cons, List.filterMap_append, List.filterMap_cons,
      fieldName_events]
    change _ ++ (ignored.map Event.diagnosed).filterMap Event.fieldName? =
      ((inner.paths.map (name.text :: ·)) ++ []).map ([] ++ dotted ·)
    rw [hfields, List.append_nil, List.append_nil, map_dotted_cons]
    rfl
  · rw [hp, sets, sets, names, List.filterMap_cons, List.filterMap_append, List.filterMap_cons,
      name_events]
    change name.text :: (_ ++ (ignored.map Event.diagnosed).filterMap Event.name?) = _
    rw [hnames]
    rfl
  · rw [hp, topLeaves, List.filterMap_cons, List.filterMap_append, List.filterMap_cons,
      diagnostic_events]
    change (ignored.map Event.diagnosed).filterMap Event.diagnostic? = _
    rw [hdiagnostics, hi]
    rfl

theorem reading_nil (line : Nat → Nat) (h : contents lines = List.replicate k closingText) :
    Reading nil line (scan .start n lines) := by
  cases k with
  | zero =>
    have hs := (Run.of_blank h : Run .start n lines [] .start).scan_eq []
    rw [List.append_nil] at hs
    rw [hs]
    exact ⟨rfl, rfl, rfl⟩
  | succ k =>
    obtain ⟨blank, raw, below, rfl, hb, hr, _, ht⟩ := Text.exists_cons_of_contents h
    have hi : firstContent? (n + blank.length + 1) below = none :=
      firstContent?_eq_none (idle_of_contents ht) _
    rw [(Run.of_blank hb : Run .start n blank [] .start).scan_eq, List.nil_append,
      scan_of_stop (Line.ofText_of_closing hr) (by decide), hi]
    exact ⟨rfl, rfl, rfl⟩

theorem trailing_of_plain {name : Name} {inner rest : Forest} {below : List Text}
    {line : Nat → Nat} {stopped : Nat} (hn : separator ∉ name.text)
    (h : contents below = rest.lines ++ List.replicate k closingText)
    (hs : line (inner.lines.length + 1) = stopped)
    (hl : line (inner.lines.length + 2) = lineAt (stopped + 1) below 0) :
    ((firstContent? (stopped + 1) below).map (.trailingContentIgnored stopped)).toList =
      (set name inner rest).trailing line := by
  have ho : (set name inner rest).passedOver = rest := if_neg hn
  have hp : (set name inner rest).processed = set name inner nil := if_neg hn
  have hlen : (set name inner nil).lines.length = inner.lines.length + 2 := by
    rw [lines, lines, List.length_cons, List.length_append]
    rfl
  rw [trailing, ho, hp, hlen]
  rcases rest.lines_cases with rfl | ⟨text, more, hr, hc⟩
  · rw [firstContent?_eq_none (idle_of_contents h)]
    rfl
  · rw [hr, List.cons_append] at h
    rw [firstContent?_of_contents h hc, ← hl]
    cases rest with
    | nil => cases hr
    | leaf => rw [← hs]; rfl
    | set => rw [← hs]; rfl

theorem reading_scan (f : Forest)
    (h : contents lines = f.lines ++ List.replicate k closingText) :
    Reading f (lineAt n lines) (scan .start n lines) := by
  induction f generalizing n lines with
  | nil => exact reading_nil _ h
  | leaf token hc rest ih =>
    obtain ⟨first, below, rfl, hf, hb⟩ := Text.exists_append_of_contents
      (show contents lines = [token.text] ++ _ from h)
    have hrun : Run .start n first _ .start :=
      .of_content hf fun raw hr => State.step_of_outside token hc hr rfl
    have hzero : lineAt n (first ++ below) 0 = lineAt n first 0 := by
      apply Text.lineAt_append_left
      rw [hf]
      exact Nat.one_pos
    have hshift (j : Nat) : lineAt n (first ++ below) (j + 1) =
        lineAt (n + first.length) below j := by
      rw [← Text.lineAt_append, hf, Nat.add_comm]
      rfl
    rw [hrun.scan_eq, ← hzero]
    apply reading_leaf
    simp only [hshift]
    exact ih hb
  | set name inner rest ihi ihr =>
    obtain ⟨above, tail, rfl, ha, hb⟩ := Text.exists_append_of_contents
      (show contents lines = ((name.text ++ openingEnd) :: inner.lines) ++
        closingText :: (rest.lines ++ List.replicate k closingText) by
        rw [h, Forest.lines, List.cons_append, List.append_assoc]
        rfl)
    obtain ⟨blank, raw, below, rfl, hbl, hr, hn, hb⟩ := Text.exists_cons_of_contents hb
    obtain ⟨hstop, hbelow⟩ := Text.lineAt_around n above below hbl (hr ▸ hn)
    rw [ha] at hstop hbelow
    have hopen := run_opened name inner (n := n) State.Kept.start ha
    have hblank : Run (State.start.enter name.text) (n + above.length) blank [] _ := .of_blank hbl
    rw [hopen.scan_eq, hblank.scan_eq, List.nil_append]
    by_cases hc : separator ∈ name.text
    · have he : (fun j => lineAt n (above ++ (blank ++ raw :: below))
          (j + (inner.lines.length + 2))) =
          lineAt (n + above.length + blank.length + 1) below := by
        funext j
        rw [← hbelow]
        congr 1
        rw [List.length_cons]
        omega
      rw [scan_of_closing hr ((State.goesOn_iff name.text).2 hc), State.Kept.start.leave_enter]
      apply reading_compound hc
      rw [he]
      exact ihr hb
    · have hlow := Nat.lt_of_not_le fun hgo => hc ((State.goesOn_iff name.text).1 hgo)
      rw [scan_of_stop (Line.ofText_of_closing hr) hlow]
      exact reading_plain hc (trailing_of_plain hc hb hstop (hbelow 0))

end Forest

/-- The outline of a forest that is written in any layout: a field for every leaf inside a set, in
preorder, up to the set at the top that ends the scan; the names with a separator in the order
they are first met; and the places of the leaves outside and of the selections passed over. -/
theorem Outline.ofLines_forest (f : Forest) (k n : Nat) (lines : List Text)
    (h : contents lines = f.lines ++ List.replicate k closingText) :
    ofLines n lines =
      { fields := f.processed.sets.paths.map dotted
        compounds := f.processed.sets.compounds
        diagnostics :=
          (f.processed.topLeaves.map fun (i, text) =>
            .selectionOutsideBlock (lineAt n lines i) text) ++ f.trailing (lineAt n lines) } := by
  have hr := f.reading_scan (n := n) h
  rw [ofLines, ofEvents, hr.fields, hr.names, hr.diagnostics]
  rfl

def Forest.strayAndSets : Forest :=
  .leaf (.of "stray" (by decide)) (by decide)
    (.set (.of "a_b" (by decide))
      (.leaf (.of "c" (by decide)) (by decide) .nil)
      (.set (.of "d" (by decide))
        (.leaf (.of "e" (by decide)) (by decide)
          (.set (.of "g" (by decide))
            (.leaf (.of "h" (by decide)) (by decide) .nil) .nil))
        (.leaf (.of "f" (by decide)) (by decide) .nil)))

theorem Outline.ofLines_strayAndSets :
    contents ["stray", "  a_b \x7b", "c", "", "\x7d", "d \x7b", "\te", "g \x7b", "h", "\x7d", " \x7d",
          "f", "\x7d"] =
        Forest.strayAndSets.lines ++ List.replicate 1 closingText ∧
      ofLines 3 ["stray", "  a_b \x7b", "c", "", "\x7d", "d \x7b", "\te", "g \x7b", "h", "\x7d",
          " \x7d", "f", "\x7d"] =
        { fields := ["a_b_c", "d_e", "d_g_h"]
          compounds := ["a_b"]
          diagnostics := [.selectionOutsideBlock 3 "stray", .trailingContentIgnored 13 14] } := by
  refine ⟨by decide, ?_⟩
  rw [ofLines_forest Forest.strayAndSets 1 3 _ (by decide)]
  decide

end QueryDescriptor.Selection
