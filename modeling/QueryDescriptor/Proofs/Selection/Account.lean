import Mathlib.Data.List.Forall2
import QueryDescriptor.Proofs.Selection.Run

namespace QueryDescriptor.Selection

variable {s t : State} {n : Nat} {raw : Text} {above below lines : List Text}
  {events more : List Event}

/-- A trimmed line that neither opens nor closes a set. -/
def IsLeaf (text : Text) : Prop := text ≠ [] ∧ text ≠ closingText ∧ ¬ openingEnd <:+ text

instance : DecidablePred IsLeaf := fun _ => instDecidableAnd

/-- The leaf lines, trimmed and with their numbers; the first line given has number `n`. -/
def leafLines (n : Nat) (lines : List Text) : List (Nat × Text) :=
  ((lines.zipIdx n).map fun (raw, i) => (i, Text.trim raw)).filter fun (_, text) => IsLeaf text

inductive Account where
  | field (name : Text)
  | outside (line : Nat) (text : Text)

namespace Account

def name? : Account → Option Text
  | field name => some name
  | outside _ _ => none

def line? : Account → Option Nat
  | field _ => none
  | outside line _ => some line

def diagnostic? : Account → Option Diagnostic
  | field _ => none
  | outside line text => some (.selectionOutsideBlock line text)

/-- The account is one of the given line: a field ends in its first word, and a diagnostic repeats
its number and text. -/
def Of : Nat × Text → Account → Prop
  | (_, text), field name => ∃ word, Text.IsFirstWord word text ∧ word <:+ name
  | (i, text), outside line said => line = i ∧ said = text

end Account

structure Accounts (n : Nat) (lines : List Text) (events : List Event) (accounts : List Account) :
    Prop where
  leaves : List.Forall₂ Account.Of (leafLines n lines) accounts
  fields : events.filterMap Event.fieldName? = accounts.filterMap Account.name?
  diagnostics : events.filterMap Event.diagnostic? = accounts.filterMap Account.diagnostic?

theorem leafLines_cons (n : Nat) (raw : Text) (below : List Text) :
    leafLines n (raw :: below) = leafLines n [raw] ++ leafLines (n + 1) below := by
  rw [leafLines, List.zipIdx_cons, ← List.singleton_append, List.map_append, List.filter_append]
  rfl

theorem leafLines_of_not_leaf (h : ¬ IsLeaf (Text.trim raw)) (n : Nat) :
    leafLines n [raw] = [] := by
  simp only [leafLines, List.zipIdx_cons, List.zipIdx_nil, List.map_cons, List.map_nil, h,
    decide_false, Bool.false_eq_true, not_false_eq_true, List.filter_cons_of_neg, List.filter_nil]

theorem leafLines_of_leaf (h : IsLeaf (Text.trim raw)) (n : Nat) :
    leafLines n [raw] = [(n, Text.trim raw)] := by
  simp only [leafLines, List.zipIdx_cons, List.zipIdx_nil, List.map_cons, List.map_nil, h,
    decide_true, List.filter_cons_of_pos, List.filter_nil]

theorem ofText_eq_leaf {text : Text} (h : Line.ofText raw = .leaf text) :
    Text.trim raw = text ∧ IsLeaf text := by
  rcases Line.ofText_cases raw with ⟨_, he⟩ | ⟨_, he⟩ | ⟨_, _, he⟩ | ⟨hn, hc, ho, he⟩
  · rw [h] at he
    cases he
  · rw [h] at he
    cases he
  · rw [h] at he
    cases he
  · rw [h] at he
    cases he
    exact ⟨rfl, hn, hc, ho⟩

theorem not_leaf_of_ofText (h : ∀ text, Line.ofText raw ≠ .leaf text) :
    ¬ IsLeaf (Text.trim raw) := by
  rintro ⟨hn, hc, ho⟩
  exact h _ (Line.ofText_of_leaf rfl hn hc ho)

namespace Accounts

theorem nil : Accounts n [] [] [] := ⟨.nil, rfl, rfl⟩

theorem of_silent (h : ∀ text, Line.ofText raw ≠ .leaf text)
    (hf : events.filterMap Event.fieldName? = [])
    (hd : events.filterMap Event.diagnostic? = []) : Accounts n [raw] events [] := by
  constructor
  · rw [leafLines_of_not_leaf (not_leaf_of_ofText h)]
    exact .nil
  · exact hf
  · exact hd

theorem append {accounts rest : List Account} (h : Accounts n [raw] events accounts)
    (hb : Accounts (n + 1) below more rest) :
    Accounts n (raw :: below) (events ++ more) (accounts ++ rest) := by
  constructor
  · rw [leafLines_cons]
    exact List.rel_append h.leaves hb.leaves
  · rw [List.filterMap_append, List.filterMap_append, h.fields, hb.fields]
  · rw [List.filterMap_append, List.filterMap_append, h.diagnostics, hb.diagnostics]

theorem of_step (h : s.step n (Line.ofText raw) = some (t, events)) :
    ∃ accounts, Accounts n [raw] events accounts := by
  rcases State.step_cases h with ⟨name, hl, _, rfl⟩ | ⟨hl, _, _, rfl⟩ | ⟨hl, _, rfl⟩ |
    ⟨text, hl, _, _, rfl⟩ | ⟨text, hl, _, _, rfl⟩
  · exact ⟨[], of_silent (fun text he => by rw [hl] at he; cases he) rfl rfl⟩
  · exact ⟨[], of_silent (fun text he => by rw [hl] at he; cases he) rfl rfl⟩
  · exact ⟨[], of_silent (fun text he => by rw [hl] at he; cases he) rfl rfl⟩
  · obtain ⟨rfl, hleaf⟩ := ofText_eq_leaf hl
    refine ⟨[.outside n (Text.trim raw)], ?_, rfl, rfl⟩
    rw [leafLines_of_leaf hleaf]
    exact .cons ⟨rfl, rfl⟩ .nil
  · obtain ⟨rfl, hleaf⟩ := ofText_eq_leaf hl
    have hword := Text.isFirstWord_firstWord hleaf.1 (Text.not_blank_head?_trim raw)
    refine ⟨[.field (s.stem ++ Text.firstWord (Text.trim raw))], ?_, rfl, rfl⟩
    rw [leafLines_of_leaf hleaf]
    exact .cons ⟨_, hword, List.suffix_append s.stem _⟩ .nil

end Accounts

theorem Run.accounts (h : Run s n lines events t) :
    ∃ accounts, Accounts n lines events accounts := by
  induction h with
  | nil => exact ⟨[], .nil⟩
  | cons hs hr ih =>
    obtain ⟨first, hf⟩ := Accounts.of_step hs
    obtain ⟨rest, hb⟩ := ih
    exact ⟨first ++ rest, hf.append hb⟩

def openings (lines : List Text) : Nat := lines.countP fun raw => openingEnd <:+ Text.trim raw

def closings (lines : List Text) : Nat := lines.countP fun raw => Text.trim raw = closingText

theorem openings_cons (raw : Text) (below : List Text) :
    openings (raw :: below) =
      openings below + if openingEnd <:+ Text.trim raw then 1 else 0 := by
  rw [openings, List.countP_cons]
  simp only [decide_eq_true_eq, openings]

theorem closings_cons (raw : Text) (below : List Text) :
    closings (raw :: below) =
      closings below + if Text.trim raw = closingText then 1 else 0 := by
  rw [closings, List.countP_cons]
  simp only [decide_eq_true_eq, closings]

theorem not_opening_closingText : ¬ openingEnd <:+ closingText := by decide

theorem append_openingEnd_ne (name : Text) : name ++ openingEnd ≠ closingText := by
  intro h
  have hs := List.suffix_append name openingEnd
  rw [h] at hs
  exact not_opening_closingText hs

theorem State.depth_leave (h : 0 < s.nesting.depth) :
    s.leave.nesting.depth + 1 = s.nesting.depth := by
  obtain ⟨⟨names⟩, stem⟩ := s
  cases names with
  | nil => cases h
  | cons name names => rfl

theorem depth_of_step (h : s.step n (Line.ofText raw) = some (t, events)) :
    t.nesting.depth + closings [raw] = s.nesting.depth + openings [raw] := by
  have ho : openings [raw] = if openingEnd <:+ Text.trim raw then 1 else 0 :=
    (openings_cons raw []).trans (Nat.zero_add _)
  have hc : closings [raw] = if Text.trim raw = closingText then 1 else 0 :=
    (closings_cons raw []).trans (Nat.zero_add _)
  rw [ho, hc]
  rcases Line.ofText_cases raw with ⟨ht, he⟩ | ⟨ht, he⟩ | ⟨name, ht, he⟩ | ⟨_, hnc, hno, he⟩
  · rw [he] at h
    cases h
    rw [ht, if_neg (by decide), if_neg (by decide)]
  · rw [he] at h
    rcases State.step_cases h with ⟨_, hl, _⟩ | ⟨_, hs, rfl, _⟩ | ⟨hl, _⟩ | ⟨_, hl, _⟩ |
      ⟨_, hl, _⟩
    · cases hl
    · have hpos := Nesting.depth_pos_of_separators (Nat.lt_of_lt_of_le (by decide) hs)
      rw [ht, if_pos rfl, if_neg not_opening_closingText, State.depth_leave hpos]
      rfl
    · cases hl
    · cases hl
    · cases hl
  · rw [he] at h
    cases h
    rw [ht, if_neg (append_openingEnd_ne name), if_pos (List.suffix_append name openingEnd)]
    rfl
  · rw [if_neg hnc, if_neg hno]
    rw [he, State.step] at h
    split at h
    · cases h
      rfl
    · cases h
      rfl

theorem Run.depth (h : Run s n lines events t) :
    t.nesting.depth + closings lines = s.nesting.depth + openings lines := by
  induction h with
  | nil => rfl
  | @cons s t u n raw below events more hs hr ih =>
    have hstep := depth_of_step hs
    rw [openings_cons, closings_cons]
    rw [openings_cons, closings_cons] at hstep
    have ho : openings [] = 0 := rfl
    have hc : closings [] = 0 := rfl
    omega

theorem leafLines_pairwise (n : Nat) (lines : List Text) :
    (leafLines n lines).Pairwise fun p q => p.1 < q.1 := by
  rw [leafLines]
  apply List.Pairwise.filter
  rw [List.pairwise_map]
  exact List.pairwise_map.1 (List.zipIdx_map_snd n lines ▸ List.pairwise_lt_range')

theorem lines_sublist {leaves : List (Nat × Text)} {accounts : List Account}
    (h : List.Forall₂ Account.Of leaves accounts) :
    (accounts.filterMap Account.line?).Sublist (leaves.map Prod.fst) := by
  induction h with
  | nil => exact List.Sublist.slnil
  | @cons p account leaves accounts hp hr ih =>
    cases account with
    | field name => exact ih.cons p.1
    | outside line text =>
      obtain ⟨rfl, _⟩ := hp
      exact ih.cons_cons p.1

theorem Accounts.increasing {accounts : List Account} (h : Accounts n lines events accounts) :
    (accounts.filterMap Account.line?).Pairwise (· < ·) :=
  (List.pairwise_map.2 (leafLines_pairwise n lines)).sublist (lines_sublist h.leaves)

/-- The last line of a run is where the scan stops, or where the lines end. -/
def StopsAt (last : State) (below : List Text) : Prop :=
  below = [] ∨ ∃ raw rest, below = raw :: rest ∧ Text.trim raw = closingText ∧
    last.nesting.separators < State.separatorsToGoOn

/-- What an outline tells of its lines, of which a scan goes through those above and stops at the
first of those below, if there is one. -/
structure Accounting (n : Nat) (above below : List Text) (accounts : List Account)
    (ending : Option Diagnostic) (o : Outline) : Prop where
  leaves : List.Forall₂ Account.Of (leafLines n above) accounts
  fields : o.fields = accounts.filterMap Account.name?
  diagnostics : o.diagnostics = accounts.filterMap Account.diagnostic? ++ ending.toList
  increasing : (accounts.filterMap Account.line?).Pairwise (· < ·)
  ending_cases : ∀ d, ending = some d →
    (∃ stopped ignored, d = .trailingContentIgnored stopped ignored) ∨
      ∃ depth, d = .unclosedSelectionSet depth
  trailing : ∀ stopped ignored, .trailingContentIgnored stopped ignored ∈ o.diagnostics ↔
    ∃ raw idle first rest, below = raw :: (idle ++ first :: rest) ∧ (∀ l ∈ idle, Idle l) ∧
      ¬ Idle first ∧ stopped = n + above.length ∧ ignored = stopped + idle.length + 1
  unclosed : ∀ depth, .unclosedSelectionSet depth ∈ o.diagnostics ↔
    below = [] ∧ 0 < depth ∧ openings above = closings above + depth

theorem Account.mem_diagnostics {accounts : List Account} {d : Diagnostic}
    (h : d ∈ accounts.filterMap Account.diagnostic?) :
    ∃ line text, d = .selectionOutsideBlock line text := by
  obtain ⟨account, _, hd⟩ := List.mem_filterMap.1 h
  cases account with
  | field name => cases hd
  | outside line text =>
    cases hd
    exact ⟨line, text, rfl⟩

theorem Account.mem_append_iff {accounts : List Account} {ending : Option Diagnostic}
    {d : Diagnostic} (hd : ∀ line text, d ≠ .selectionOutsideBlock line text) :
    d ∈ accounts.filterMap Account.diagnostic? ++ ending.toList ↔ ending = some d := by
  rw [List.mem_append, or_iff_right, Option.mem_toList]
  intro h
  obtain ⟨line, text, he⟩ := mem_diagnostics h
  exact hd line text he

theorem Accounts.outline {accounts : List Account} {ending : Option Diagnostic}
    (silent : List Event) (h : Accounts n above events accounts)
    (hf : silent.filterMap Event.fieldName? = []) (hd : silent.filterMap Event.diagnostic? = [])
    (hs : scan .start n lines = events ++ (silent ++ ending.toList.map .diagnosed)) :
    (Outline.ofLines n lines).fields = accounts.filterMap Account.name? ∧
      (Outline.ofLines n lines).diagnostics =
        accounts.filterMap Account.diagnostic? ++ ending.toList := by
  rw [Outline.ofLines, hs, Outline.ofEvents]
  dsimp only
  rw [List.filterMap_append, List.filterMap_append, hf, h.fields, List.filterMap_append,
    List.filterMap_append, hd, h.diagnostics]
  cases ending with
  | none => exact ⟨List.append_nil _, rfl⟩
  | some d => exact ⟨List.append_nil _, rfl⟩

def unclosed? (depth : Nat) : Option Diagnostic :=
  if depth = 0 then none else some (.unclosedSelectionSet depth)

theorem scan_nil (s : State) (n : Nat) :
    scan s n [] = (unclosed? s.nesting.depth).toList.map .diagnosed := by
  rw [scan, unclosed?]
  split <;> rfl

theorem unclosed?_eq_some_iff {depth : Nat} {d : Diagnostic} :
    unclosed? depth = some d ↔ 0 < depth ∧ d = .unclosedSelectionSet depth := by
  rw [unclosed?]
  split
  · next h =>
    constructor
    · intro hd
      cases hd
    · rintro ⟨hpos, _⟩
      omega
  · next h =>
    constructor
    · intro hd
      cases hd
      exact ⟨Nat.pos_of_ne_zero h, rfl⟩
    · rintro ⟨_, rfl⟩
      rfl

theorem accounting_of_end {accounts : List Account} (hr : Run .start n lines events t)
    (h : Accounts n lines events accounts) :
    Accounting n lines [] accounts (unclosed? t.nesting.depth) (.ofLines n lines) := by
  have hdepth : t.nesting.depth + closings lines = openings lines :=
    hr.depth.trans (Nat.zero_add _)
  have hscan := hr.scan_eq []
  rw [List.append_nil, scan_nil] at hscan
  obtain ⟨hfields, hdiagnostics⟩ := h.outline [] rfl rfl hscan
  refine ⟨h.leaves, hfields, hdiagnostics, h.increasing, ?_, ?_, ?_⟩
  · intro d hd
    exact .inr ⟨_, (unclosed?_eq_some_iff.1 hd).2⟩
  · intro stopped ignored
    rw [hdiagnostics, Account.mem_append_iff (fun _ _ he => by cases he),
      unclosed?_eq_some_iff]
    constructor
    · rintro ⟨_, he⟩
      cases he
    · rintro ⟨raw, idle, first, rest, he, _⟩
      cases he
  · intro depth
    rw [hdiagnostics, Account.mem_append_iff (fun _ _ he => by cases he),
      unclosed?_eq_some_iff]
    constructor
    · rintro ⟨hpos, he⟩
      cases he
      exact ⟨rfl, hpos, by omega⟩
    · rintro ⟨_, hpos, ho⟩
      have he : depth = t.nesting.depth := by omega
      rw [he]
      exact ⟨he ▸ hpos, rfl⟩

theorem accounting_of_stop {accounts : List Account} (hr : Run .start n above events t)
    (h : Accounts n above events accounts) (hc : Line.ofText raw = .closing)
    (hs : t.nesting.separators < State.separatorsToGoOn) :
    Accounting n above (raw :: below) accounts
      ((firstContent? (n + above.length + 1) below).map
        (Diagnostic.trailingContentIgnored (n + above.length)))
      (.ofLines n (above ++ raw :: below)) := by
  have hscan := hr.scan_eq (raw :: below)
  rw [scan_of_stop hc hs] at hscan
  obtain ⟨hfields, hdiagnostics⟩ := h.outline [.stopped (n + above.length)] rfl rfl hscan
  refine ⟨h.leaves, hfields, hdiagnostics, h.increasing, ?_, ?_, ?_⟩
  · intro d hd
    obtain ⟨ignored, _, rfl⟩ := Option.map_eq_some_iff.1 hd
    exact .inl ⟨_, ignored, rfl⟩
  · intro stopped ignored
    rw [hdiagnostics, Account.mem_append_iff (fun _ _ he => by cases he),
      Option.map_eq_some_iff]
    constructor
    · rintro ⟨m, hm, he⟩
      cases he
      obtain ⟨idle, first, rest, rfl, hi, hf, rfl⟩ := firstContent?_eq_some_iff.1 hm
      exact ⟨raw, idle, first, rest, rfl, hi, hf, rfl, by omega⟩
    · rintro ⟨_, idle, first, rest, he, hi, hf, rfl, rfl⟩
      cases he
      refine ⟨_, firstContent?_eq_some_iff.2 ⟨idle, first, rest, rfl, hi, hf, rfl⟩, ?_⟩
      rw [Nat.add_right_comm (n + above.length)]
  · intro depth
    rw [hdiagnostics, Account.mem_append_iff (fun _ _ he => by cases he),
      Option.map_eq_some_iff]
    constructor
    · rintro ⟨m, _, he⟩
      cases he
    · rintro ⟨he, _⟩
      cases he

/-- Every leaf line above the stopping point has an account in the outline of the lines, and what
is left out or left open is told at the end. -/
theorem Outline.ofLines_accounting (n : Nat) (lines : List Text) :
    ∃ above below events last accounts ending, lines = above ++ below ∧
      Run .start n above events last ∧ StopsAt last below ∧
      Accounting n above below accounts ending (.ofLines n lines) := by
  obtain ⟨above, below, events, last, rfl, hr, hb⟩ := exists_run .start n lines
  obtain ⟨accounts, ha⟩ := hr.accounts
  rcases hb with rfl | ⟨raw, rest, rfl, hc, hs⟩
  · rw [List.append_nil]
    exact ⟨above, [], events, last, accounts, _, (List.append_nil above).symm, hr, .inl rfl,
      accounting_of_end hr ha⟩
  · exact ⟨above, raw :: rest, events, last, accounts, _, rfl, hr,
      .inr ⟨raw, rest, rfl, Line.ofText_eq_closing_iff.1 hc, hs⟩, accounting_of_stop hr ha hc hs⟩

def strayLines : List Text :=
  ["  lost  and found ", "Group_a \x7b", "\tid # its own", "edges \x7b", "  name: alias", "\x7d",
    " \x7d ", "stray", "\x7d", "", "\x7d", "late \x7b"]

theorem Outline.ofLines_accounting_stray :
    (ofLines 4 strayLines).fields = ["Group_a_id", "Group_a_edges_name:"] ∧
      (ofLines 4 strayLines).diagnostics =
        [.selectionOutsideBlock 4 "lost  and found", .selectionOutsideBlock 11 "stray",
          .trailingContentIgnored 12 15] ∧
      (ofLines 4 (strayLines.take 5)).diagnostics =
        [.selectionOutsideBlock 4 "lost  and found", .unclosedSelectionSet 2] ∧
      ∃ above below events last accounts ending, strayLines = above ++ below ∧
        Run .start 4 above events last ∧ StopsAt last below ∧
        Accounting 4 above below accounts ending (.ofLines 4 strayLines) := by
  refine ⟨by decide, by decide, by decide, ?_⟩
  exact ofLines_accounting 4 strayLines

end QueryDescriptor.Selection
