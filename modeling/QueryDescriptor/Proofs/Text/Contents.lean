import Mathlib.Tactic.ByContra
import QueryDescriptor.Proofs.Text.Parts

namespace QueryDescriptor.Text

/-- The lines that are not blank, each without the blanks around it. -/
def contents (lines : List Text) : List Text := (lines.map trim).filter (· ≠ [])

/-- The number of the line with the content of index `k`; the first line given has number `n`. -/
def lineAt (n : Nat) : List Text → Nat → Nat
  | [], _ => n
  | raw :: below, k =>
    if trim raw = [] then lineAt (n + 1) below k
    else if k = 0 then n
    else lineAt (n + 1) below (k - 1)

theorem contents_cons_of_blank {raw : Text} {below : List Text} (h : trim raw = []) :
    contents (raw :: below) = contents below := by
  simp only [contents, List.map_cons, h, ne_eq, not_true_eq_false, decide_false,
    Bool.false_eq_true, not_false_eq_true, List.filter_cons_of_neg]

theorem contents_cons_of_ne_nil {raw : Text} {below : List Text} (h : trim raw ≠ []) :
    contents (raw :: below) = trim raw :: contents below := by
  simp only [contents, List.map_cons, ne_eq, h, not_false_eq_true, decide_true,
    List.filter_cons_of_pos]

theorem exists_append_of_contents {lines above below : List Text}
    (h : contents lines = above ++ below) :
    ∃ raws rest, lines = raws ++ rest ∧ contents raws = above ∧ contents rest = below := by
  obtain ⟨ts, us, hl, ht, hu⟩ := List.filter_eq_append_iff.1 h
  obtain ⟨raws, rest, he, hr, hs⟩ := List.map_eq_append_iff.1 hl
  refine ⟨raws, rest, he, ?_, ?_⟩
  · rw [contents, hr, ht]
  · rw [contents, hs, hu]

theorem exists_cons_of_contents {lines : List Text} {text : Text} {rest : List Text}
    (h : contents lines = text :: rest) :
    ∃ blank raw below, lines = blank ++ raw :: below ∧ contents blank = [] ∧ trim raw = text ∧
      text ≠ [] ∧ contents below = rest := by
  induction lines with
  | nil => cases h
  | cons raw lines ih =>
    by_cases hr : trim raw = []
    · rw [contents_cons_of_blank hr] at h
      obtain ⟨blank, first, below, rfl, hb, hf⟩ := ih h
      refine ⟨raw :: blank, first, below, rfl, ?_, hf⟩
      rw [contents_cons_of_blank hr, hb]
    · rw [contents_cons_of_ne_nil hr] at h
      obtain ⟨rfl, rfl⟩ := List.cons_eq_cons.1 h
      exact ⟨[], raw, lines, rfl, rfl, rfl, hr, rfl⟩

theorem mem_contents {lines : List Text} {raw : Text} (h : raw ∈ lines) (hn : trim raw ≠ []) :
    trim raw ∈ contents lines :=
  List.mem_filter.2 ⟨List.mem_map_of_mem h, decide_eq_true hn⟩

theorem allBlank_of_contents {blank : List Text} (h : contents blank = []) :
    ∀ raw ∈ blank, allBlank raw = true := by
  intro raw hr
  apply trim_eq_nil_iff.1
  by_contra hn
  have hmem := mem_contents hr hn
  rw [h] at hmem
  cases hmem

theorem contents_of_allBlank {blank : List Text} (h : ∀ raw ∈ blank, allBlank raw = true) :
    contents blank = [] := by
  induction blank with
  | nil => rfl
  | cons raw blank ih =>
    rw [contents_cons_of_blank (trim_eq_nil_iff.2 (h raw List.mem_cons_self))]
    exact ih fun l hl => h l (List.mem_cons_of_mem raw hl)

theorem lineAt_cons_zero {raw : Text} (h : trim raw ≠ []) (n : Nat) (below : List Text) :
    lineAt n (raw :: below) 0 = n := by
  rw [lineAt, if_neg h, if_pos rfl]

theorem lineAt_cons_succ {raw : Text} (h : trim raw ≠ []) (n k : Nat) (below : List Text) :
    lineAt n (raw :: below) (k + 1) = lineAt (n + 1) below k := by
  rw [lineAt, if_neg h, if_neg (Nat.succ_ne_zero k), Nat.add_sub_cancel]

theorem lineAt_append (n k : Nat) (above below : List Text) :
    lineAt n (above ++ below) ((contents above).length + k) =
      lineAt (n + above.length) below k := by
  induction above generalizing n with
  | nil =>
    rw [List.nil_append, List.length_nil, Nat.add_zero]
    congr 1
    exact Nat.zero_add k
  | cons raw above ih =>
    have hn : n + 1 + above.length = n + (raw :: above).length := by
      rw [List.length_cons]
      omega
    rw [List.cons_append, lineAt, ← hn]
    by_cases hr : trim raw = []
    · rw [if_pos hr, contents_cons_of_blank hr, ih]
    · rw [if_neg hr, contents_cons_of_ne_nil hr, List.length_cons, if_neg (by omega),
        Nat.add_right_comm, Nat.add_sub_cancel, ih]

theorem lineAt_blank_append {blank : List Text} (h : contents blank = []) (n k : Nat)
    (below : List Text) : lineAt n (blank ++ below) k = lineAt (n + blank.length) below k := by
  have hl := lineAt_append n k blank below
  rw [h, List.length_nil, Nat.zero_add] at hl
  exact hl

theorem lineAt_around (n : Nat) (above below : List Text) {blank : List Text} {raw : Text}
    (hb : contents blank = []) (hr : trim raw ≠ []) :
    lineAt n (above ++ (blank ++ raw :: below)) (contents above).length =
        n + above.length + blank.length ∧
      ∀ k, lineAt n (above ++ (blank ++ raw :: below)) ((contents above).length + (k + 1)) =
        lineAt (n + above.length + blank.length + 1) below k := by
  constructor
  · rw [← Nat.add_zero (contents above).length, lineAt_append, lineAt_blank_append hb,
      lineAt_cons_zero hr]
  · intro k
    rw [lineAt_append, lineAt_blank_append hb, lineAt_cons_succ hr]

theorem lineAt_append_left (n : Nat) {k : Nat} {above : List Text} (below : List Text)
    (hk : k < (contents above).length) : lineAt n (above ++ below) k = lineAt n above k := by
  induction above generalizing n k with
  | nil => cases hk
  | cons raw above ih =>
    rw [List.cons_append, lineAt, lineAt]
    by_cases hr : trim raw = []
    · rw [contents_cons_of_blank hr] at hk
      rw [if_pos hr, if_pos hr, ih _ hk]
    · rw [contents_cons_of_ne_nil hr, List.length_cons] at hk
      rw [if_neg hr, if_neg hr]
      by_cases h0 : k = 0
      · rw [if_pos h0, if_pos h0]
      · rw [if_neg h0, if_neg h0, ih _ (by omega)]

end QueryDescriptor.Text
