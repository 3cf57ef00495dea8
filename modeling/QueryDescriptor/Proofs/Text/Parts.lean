import Mathlib.Data.List.DropRight
import Mathlib.Tactic.ByContra
import QueryDescriptor.Text.Blank

namespace QueryDescriptor.Text

variable {p : Char → Bool} {t rest start ending word : Text} {c : Char}

/-- A property of the characters of a text is decided on the text, not on all characters. -/
instance (p : Char → Prop) [DecidablePred p] (t : Text) : Decidable (∀ c, c ∈ t → p c) :=
  List.decidableBAll p t

instance (p : Char → Prop) [DecidablePred p] (o : Option Char) : Decidable (∀ c, c ∈ o → p c) :=
  Option.decidableForallMem o

theorem beq_of_not_mem {d : Char} (h : d ∉ t) : ∀ c ∈ t, (c == d) = false := by
  intro c hc
  apply beq_false_of_ne
  intro he
  exact h (he ▸ hc)

theorem dropStart?_append (start rest : Text) : dropStart? start (start ++ rest) = some rest := by
  induction start with
  | nil => rfl
  | cons c start ih => rw [List.cons_append, dropStart?, if_pos rfl, ih]

theorem dropStart?_eq_none_iff : dropStart? start t = none ↔ ¬ start <+: t := by
  induction start generalizing t with
  | nil => simp only [dropStart?, reduceCtorEq, List.nil_prefix, not_true_eq_false]
  | cons a start ih =>
    cases t with
    | nil => simp only [dropStart?, List.prefix_nil, reduceCtorEq, not_false_eq_true]
    | cons c t =>
      rw [dropStart?, List.cons_prefix_cons]
      split
      · next h => rw [ih, and_iff_right h]
      · next h => simp only [h, false_and, not_false_eq_true]

theorem eq_append_of_dropStart? (h : dropStart? start t = some rest) : t = start ++ rest := by
  have hp : start <+: t := by
    by_contra hn
    rw [dropStart?_eq_none_iff.2 hn] at h
    cases h
  obtain ⟨more, rfl⟩ := hp
  rw [dropStart?_append] at h
  rw [Option.some.inj h]

theorem dropEnd?_append (t ending : Text) : dropEnd? ending (t ++ ending) = some t := by
  rw [dropEnd?, if_pos (List.isSuffixOf_iff_suffix.2 (List.suffix_append t ending)),
    List.length_append, Nat.add_sub_cancel, List.take_left]

theorem dropEnd?_eq_none_iff : dropEnd? ending t = none ↔ ¬ ending <:+ t := by
  rw [dropEnd?, ← List.isSuffixOf_iff_suffix]
  by_cases h : ending.isSuffixOf t
  · simp only [h, ↓reduceIte, reduceCtorEq, not_true_eq_false]
  · simp only [h, Bool.false_eq_true, ↓reduceIte, not_false_eq_true]

theorem dropWhile_of_head? (h : ∀ c ∈ t.head?, p c = false) : t.dropWhile p = t := by
  cases t with
  | nil => rfl
  | cons c t =>
    rw [List.dropWhile_cons_of_neg]
    rw [h c rfl]
    exact Bool.false_ne_true

theorem dropEndWhile_eq (p : Char → Bool) (t : Text) : dropEndWhile p t = t.rdropWhile p := rfl

theorem dropEndWhile_append_of_not (ht : ∀ c ∈ t.getLast?, p c = false) (rest : Text) :
    dropEndWhile p (t ++ rest) = t ++ dropEndWhile p rest := by
  have hr : t.reverse.dropWhile p = t.reverse := by
    apply dropWhile_of_head?
    intro c hc
    rw [List.head?_reverse] at hc
    exact ht c hc
  rw [dropEndWhile, dropEndWhile, List.reverse_append, List.dropWhile_append]
  split
  · next he =>
    rw [hr, List.reverse_reverse, List.isEmpty_iff.1 he, List.reverse_nil, List.append_nil]
  · rw [List.reverse_append, List.reverse_reverse]

theorem dropEndWhile_append (ht : ∀ c ∈ t.getLast?, p c = false)
    (he : ∀ c ∈ ending, p c = true) : dropEndWhile p (t ++ ending) = t := by
  rw [dropEndWhile_append_of_not ht, dropEndWhile_eq, List.rdropWhile_eq_nil_iff.2 he,
    List.append_nil]

theorem after?_append (ht : ∀ c ∈ t, p c = false) (hc : p c = true) (rest : Text) :
    after? p (t ++ c :: rest) = some rest := by
  induction t with
  | nil => rw [List.nil_append, after?, if_pos hc]
  | cons d t ih =>
    have hd := ht d List.mem_cons_self
    rw [List.cons_append, after?, hd, if_neg Bool.false_ne_true]
    exact ih fun e he => ht e (List.mem_cons_of_mem d he)

theorem after?_eq_none (ht : ∀ c ∈ t, p c = false) : after? p t = none := by
  induction t with
  | nil => rfl
  | cons d t ih =>
    have hd := ht d List.mem_cons_self
    rw [after?, hd, if_neg Bool.false_ne_true]
    exact ih fun e he => ht e (List.mem_cons_of_mem d he)

theorem before_append_of_not (ht : ∀ c ∈ t, p c = false) (rest : Text) :
    before p (t ++ rest) = t ++ before p rest := by
  rw [before, List.takeWhile_append_of_pos]
  · rfl
  · intro c hc
    rw [ht c hc]
    rfl

theorem before_eq_nil (hr : ∀ c ∈ rest.head?, p c = true) : before p rest = [] := by
  cases rest with
  | nil => rfl
  | cons c rest =>
    rw [before, List.takeWhile_cons_of_neg]
    rw [hr c rfl]
    exact Bool.false_ne_true

theorem before_append (ht : ∀ c ∈ t, p c = false) (hr : ∀ c ∈ rest.head?, p c = true) :
    before p (t ++ rest) = t := by
  rw [before_append_of_not ht, before_eq_nil hr, List.append_nil]

theorem before_cuts (p : Char → Bool) (t : Text) :
    (∀ c ∈ before p t, p c = false) ∧
      ∃ rest, t = before p t ++ rest ∧ ∀ c ∈ rest.head?, p c = true := by
  refine ⟨fun c hc => ?_, t.dropWhile fun c => !p c, List.takeWhile_append_dropWhile.symm, ?_⟩
  · have hnot := List.mem_takeWhile_imp hc
    rw [Bool.not_eq_true'] at hnot
    exact hnot
  · intro c hc
    have hnot := List.head?_dropWhile_not (fun c => !p c) t
    rw [Option.mem_def.1 hc] at hnot
    dsimp only at hnot
    rw [Bool.not_eq_false'] at hnot
    exact hnot

theorem before_prefix (p : Char → Bool) (t rest : Text) :
    before p t <+: before p (t ++ rest) := by
  rw [before, before, List.takeWhile_append]
  split
  · exact (List.takeWhile_prefix _).trans (List.prefix_append t _)
  · exact List.prefix_refl _

theorem before_append_prefix (hr : ∀ c ∈ rest.head?, p c = true) :
    before p (t ++ rest) <+: t := by
  rw [before, List.takeWhile_append]
  split
  · have hnil : List.takeWhile (fun c => !p c) rest = [] := before_eq_nil hr
    simp only [hnil, List.append_nil, List.prefix_refl]
  · exact List.takeWhile_prefix _

theorem head?_before (h : c ∈ (before p t).head?) : c ∈ t.head? ∧ p c = false := by
  cases t with
  | nil => cases h
  | cons d t =>
    cases hd : p d with
    | true =>
      rw [before_eq_nil (fun e he => by cases he; exact hd)] at h
      cases h
    | false =>
      rw [before, List.takeWhile_cons_of_pos (by rw [hd]; rfl)] at h
      cases h
      exact ⟨rfl, hd⟩

theorem join_cons (separator t : Text) (ts : List Text) :
    join separator (t :: ts) = t ++ ts.flatMap (separator ++ ·) := by
  induction ts generalizing t with
  | nil => rw [List.flatMap_nil, List.append_nil, join]
  | cons u ts ih => rw [join_cons_cons, ih, List.flatMap_cons, List.append_assoc, List.append_assoc]

theorem mem_join {separator : Text} {words : List Text} (hw : word ∈ words) (hc : c ∈ word) :
    c ∈ join separator words := by
  induction words with
  | nil => cases hw
  | cons first rest ih =>
    cases rest with
    | nil => exact List.mem_singleton.1 hw ▸ hc
    | cons next rest =>
      rw [join_cons_cons]
      rcases List.mem_cons.1 hw with rfl | hw
      · exact List.mem_append_left _ (List.mem_append_left _ hc)
      · exact List.mem_append_right _ (ih hw)

theorem split_append (separator : Char) (above below : Text) :
    split separator (above ++ separator :: below) =
      split separator above ++ split separator below := by
  induction above with
  | nil => exact if_pos rfl
  | cons c above ih =>
    obtain ⟨piece, pieces, hs⟩ := List.exists_cons_of_ne_nil (split_ne_nil separator above)
    rw [List.cons_append, split, split, ih, hs]
    by_cases hc : c = separator
    · rw [if_pos hc, if_pos hc]
      rfl
    · rw [if_neg hc, if_neg hc]
      rfl

theorem split_of_not_mem {separator : Char} (h : separator ∉ t) : split separator t = [t] := by
  induction t with
  | nil => rfl
  | cons c t ih =>
    have hc : c ≠ separator := fun he => h (he ▸ List.mem_cons_self)
    rw [split, if_neg hc, ih fun ht => h (List.mem_cons_of_mem c ht)]

theorem split_join {separator : Char} {pieces : List Text} (hne : pieces ≠ [])
    (h : ∀ piece ∈ pieces, separator ∉ piece) :
    split separator (join [separator] pieces) = pieces := by
  induction pieces with
  | nil => exact absurd rfl hne
  | cons piece pieces ih =>
    have hpiece := split_of_not_mem (h piece List.mem_cons_self)
    cases pieces with
    | nil => exact hpiece
    | cons next rest =>
      have hrest := ih (List.cons_ne_nil next rest) fun p hp => h p (List.mem_cons_of_mem piece hp)
      rw [join_cons_cons, List.append_assoc, List.singleton_append, split_append, hpiece, hrest]
      rfl

theorem trimEnd_prefix (t : Text) : trimEnd t <+: t := by
  rw [trimEnd, dropEndWhile_eq]
  exact List.rdropWhile_prefix _ t

theorem head?_trimEnd {p : Char → Prop} {t : Text} (h : ∀ c ∈ t.head?, p c) :
    ∀ c ∈ (trimEnd t).head?, p c := by
  intro c hc
  obtain ⟨rest, hr⟩ := trimEnd_prefix t
  apply h
  rw [← hr, List.head?_append, Option.mem_def.1 hc]
  rfl

theorem not_blank_head?_trim (t : Text) : ∀ c ∈ (trim t).head?, isBlank c = false := by
  apply head?_trimEnd
  intro c hc
  have h := List.head?_dropWhile_not isBlank t
  rw [← trimStart, Option.mem_def.1 hc] at h
  exact h

theorem trim_eq_nil_iff : trim t = [] ↔ allBlank t := by
  rw [trim, trimEnd, dropEndWhile_eq, List.rdropWhile_eq_nil_iff, allBlank, List.all_eq_true]
  refine ⟨?_, ?_⟩
  · intro h
    have hs : trimStart t = [] := by
      cases hd : trimStart t with
      | nil => rfl
      | cons c rest =>
        have hc := List.head?_dropWhile_not isBlank t
        rw [← trimStart, hd] at hc
        exact absurd (h c (hd ▸ List.mem_cons_self)) (Bool.eq_false_iff.1 hc)
    exact List.dropWhile_eq_nil_iff.1 hs
  · intro h c hc
    exact h c ((List.dropWhile_sublist isBlank).mem hc)

theorem trim_append (hn : t ≠ []) (hs : ∀ c ∈ t.head?, isBlank c = false)
    (he : ∀ c ∈ t.getLast?, isBlank c = false) (rest : Text) :
    trim (t ++ rest) = t ++ trimEnd rest := by
  have hstart : trimStart (t ++ rest) = t ++ rest := by
    apply dropWhile_of_head?
    intro c hc
    rw [List.head?_append_of_ne_nil t hn] at hc
    exact hs c hc
  rw [trim, hstart]
  exact dropEndWhile_append_of_not he rest

theorem trim_of_ends (hs : ∀ c ∈ t.head?, isBlank c = false)
    (he : ∀ c ∈ t.getLast?, isBlank c = false) : trim t = t := by
  by_cases hn : t = []
  · rw [hn]
    rfl
  · have h := trim_append hn hs he []
    rw [List.append_nil] at h
    exact h.trans (List.append_nil t)

theorem trim_of_not_blank (h : ∀ c ∈ t, isBlank c = false) : trim t = t :=
  trim_of_ends (fun c hc => h c (List.mem_of_mem_head? hc))
    fun c hc => h c (List.mem_of_getLast? hc)

theorem firstWord_append (hn : word ≠ []) (hw : ∀ c ∈ word, isBlank c = false)
    (rest : Text) : firstWord (word ++ rest) = word ++ before isBlank rest := by
  obtain ⟨c, t, rfl⟩ := List.exists_cons_of_ne_nil hn
  have hs : trimStart (c :: t ++ rest) = c :: t ++ rest := dropWhile_of_head? fun d hd => by
    cases hd
    exact hw c List.mem_cons_self
  rw [firstWord, hs, before_append_of_not hw]

theorem firstWord_of_not_blank (hn : word ≠ []) (hw : ∀ c ∈ word, isBlank c = false) :
    firstWord word = word := by
  have h := firstWord_append hn hw []
  rw [List.append_nil] at h
  exact h.trans (List.append_nil word)

theorem firstWord_blank_append {gap : Text} (hg : ∀ c ∈ gap, isBlank c = true) (t : Text) :
    firstWord (gap ++ t) = firstWord t := by
  rw [firstWord, trimStart, List.dropWhile_append_of_pos hg]
  rfl

/-- The text starts with the word, and the word goes on to the first blank or to the end. -/
structure IsFirstWord (word t : Text) : Prop where
  ne_nil : word ≠ []
  not_blank : ∀ c ∈ word, isBlank c = false
  ends : ∃ rest, t = word ++ rest ∧ ∀ c ∈ rest.head?, isBlank c = true

theorem isFirstWord_firstWord (hn : t ≠ []) (hs : ∀ c ∈ t.head?, isBlank c = false) :
    IsFirstWord (firstWord t) t := by
  obtain ⟨c, t, rfl⟩ := List.exists_cons_of_ne_nil hn
  have hc : ∀ d ∈ ([c] : Text), isBlank d = false := List.forall_mem_singleton.2 (hs c rfl)
  have hword := firstWord_append (List.cons_ne_nil c []) hc t
  obtain ⟨hbefore, rest, ht, hrest⟩ := before_cuts isBlank t
  rw [List.singleton_append] at hword
  rw [hword]
  refine ⟨List.cons_ne_nil _ _, ?_, rest, congrArg (c :: ·) ht, hrest⟩
  rw [List.forall_mem_append]
  exact ⟨hc, hbefore⟩

end QueryDescriptor.Text
