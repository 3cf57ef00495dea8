import Mathlib.Tactic.ByContra
import QueryDescriptor.Accessor.Segment
import QueryDescriptor.Proofs.Selection.Dotted
import QueryDescriptor.Proofs.Text.Parts

namespace QueryDescriptor.Accessor

open Selection (separator dotted stemOf)

variable {compounds : List Text} {word name : Text}

/-- The words of a text, of the first of which `word` has been gathered before. -/
def wordsFrom (compounds : List Text) (word : Text) : Text → List Text
  | [] => [word]
  | c :: t =>
    if c = separator ∧ ¬ staysJoined compounds word then word :: wordsFrom compounds [] t
    else wordsFrom compounds (word ++ [c]) t

/-- What has been gathered of the last word at the end of a text. -/
def pending (compounds : List Text) (word : Text) : Text → Text
  | [] => word
  | c :: t =>
    if c = separator ∧ ¬ staysJoined compounds word then pending compounds [] t
    else pending compounds (word ++ [c]) t

theorem gather_split (word t : Text) {piece : Text} {pieces : List Text}
    (h : Text.split separator t = piece :: pieces) :
    gather compounds (word ++ piece) pieces = wordsFrom compounds word t := by
  induction t generalizing word piece pieces with
  | nil =>
    cases h
    rw [List.append_nil]
    rfl
  | cons c t ih =>
    obtain ⟨next, rest, hs⟩ := List.exists_cons_of_ne_nil (Text.split_ne_nil separator t)
    rw [Text.split, hs] at h
    rw [wordsFrom]
    by_cases hc : c = separator
    · rw [if_pos hc] at h
      cases h
      rw [List.append_nil, gather]
      by_cases hj : staysJoined compounds word
      · rw [if_pos hj, if_neg (fun hn => hn.2 hj), ← ih _ hs, List.append_assoc, hc]
        rfl
      · rw [if_neg hj, if_pos ⟨hc, hj⟩, ← ih _ hs]
        rfl
    · rw [if_neg hc] at h
      cases h
      rw [if_neg (fun hn => hc hn.1), ← ih _ hs, List.append_assoc]
      rfl

theorem wordsOf_eq (t : Text) : wordsOf compounds t = wordsFrom compounds [] t := by
  obtain ⟨piece, pieces, hs⟩ := List.exists_cons_of_ne_nil (Text.split_ne_nil separator t)
  rw [wordsOf, hs, ← gather_split [] t hs]
  rfl

theorem wordsFrom_ne_nil (word t : Text) : wordsFrom compounds word t ≠ [] := by
  induction t generalizing word with
  | nil => exact List.cons_ne_nil _ _
  | cons c t ih =>
    rw [wordsFrom]
    split
    · exact List.cons_ne_nil _ _
    · exact ih _

theorem dotted_wordsFrom (word t : Text) : dotted (wordsFrom compounds word t) = word ++ t := by
  induction t generalizing word with
  | nil => exact (List.append_nil word).symm
  | cons c t ih =>
    rw [wordsFrom]
    split
    · next h =>
      rw [Selection.dotted_cons (wordsFrom_ne_nil [] t), ih, h.1]
      rfl
    · rw [ih, List.append_assoc]
      rfl

theorem dotted_wordsOf (t : Text) : dotted (wordsOf compounds t) = t := by
  rw [wordsOf_eq, dotted_wordsFrom]
  rfl

theorem mem_of_mem_wordsOf {t : Text} {c : Char} (hw : word ∈ wordsOf compounds t)
    (hc : c ∈ word) : c ∈ t := by
  have hm : c ∈ dotted (wordsOf compounds t) := Text.mem_join hw hc
  rw [dotted_wordsOf] at hm
  exact hm

theorem exists_wordsFrom_append (compounds : List Text) (word first : Text) :
    ∃ closed, word ++ first = stemOf closed ++ pending compounds word first ∧
      ∀ t, wordsFrom compounds word (first ++ t) =
        closed ++ wordsFrom compounds (pending compounds word first) t := by
  induction first generalizing word with
  | nil => exact ⟨[], List.append_nil word, fun t => rfl⟩
  | cons c first ih =>
    by_cases h : c = separator ∧ ¬ staysJoined compounds word
    · obtain ⟨closed, he, hw⟩ := ih []
      refine ⟨word :: closed, ?_, ?_⟩
      · rw [pending, if_pos h, Selection.stemOf_cons, List.append_assoc, List.cons_append, ← he, h.1]
        rfl
      · intro t
        rw [List.cons_append, wordsFrom, if_pos h, hw, pending, if_pos h]
        rfl
    · obtain ⟨closed, he, hw⟩ := ih (word ++ [c])
      refine ⟨closed, ?_, ?_⟩
      · rw [pending, if_neg h, ← he, List.append_assoc]
        rfl
      · intro t
        rw [List.cons_append, wordsFrom, if_neg h, hw, pending, if_neg h]

theorem wordsFrom_of_joined
    (h : ∀ part, part ++ [separator] <+: name → staysJoined compounds (word ++ part)) (t : Text) :
    wordsFrom compounds word (name ++ t) = wordsFrom compounds (word ++ name) t := by
  induction name generalizing word with
  | nil => rw [List.append_nil, List.nil_append]
  | cons c name ih =>
    have hn : ¬ (c = separator ∧ ¬ staysJoined compounds word) := by
      rintro ⟨rfl, hj⟩
      apply hj
      have hp := h [] (List.cons_prefix_cons.2 ⟨rfl, List.nil_prefix⟩)
      rw [List.append_nil] at hp
      exact hp
    rw [List.cons_append, wordsFrom, if_neg hn, ih, List.append_assoc]
    · rfl
    · intro part hp
      rw [List.append_assoc]
      exact h (c :: part) (List.cons_prefix_cons.2 ⟨rfl, hp⟩)

theorem exists_wordsFrom_of_not_joined
    (h : ¬ ∀ part, part ++ [separator] <+: name → staysJoined compounds (word ++ part)) :
    ∃ part, part ++ [separator] <+: name ∧ ∀ t, ∃ back,
      wordsFrom compounds word (name ++ t) = (word ++ part) :: back := by
  induction name generalizing word with
  | nil =>
    refine absurd ?_ h
    intro part hp
    have hl := hp.length_le
    rw [List.length_append] at hl
    cases hl
  | cons c name ih =>
    by_cases hc : c = separator ∧ ¬ staysJoined compounds word
    · refine ⟨[], List.cons_prefix_cons.2 ⟨hc.1.symm, List.nil_prefix⟩, ?_⟩
      intro t
      rw [List.append_nil, List.cons_append, wordsFrom, if_pos hc]
      exact ⟨_, rfl⟩
    · have hn : ¬ ∀ part, part ++ [separator] <+: name →
          staysJoined compounds (word ++ [c] ++ part) := by
        intro hj
        apply h
        intro part hp
        cases part with
        | nil =>
          obtain ⟨he, _⟩ := List.cons_prefix_cons.1 hp
          rw [List.append_nil]
          by_contra hw
          exact hc ⟨he.symm, hw⟩
        | cons d part =>
          obtain ⟨rfl, hpart⟩ := List.cons_prefix_cons.1 hp
          have hw := hj part hpart
          rw [List.append_assoc] at hw
          exact hw
      obtain ⟨part, hp, hw⟩ := ih hn
      refine ⟨c :: part, List.cons_prefix_cons.2 ⟨rfl, hp⟩, ?_⟩
      intro t
      obtain ⟨back, hb⟩ := hw t
      rw [List.cons_append, wordsFrom, if_neg hc, hb, List.append_assoc]
      exact ⟨back, rfl⟩

theorem exists_wordsFrom_cons (compounds : List Text) (word t : Text) :
    ∃ more back, wordsFrom compounds word t = (word ++ more) :: back := by
  induction t generalizing word with
  | nil => exact ⟨[], [], by rw [List.append_nil]; rfl⟩
  | cons c t ih =>
    rw [wordsFrom]
    split
    · exact ⟨[], _, by rw [List.append_nil]⟩
    · obtain ⟨more, back, he⟩ := ih (word ++ [c])
      refine ⟨c :: more, back, ?_⟩
      rw [he, List.append_assoc]
      rfl

/-- The name that follows `before` on a path lies inside one of the words of the path. -/
def LiesInWord (words before : List Text) (name : Text) : Prop :=
  ∃ front word back left right, words = front ++ word :: back ∧
    word = left ++ name ++ right ∧ stemOf before = stemOf front ++ left

theorem place_unique {front closed back rest : List Text} {word other left pend : Text}
    (h : closed ++ other :: rest = front ++ word :: back)
    (hs : stemOf closed ++ pend = stemOf front ++ left) (ho : pend <+: other)
    (hw : left <+: word) : other = word ∧ pend = left := by
  induction closed generalizing front with
  | nil =>
    cases front with
    | nil => exact ⟨(List.cons_eq_cons.1 h).1, hs⟩
    | cons first front =>
      obtain ⟨rfl, _⟩ := List.cons_eq_cons.1 h
      have hl := congrArg List.length hs
      have hle := ho.length_le
      rw [Selection.stemOf_cons, Selection.stemOf_nil] at hl
      simp only [List.length_append, List.length_cons, List.length_nil] at hl
      omega
  | cons first closed ih =>
    cases front with
    | nil =>
      obtain ⟨rfl, _⟩ := List.cons_eq_cons.1 h
      have hl := congrArg List.length hs
      have hle := hw.length_le
      rw [Selection.stemOf_cons, Selection.stemOf_nil] at hl
      simp only [List.length_append, List.length_cons, List.length_nil] at hl
      omega
    | cons next front =>
      obtain ⟨rfl, ht⟩ := List.cons_eq_cons.1 h
      rw [Selection.stemOf_cons, Selection.stemOf_cons, List.append_assoc, List.append_assoc] at hs
      exact ih ht (List.cons_eq_cons.1 (List.append_cancel_left hs)).2

theorem exists_dotted_eq (before after : List Text) (name : Text) :
    ∃ rest, dotted (before ++ name :: after) = stemOf before ++ (name ++ rest) := by
  rw [← Selection.stemOf_append_dotted (List.cons_ne_nil name after)]
  cases after with
  | nil => exact ⟨[], by rw [List.append_nil]; rfl⟩
  | cons next after =>
    rw [Selection.dotted_cons (List.cons_ne_nil next after)]
    exact ⟨_, rfl⟩

/-- A name of a path lies inside one word exactly if what is pending at each of its separators
stays joined. -/
theorem liesInWord_iff (before after : List Text) (name : Text) :
    LiesInWord (wordsOf compounds (dotted (before ++ name :: after))) before name ↔
      ∀ part, part ++ [separator] <+: name →
        staysJoined compounds (pending compounds [] (stemOf before) ++ part) := by
  obtain ⟨rest, he⟩ := exists_dotted_eq before after name
  obtain ⟨closed, hs, hw⟩ := exists_wordsFrom_append compounds [] (stemOf before)
  rw [he, wordsOf_eq, hw]
  constructor
  · rintro ⟨front, word, back, left, right, hf, rfl, hl⟩
    by_contra hj
    obtain ⟨part, hp, hb⟩ := exists_wordsFrom_of_not_joined hj
    obtain ⟨tail, ht⟩ := hb rest
    rw [ht] at hf
    have hstem := hs.symm.trans hl
    obtain ⟨heq, hleft⟩ := place_unique hf hstem (List.prefix_append _ _)
      ((List.prefix_append left name).trans (List.prefix_append _ _))
    rw [hleft, List.append_assoc] at heq
    have hlen := hp.length_le
    rw [List.append_cancel_left heq, List.length_append, List.length_append] at hlen
    exact Nat.not_lt.2 hlen (by simp only [List.length_singleton]; omega)
  · intro hj
    obtain ⟨more, back, hb⟩ := exists_wordsFrom_cons compounds
      (pending compounds [] (stemOf before) ++ name) rest
    rw [wordsFrom_of_joined hj, hb]
    exact ⟨closed, _, back, _, more, rfl, rfl, hs⟩

theorem staysJoined_iff {part : Text} (hn : name ∈ compounds) (hp : part <+: name) :
    staysJoined compounds part ↔ compounds.find? (part.isPrefixOf ·) ≠ some part := by
  rw [staysJoined]
  cases hf : compounds.find? (part.isPrefixOf ·) with
  | none =>
    have hno := List.find?_eq_none.1 hf name hn
    exact absurd (List.isPrefixOf_iff_prefix.2 hp) hno
  | some first =>
    have hpre := List.isPrefixOf_iff_prefix.1 (List.find?_some hf)
    rw [decide_eq_true_eq]
    constructor
    · intro hl he
      rw [Option.some.inj he] at hl
      exact Nat.lt_irrefl _ hl
    · intro hne
      apply Nat.lt_of_le_of_ne hpre.length_le
      intro hl
      exact hne (congrArg some (hpre.eq_of_length hl).symm)

theorem not_staysJoined (h : ∀ c ∈ compounds, name <+: c → name = c) :
    ¬ staysJoined compounds name := by
  rw [staysJoined]
  cases hf : compounds.find? (name.isPrefixOf ·) with
  | none => exact Bool.false_ne_true
  | some first =>
    have hpre := List.isPrefixOf_iff_prefix.1 (List.find?_some hf)
    have he := h first (List.mem_of_find?_eq_some hf) hpre
    rw [decide_eq_true_eq, he]
    exact Nat.lt_irrefl _

theorem staysJoined_of_antichain (hn : name ∈ compounds)
    (h : ∀ c ∈ compounds, c <+: name → c = name) {part : Text}
    (hp : part ++ [separator] <+: name) : staysJoined compounds part := by
  have hpre := (List.prefix_append part [separator]).trans hp
  apply (staysJoined_iff hn hpre).2
  intro hf
  have he := h part (List.mem_of_find?_eq_some hf) hpre
  have hlen := hp.length_le
  rw [he, List.length_append] at hlen
  exact Nat.not_succ_le_self _ hlen

/-- Among compound names of which none starts another, their order does not matter: a word stays
joined if one of them goes on from it. -/
theorem staysJoined_iff_exists (h : ∀ a ∈ compounds, ∀ b ∈ compounds, a <+: b → a = b) :
    staysJoined compounds word ↔ ∃ c ∈ compounds, word <+: c ∧ word ≠ c := by
  rw [staysJoined]
  cases hf : compounds.find? (word.isPrefixOf ·) with
  | none =>
    refine ⟨fun hj => absurd hj Bool.false_ne_true, ?_⟩
    rintro ⟨c, hc, hp, _⟩
    exact absurd (List.isPrefixOf_iff_prefix.2 hp) (List.find?_eq_none.1 hf c hc)
  | some first =>
    have hmem := List.mem_of_find?_eq_some hf
    have hpre := List.isPrefixOf_iff_prefix.1 (List.find?_some hf)
    rw [decide_eq_true_eq]
    constructor
    · intro hl
      refine ⟨first, hmem, hpre, ?_⟩
      rintro rfl
      exact Nat.lt_irrefl _ hl
    · rintro ⟨c, hc, hp, hne⟩
      apply Nat.lt_of_le_of_ne hpre.length_le
      intro hl
      have he := hpre.eq_of_length hl
      exact hne (he.trans (h first hmem c hc (he ▸ hp)))

theorem gather_congr {others : List Text}
    (h : ∀ word, staysJoined compounds word ↔ staysJoined others word) (word : Text)
    (pieces : List Text) : gather compounds word pieces = gather others word pieces := by
  induction pieces generalizing word with
  | nil => rfl
  | cons piece pieces ih => simp only [gather, h word, ih]

theorem segmentsOf_congr {others : List Text}
    (h : ∀ a ∈ compounds, ∀ b ∈ compounds, a <+: b → a = b)
    (hm : ∀ name, name ∈ compounds ↔ name ∈ others) (dottedName : Text) :
    segmentsOf compounds dottedName = segmentsOf others dottedName := by
  have ho : ∀ a ∈ others, ∀ b ∈ others, a <+: b → a = b :=
    fun a ha b hb => h a ((hm a).2 ha) b ((hm b).2 hb)
  have hj (word : Text) : staysJoined compounds word ↔ staysJoined others word := by
    rw [staysJoined_iff_exists h, staysJoined_iff_exists ho]
    simp only [hm]
  rw [segmentsOf, segmentsOf, wordsOf, wordsOf]
  cases Text.split separator dottedName with
  | nil => rfl
  | cons piece pieces =>
    dsimp only
    rw [gather_congr hj]

theorem wordsOf_dotted_of_cut {words : List Text} (hne : words ≠ [])
    (hcut : ∀ word ∈ words.dropLast, ¬ staysJoined compounds word)
    (hkept : ∀ word ∈ words, ∀ part, part ++ [separator] <+: word → staysJoined compounds part) :
    wordsOf compounds (dotted words) = words := by
  rw [wordsOf_eq]
  induction words with
  | nil => exact absurd rfl hne
  | cons word rest ih =>
    have hj : ∀ part, part ++ [separator] <+: word → staysJoined compounds ([] ++ part) :=
      hkept word List.mem_cons_self
    cases rest with
    | nil =>
      have hw := wordsFrom_of_joined hj []
      rw [List.append_nil] at hw
      exact hw
    | cons next rest =>
      have hd : (word :: next :: rest).dropLast = word :: (next :: rest).dropLast := rfl
      rw [hd] at hcut
      have hstop := hcut word List.mem_cons_self
      rw [Selection.dotted_cons (List.cons_ne_nil next rest), wordsFrom_of_joined hj,
        List.nil_append, wordsFrom, if_pos ⟨rfl, hstop⟩, ih (List.cons_ne_nil next rest)]
      · exact fun w hw => hcut w (List.mem_cons_of_mem word hw)
      · exact fun w hw => hkept w (List.mem_cons_of_mem word hw)

theorem wordsOf_dotted {path : List Text} (hne : path ≠ [])
    (hset : ∀ name ∈ path.dropLast, ∀ c ∈ compounds, name <+: c → name = c)
    (hmem : ∀ name ∈ path, separator ∈ name → name ∈ compounds)
    (hcompound : ∀ name ∈ path, separator ∈ name → ∀ c ∈ compounds, c <+: name → c = name) :
    wordsOf compounds (dotted path) = path := by
  apply wordsOf_dotted_of_cut hne
  · intro name hn
    exact not_staysJoined (hset name hn)
  · intro name hn part hp
    have hs := hp.sublist.mem (List.mem_append_right part List.mem_cons_self)
    exact staysJoined_of_antichain (hmem name hn hs) (hcompound name hn hs) hp

theorem liesInWord_of_path (before after : List Text) (name : Text) :
    LiesInWord (before ++ name :: after) before name :=
  ⟨before, name, after, [], [], rfl, (List.append_nil name).symm, (List.append_nil _).symm⟩

end QueryDescriptor.Accessor
