import QueryDescriptor.Proofs.Text.Parts
import QueryDescriptor.Text.LetterCase
import QueryDescriptor.Text.Occurrence

namespace QueryDescriptor

/-- The character is kept, or only the case of an ASCII letter is changed. -/
def Recased (c d : Char) : Prop := d = c ∨ d = c.toUpper ∨ d = c.toLower

instance : DecidableRel Recased := fun _ _ => instDecidableOr

theorem toLower_cased : ∀ n < 128, (Char.ofNat n).toUpper.toLower = (Char.ofNat n).toLower ∧
    (Char.ofNat n).toLower.toLower = (Char.ofNat n).toLower ∧
    (Char.ofNat n).toUpper.toNat < 128 ∧ (Char.ofNat n).toLower.toNat < 128 := by
  decide

theorem toUpper_of_not_ascii {c : Char} (h : ¬ c.toNat < 128) : c.toUpper = c := by
  apply dif_neg
  rintro ⟨_, hz⟩
  have hle : c.toNat ≤ 'z'.toNat := hz
  exact h (Nat.lt_of_le_of_lt hle (by decide))

theorem toLower_of_not_ascii {c : Char} (h : ¬ c.toNat < 128) : c.toLower = c := by
  apply dif_neg
  rintro ⟨_, hz⟩
  have hle : c.toNat ≤ 'Z'.toNat := hz
  exact h (Nat.lt_of_le_of_lt hle (by decide))

theorem lower_of_recased {c d : Char} (h : Recased c d) : lower d = lower c := by
  by_cases hc : c.toNat < 128
  · have ht := toLower_cased c.toNat hc
    rw [Char.ofNat_toNat] at ht
    obtain ⟨hu, hl, hun, hln⟩ := ht
    rcases h with rfl | rfl | rfl
    · rfl
    · rw [lower_of_lt hc, lower_of_lt hun, hu]
    · rw [lower_of_lt hc, lower_of_lt hln, hl]
  · rcases h with rfl | rfl | rfl
    · rfl
    · rw [toUpper_of_not_ascii hc]
    · rw [toLower_of_not_ascii hc]

namespace Text

variable {p s t : Text} {c d : Char}

theorem toLower_append (s t : Text) : toLower (s ++ t) = toLower s ++ toLower t :=
  List.flatMap_append

theorem toLower_cons (c : Char) (t : Text) : toLower (c :: t) = lower c ++ toLower t :=
  List.flatMap_cons

theorem toLower_of_recased (h : List.Forall₂ Recased s t) : toLower t = toLower s := by
  induction h with
  | nil => rfl
  | cons hc _ ih => rw [toLower_cons, toLower_cons, lower_of_recased hc, ih]

theorem toLower_upperFirst (h : ∀ c ∈ t, c.toNat < 128) : toLower (upperFirst t) = toLower t := by
  cases t with
  | nil => rfl
  | cons c t =>
    rw [upperFirst, upper_of_lt (h c List.mem_cons_self), List.singleton_append, toLower_cons,
      toLower_cons, lower_of_recased (.inr (.inl rfl))]

theorem prefix_append_cons_iff (hc : c ∉ p) : p <+: s ++ c :: t ↔ p <+: s := by
  constructor
  · intro h
    have hs : s ++ [c] <+: s ++ c :: t := ⟨t, by rw [List.append_assoc]; rfl⟩
    rcases List.prefix_or_prefix_of_prefix h hs with hp | hp
    · rcases List.prefix_concat_iff.1 hp with rfl | hp
      · exact absurd (List.mem_append_right s List.mem_cons_self) hc
      · exact hp
    · exact absurd (hp.sublist.mem (List.mem_append_right s List.mem_cons_self)) hc
  · exact fun h => h.trans (List.prefix_append s _)

theorem occurrencesFrom_append_cons (hp : p ≠ []) (hc : c ∉ p) {covered : Nat}
    (hk : covered ≤ s.length) (t : Text) :
    occurrencesFrom p covered (s ++ c :: t) = occurrencesFrom p covered s + occurrences p t := by
  induction s generalizing covered with
  | nil =>
    have hn : ¬ p.isPrefixOf (c :: t) := by
      rw [List.isPrefixOf_iff_prefix]
      intro h
      exact hp (List.prefix_nil.1 ((prefix_append_cons_iff (s := []) hc).1 h))
    have hskip : occurrencesFrom p 0 (c :: t) = occurrences p t := if_neg hn
    rw [Nat.le_zero.1 hk, List.nil_append, hskip]
    exact (Nat.zero_add _).symm
  | cons d s ih =>
    rw [List.length_cons] at hk
    cases covered with
    | succ covered =>
      rw [List.cons_append, occurrencesFrom, occurrencesFrom, ih (by omega)]
    | zero =>
      have hiff : p.isPrefixOf (d :: (s ++ c :: t)) = p.isPrefixOf (d :: s) := by
        rw [Bool.eq_iff_iff, List.isPrefixOf_iff_prefix, List.isPrefixOf_iff_prefix,
          ← List.cons_append, prefix_append_cons_iff hc]
      rw [List.cons_append, occurrencesFrom, occurrencesFrom, hiff]
      split
      · next h =>
        have hlen := (List.isPrefixOf_iff_prefix.1 h).length_le
        rw [List.length_cons] at hlen
        rw [ih (by omega)]
        omega
      · exact ih (Nat.zero_le _)

/-- How often a text mentions a word that is in lower case. -/
def mentions (p t : Text) : Nat := occurrences p (toLower t)

theorem mentions_append_cons (hp : p ≠ []) (hc : c ∉ p) (hl : lower c = [c]) (s t : Text) :
    mentions p (s ++ c :: t) = mentions p s + mentions p t := by
  rw [mentions, toLower_append, toLower_cons, hl]
  exact occurrencesFrom_append_cons hp hc (Nat.zero_le _) (toLower t)

theorem mentions_join (hp : p ≠ []) (hc : c ∉ p) (hd : d ∉ p) (hl : lower c = [c])
    (hm : lower d = [d]) {ss ts : List Text}
    (h : List.Forall₂ (fun s t => mentions p s = mentions p t) ss ts) :
    mentions p (join [c] ss) = mentions p (join [d] ts) := by
  induction h with
  | nil => rfl
  | cons hst h ih =>
    cases h with
    | nil => exact hst
    | cons _ _ =>
      rw [join_cons_cons, join_cons_cons, List.append_assoc, List.append_assoc,
        List.singleton_append, List.singleton_append, mentions_append_cons hp hc hl,
        mentions_append_cons hp hd hm, hst, ih]

end Text
end QueryDescriptor
