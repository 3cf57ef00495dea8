import Mathlib.Data.List.Forall2
import QueryDescriptor.Proofs.Accessor.Words

namespace QueryDescriptor.Accessor

open Selection (separator dotted)

variable {compounds words : List Text} {word : Text}

/-- The first compound name that starts with the word is longer. -/
def Joined (compounds : List Text) (word : Text) : Prop :=
  ∃ above first below, compounds = above ++ first :: below ∧ (∀ c ∈ above, ¬ word <+: c) ∧
    word <+: first ∧ word.length < first.length

theorem staysJoined_iff_joined : staysJoined compounds word ↔ Joined compounds word := by
  rw [staysJoined]
  constructor
  · intro h
    split at h
    · next first hf =>
      obtain ⟨hp, above, below, he, habove⟩ := List.find?_eq_some_iff_append.1 hf
      refine ⟨above, first, below, he, ?_, List.isPrefixOf_iff_prefix.1 hp, of_decide_eq_true h⟩
      intro c hc hpre
      have hn := habove c hc
      rw [List.isPrefixOf_iff_prefix.2 hpre] at hn
      cases hn
    · cases h
  · rintro ⟨above, first, below, rfl, habove, hp, hl⟩
    have hnone : above.find? (word.isPrefixOf ·) = none := by
      rw [List.find?_eq_none]
      intro c hc hpre
      exact habove c hc (List.isPrefixOf_iff_prefix.1 hpre)
    rw [List.find?_append, hnone, Option.none_or,
      List.find?_cons_of_pos (List.isPrefixOf_iff_prefix.2 hp)]
    exact decide_eq_true hl

/-- Words that are put together at once where they can be: at each separator inside a word the part
before it is joined to what follows, and no word is joined to the next. -/
structure Greedy (compounds words : List Text) : Prop where
  ne_nil : words ≠ []
  apart : ∀ word ∈ words.dropLast, ¬ Joined compounds word
  together : ∀ word ∈ words, ∀ part, part ++ [separator] <+: word → Joined compounds part

theorem greedy_wordsFrom (h : ∀ part, part ++ [separator] <+: word → Joined compounds part)
    (t : Text) : Greedy compounds (wordsFrom compounds word t) := by
  induction t generalizing word with
  | nil =>
    refine ⟨List.cons_ne_nil _ _, List.forall_mem_nil _, ?_⟩
    rw [wordsFrom, List.forall_mem_singleton]
    exact h
  | cons c t ih =>
    rw [wordsFrom]
    split
    · next hc =>
      have hnil : ∀ part, part ++ [separator] <+: ([] : Text) → Joined compounds part := by
        intro part hp
        exact absurd (List.prefix_nil.1 hp) (List.concat_ne_nil separator part)
      obtain ⟨hne, hapart, htogether⟩ := ih hnil
      refine ⟨List.cons_ne_nil _ _, ?_, ?_⟩
      · rw [List.dropLast_cons_of_ne_nil hne, List.forall_mem_cons]
        exact ⟨fun hj => hc.2 (staysJoined_iff_joined.2 hj), hapart⟩
      · rw [List.forall_mem_cons]
        exact ⟨h, htogether⟩
    · next hc =>
      apply ih
      intro part hp
      rcases List.prefix_concat_iff.1 hp with he | hp
      · -- The separator is the character that was read, so the part is the word so far.
        obtain ⟨rfl, hs⟩ := List.append_inj' he rfl
        rw [← staysJoined_iff_joined]
        by_contra hj
        exact hc ⟨(List.head_eq_of_cons_eq hs).symm, hj⟩
      · exact h part hp

/-- The second text is the first with its first character in upper case. -/
inductive Capitalised : Text → Text → Prop where
  | nil : Capitalised [] []
  | ascii {c : Char} {rest : Text} : c.toNat < 128 → Capitalised (c :: rest) (c.toUpper :: rest)
  | other {c : Char} {rest : Text} : 128 ≤ c.toNat → Capitalised (c :: rest) (upper c ++ rest)

theorem capitalised_upperFirst (word : Text) : Capitalised word (Text.upperFirst word) := by
  cases word with
  | nil => exact .nil
  | cons c rest =>
    rw [Text.upperFirst]
    by_cases hc : c.toNat < 128
    · rw [upper_of_lt hc, List.singleton_append]
      exact .ascii hc
    · exact .other (Nat.le_of_not_lt hc)

/-- For every dotted name and all compound names there is just one greedy list of words that make
the name, and the segments of the name are these words with their first characters in upper case. -/
theorem segmentsOf_greedy (compounds : List Text) (dottedName : Text) :
    ∃ words, (Greedy compounds words ∧ dotted words = dottedName) ∧
      (∀ others, Greedy compounds others → dotted others = dottedName → others = words) ∧
      List.Forall₂ Capitalised words (segmentsOf compounds dottedName) := by
  refine ⟨wordsOf compounds dottedName, ⟨?_, dotted_wordsOf dottedName⟩, ?_, ?_⟩
  · rw [wordsOf_eq]
    apply greedy_wordsFrom
    intro part hp
    exact absurd (List.prefix_nil.1 hp) (List.concat_ne_nil separator part)
  · rintro others ⟨hne, hapart, htogether⟩ rfl
    symm
    apply wordsOf_dotted_of_cut hne
    · exact fun word hw hj => hapart word hw (staysJoined_iff_joined.1 hj)
    · exact fun word hw part hp => staysJoined_iff_joined.2 (htogether word hw part hp)
  · rw [segmentsOf, List.forall₂_map_right_iff, List.forall₂_same]
    exact fun word _ => capitalised_upperFirst word

def addressCompounds : List Text := ["node_id", "primary_address", "primary"]

def addressName : Text := "edges_primary_address_ßa_node_id__x"

theorem segmentsOf_greedy_address :
    segmentsOf addressCompounds addressName =
        ["Edges", "Primary_address", "SSa", "Node_id", "_x"] ∧
      ∃ words, Greedy addressCompounds words ∧ dotted words = addressName ∧
        List.Forall₂ Capitalised words ["Edges", "Primary_address", "SSa", "Node_id", "_x"] := by
  have hsegments : segmentsOf addressCompounds addressName =
      ["Edges", "Primary_address", "SSa", "Node_id", "_x"] := by decide
  obtain ⟨words, ⟨hgreedy, hdotted⟩, _, hcapitalised⟩ :=
    segmentsOf_greedy addressCompounds addressName
  rw [hsegments] at hcapitalised
  exact ⟨hsegments, words, hgreedy, hdotted, hcapitalised⟩

/-- The empty word starts every compound name, so that with a compound name a separator at the start
or after another one begins the next word. -/
example : wordsOf [] "_a__b_" = ([[], "a", [], "b", []] : List Text) ∧
    wordsOf ["x_y"] "_a__b_" = (["_a", "_b", []] : List Text) := by decide

end QueryDescriptor.Accessor
