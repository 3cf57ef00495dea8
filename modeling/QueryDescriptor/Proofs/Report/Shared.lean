import QueryDescriptor.Proofs.Report.Files

namespace QueryDescriptor.Report

variable {k : Nat} {names front found : List Text} {name a b : Text}

/-- When `a` is met and has been met `k` times before, `b` has been met at most `k` times. -/
def MetBefore (k : Nat) (names : List Text) (a b : Text) : Prop :=
  ∃ front rest, names = front ++ a :: rest ∧ front.count a = k ∧ front.count b ≤ k

theorem MetBefore.append (h : MetBefore k names a b) (more : List Text) :
    MetBefore k (names ++ more) a b := by
  obtain ⟨front, rest, rfl, ha, hb⟩ := h
  exact ⟨front, rest ++ more, List.append_assoc _ _ _, ha, hb⟩

theorem MetBefore.asymm (h : MetBefore k names a b) (hb : MetBefore k names b a) : a = b := by
  obtain ⟨front, rest, rfl, ha, hle⟩ := h
  obtain ⟨other, more, he, hcount, hother⟩ := hb
  -- The two places are one, or the name at the first of them is met too often before the other.
  rcases List.append_eq_append_iff.1 he with ⟨mid, rfl, hm⟩ | ⟨mid, rfl, hm⟩
  · cases mid with
    | nil => exact (List.cons.inj hm).1
    | cons c mid =>
      obtain ⟨rfl, _⟩ := List.cons.inj hm
      rw [List.count_append, List.count_cons_self] at hother
      omega
  · cases mid with
    | nil => exact (List.cons.inj hm).1.symm
    | cons c mid =>
      obtain ⟨rfl, _⟩ := List.cons.inj hm
      rw [List.count_append, List.count_cons_self] at hle
      omega

theorem exists_met (h : k < names.count a) :
    ∃ front rest, names = front ++ a :: rest ∧ front.count a = k := by
  induction names generalizing k with
  | nil => cases h
  | cons c names ih =>
    by_cases hc : c = a
    · subst c
      cases k with
      | zero => exact ⟨[], names, rfl, rfl⟩
      | succ k =>
        rw [List.count_cons_self] at h
        obtain ⟨front, rest, rfl, hk⟩ := ih (Nat.lt_of_succ_lt_succ h)
        exact ⟨a :: front, rest, rfl, by rw [List.count_cons_self, hk]⟩
    · rw [List.count_cons_of_ne hc] at h
      obtain ⟨front, rest, rfl, hk⟩ := ih h
      exact ⟨c :: front, rest, rfl, by rw [List.count_cons_of_ne hc, hk]⟩

/-- The names that are met more than once are listed, each once, in the order in which each is met
when it has been met `k` times before. -/
structure Lists (k : Nat) (names listed : List Text) : Prop where
  nodup : listed.Nodup
  mem_iff : ∀ name, name ∈ listed ↔ 2 ≤ names.count name
  ordered : listed.Pairwise (MetBefore k names)

theorem Lists.nil : Lists k [] [] := by
  constructor
  · exact List.nodup_nil
  · intro name
    rw [List.count_nil]
    exact iff_of_false List.not_mem_nil (Nat.not_succ_le_zero 1)
  · exact List.Pairwise.nil

theorem Lists.pass (h : Lists k front found) (hn : ¬ (name ∈ front ∧ name ∉ found)) :
    Lists k (front ++ [name]) found := by
  constructor
  · exact h.nodup
  · intro other
    rw [h.mem_iff, List.count_append]
    by_cases ho : name = other
    · subst other
      rw [List.count_singleton_self]
      rw [h.mem_iff, ← List.count_pos_iff] at hn
      omega
    · rw [List.count_singleton, beq_false_of_ne ho]
      rfl
  · exact h.ordered.imp fun hab => hab.append [name]

theorem Lists.again (h : Lists 1 front found) (hm : name ∈ front) (hn : name ∉ found) :
    Lists 1 (front ++ [name]) (found ++ [name]) := by
  have hone : front.count name = 1 := by
    rw [h.mem_iff] at hn
    rw [← List.count_pos_iff] at hm
    omega
  constructor
  · rw [← List.concat_eq_append]
    exact h.nodup.concat hn
  · intro other
    rw [List.mem_append, List.mem_singleton, h.mem_iff, List.count_append]
    by_cases ho : name = other
    · subst other
      rw [hone, List.count_singleton_self]
      simp only [or_true, Nat.le_refl]
    · rw [List.count_singleton, beq_false_of_ne ho]
      simp only [Ne.symm ho, or_false, Bool.false_eq_true, ↓reduceIte, Nat.add_zero]
  · rw [List.pairwise_append]
    constructor
    · exact h.ordered.imp fun hab => hab.append [name]
    · apply And.intro (List.pairwise_singleton _ _)
      intro a ha b hb
      rw [List.mem_singleton.1 hb]
      obtain ⟨above, rest, rfl, hcount⟩ := exists_met (Nat.lt_of_succ_le ((h.mem_iff a).1 ha))
      have hle : above.count name ≤ 1 := by
        rw [List.count_append] at hone
        omega
      exact ⟨above, rest ++ [name], List.append_assoc _ _ _, hcount, hle⟩

theorem Lists.run (h : Lists 1 front found) (names : List Text) :
    Lists 1 (front ++ names) (repeatsFrom front.reverse found names) := by
  induction names generalizing front found with
  | nil =>
    rw [List.append_nil]
    exact h
  | cons name names ih =>
    have hseen : name :: front.reverse = (front ++ [name]).reverse := by
      rw [List.reverse_append]
      rfl
    rw [repeatsFrom, List.append_cons, hseen]
    split
    · next hm => exact ih (h.again (List.mem_reverse.1 hm.1) hm.2)
    · next hn => exact ih (h.pass fun hm => hn ⟨List.mem_reverse.2 hm.1, hm.2⟩)

/-- The shared names of a report are the names of two or more documents, each once, in the order of
the second document that has each. -/
theorem sharedNames_lists (r : Report) : Lists 1 (r.documents.map (·.name)) r.sharedNames :=
  Lists.nil.run _

/-- They are not in the order of the first document that has each, where the documents with one name
stand around those with another. -/
theorem sharedNames_nested :
    (ofTexts [groupsText, upsertText, upsertText, groupsText]).documents.map (·.name) =
        [("groups" : Text), ("groupUpsert" : Text), ("groupUpsert" : Text), ("groups" : Text)] ∧
      (ofTexts [groupsText, upsertText, upsertText, groupsText]).sharedNames =
        [("groupUpsert" : Text), ("groups" : Text)] ∧
      ¬ Lists 0
        ((ofTexts [groupsText, upsertText, upsertText, groupsText]).documents.map (·.name))
        (ofTexts [groupsText, upsertText, upsertText, groupsText]).sharedNames := by
  have hn : (ofTexts [groupsText, upsertText, upsertText, groupsText]).documents.map (·.name) =
      [("groups" : Text), ("groupUpsert" : Text), ("groupUpsert" : Text), ("groups" : Text)] := by
    decide +kernel
  have hs : (ofTexts [groupsText, upsertText, upsertText, groupsText]).sharedNames =
      [("groupUpsert" : Text), ("groups" : Text)] := by decide +kernel
  constructor
  · exact hn
  · apply And.intro hs
    rw [hn, hs]
    intro h
    have hback : MetBefore 0 [("groups" : Text), ("groupUpsert" : Text), ("groupUpsert" : Text),
        ("groups" : Text)] "groupUpsert" "groups" :=
      List.rel_of_pairwise_cons h.ordered List.mem_cons_self
    have hfirst : MetBefore 0 [("groups" : Text), ("groupUpsert" : Text), ("groupUpsert" : Text),
        ("groups" : Text)] "groups" "groupUpsert" := ⟨[], _, rfl, rfl, Nat.le_refl 0⟩
    exact absurd (hback.asymm hfirst) (by decide)

end QueryDescriptor.Report
