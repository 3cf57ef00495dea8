import QueryDescriptor.Proofs.Selection.Forest

namespace QueryDescriptor.Selection.Forest

variable {f g : Forest}

def append : Forest → Forest → Forest
  | nil, below => below
  | leaf token h rest, below => leaf token h (rest.append below)
  | set name inner rest, below => set name inner (rest.append below)

def ofParts (parts : List Forest) : Forest := parts.foldr append nil

/-- The same selections in any order, at the top and inside every set. -/
inductive Reordered : Forest → Forest → Prop where
  | nil : Reordered nil nil
  | leaf {rest more : Forest} (token : Name) (h : token.text ≠ closingText) :
      Reordered rest more → Reordered (leaf token h rest) (leaf token h more)
  | set {inner other rest more : Forest} (name : Name) :
      Reordered inner other → Reordered rest more →
        Reordered (set name inner rest) (set name other more)
  | perm {parts others : List Forest} :
      parts.Perm others → Reordered (ofParts parts) (ofParts others)
  | trans {f g h : Forest} : Reordered f g → Reordered g h → Reordered f h

/-- The same selections in any order inside the sets, while those at the top stand as they did. -/
inductive ReorderedInside : Forest → Forest → Prop where
  | nil : ReorderedInside nil nil
  | leaf {rest more : Forest} (token : Name) (h : token.text ≠ closingText) :
      ReorderedInside rest more → ReorderedInside (leaf token h rest) (leaf token h more)
  | set {inner other rest more : Forest} (name : Name) :
      Reordered inner other → ReorderedInside rest more →
        ReorderedInside (set name inner rest) (set name other more)

theorem paths_append (f g : Forest) : (f.append g).paths = f.paths ++ g.paths := by
  induction f with
  | nil => rfl
  | leaf token h rest ih => rw [append, paths, paths, ih, List.cons_append]
  | set name inner rest _ ih => rw [append, paths, paths, ih, List.append_assoc]

theorem names_append (f g : Forest) : (f.append g).names = f.names ++ g.names := by
  induction f with
  | nil => rfl
  | leaf token h rest ih => rw [append, names, names, ih, List.cons_append]
  | set name inner rest _ ih =>
    rw [append, names, names, ih, List.cons_append, List.append_assoc]

theorem paths_ofParts (parts : List Forest) : (ofParts parts).paths = parts.flatMap paths := by
  induction parts with
  | nil => rfl
  | cons part parts ih =>
    rw [List.flatMap_cons, ← ih]
    exact paths_append part (ofParts parts)

theorem names_ofParts (parts : List Forest) : (ofParts parts).names = parts.flatMap names := by
  induction parts with
  | nil => rfl
  | cons part parts ih =>
    rw [List.flatMap_cons, ← ih]
    exact names_append part (ofParts parts)

theorem Reordered.paths_perm (h : Reordered f g) : f.paths.Perm g.paths := by
  induction h with
  | nil => exact .nil
  | leaf token h _ ih => exact ih.cons _
  | set name _ _ ihi ihr => exact (ihi.map _).append ihr
  | perm hp =>
    rw [paths_ofParts, paths_ofParts]
    exact hp.flatMap_right _
  | trans _ _ ihf ihg => exact ihf.trans ihg

theorem Reordered.names_perm (h : Reordered f g) : f.names.Perm g.names := by
  induction h with
  | nil => exact .nil
  | leaf token h _ ih => exact ih.cons _
  | set name _ _ ihi ihr => exact (ihi.append ihr).cons _
  | perm hp =>
    rw [names_ofParts, names_ofParts]
    exact hp.flatMap_right _
  | trans _ _ ihf ihg => exact ihf.trans ihg

theorem ReorderedInside.scanned (h : ReorderedInside f g) :
    ReorderedInside f.processed.sets g.processed.sets := by
  induction h with
  | nil => exact .nil
  | leaf token h _ ih => exact ih
  | set name hi _ ih =>
    rw [processed, processed]
    split
    · exact .set name hi ih
    · exact .set name hi .nil

theorem ReorderedInside.reordered (h : ReorderedInside f g) : Reordered f g := by
  induction h with
  | nil => exact .nil
  | leaf token h _ ih => exact .leaf token h ih
  | set name hi _ ih => exact .set name hi ih

theorem mem_names_of_mem_scanned {name : Text} (h : name ∈ f.processed.sets.names) :
    name ∈ f.names := by
  induction f with
  | nil => exact h
  | leaf token hc rest ih => exact List.mem_cons_of_mem _ (ih h)
  | set set inner rest _ ih =>
    rw [processed] at h
    split at h
    · rcases List.mem_cons.1 h with rfl | h
      · exact List.mem_cons_self
      · rcases List.mem_append.1 h with h | h
        · exact List.mem_cons_of_mem _ (List.mem_append_left _ h)
        · exact List.mem_cons_of_mem _ (List.mem_append_right _ (ih h))
    · rcases List.mem_cons.1 h with rfl | h
      · exact List.mem_cons_self
      · rcases List.mem_append.1 h with h | h
        · exact List.mem_cons_of_mem _ (List.mem_append_left _ h)
        · cases h

/-- No name with a separator starts another one. -/
def Antichain (f : Forest) : Prop :=
  ∀ a ∈ f.names, separator ∈ a → ∀ b ∈ f.names, separator ∈ b → a <+: b → a = b

instance (f : Forest) : Decidable f.Antichain := List.decidableBAll _ f.names

theorem Antichain.compounds (h : f.Antichain) :
    ∀ a ∈ f.processed.sets.compounds, ∀ b ∈ f.processed.sets.compounds, a <+: b → a = b := by
  intro a ha b hb
  obtain ⟨hma, hsa⟩ := mem_compounds_iff.1 ha
  obtain ⟨hmb, hsb⟩ := mem_compounds_iff.1 hb
  exact h a (mem_names_of_mem_scanned hma) hsa b (mem_names_of_mem_scanned hmb) hsb

theorem Reordered.mem_compounds_iff (h : Reordered f g) (name : Text) :
    name ∈ f.compounds ↔ name ∈ g.compounds := by
  rw [Forest.mem_compounds_iff, Forest.mem_compounds_iff, h.names_perm.mem_iff]

end QueryDescriptor.Selection.Forest
