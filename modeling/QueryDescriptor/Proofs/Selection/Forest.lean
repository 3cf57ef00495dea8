import QueryDescriptor.Proofs.Selection.Dotted
import QueryDescriptor.Proofs.Selection.Line

namespace QueryDescriptor.Selection

structure Name where
  text : Text
  ne_nil : text ≠ []
  not_blank : ∀ c ∈ text, isBlank c = false

def Name.of (text : Text) (h : text ≠ [] ∧ ∀ c ∈ text, isBlank c = false) : Name :=
  ⟨text, h.1, h.2⟩

/-- Selections one below the other: leaves, and sets with selections inside. -/
inductive Forest where
  | nil
  | leaf (token : Name) (notClosing : token.text ≠ closingText) (rest : Forest)
  | set (name : Name) (inner rest : Forest)

namespace Forest

def lines : Forest → List Text
  | nil => []
  | leaf token _ rest => token.text :: rest.lines
  | set name inner rest =>
    (name.text ++ openingEnd) :: (inner.lines ++ closingText :: rest.lines)

def paths : Forest → List (List Text)
  | nil => []
  | leaf token _ rest => [token.text] :: rest.paths
  | set name inner rest => inner.paths.map (name.text :: ·) ++ rest.paths

def names : Forest → List Text
  | nil => []
  | leaf token _ rest => token.text :: rest.names
  | set name inner rest => name.text :: (inner.names ++ rest.names)

def setNames : Forest → List Text
  | nil => []
  | leaf _ _ rest => rest.setNames
  | set name inner rest => name.text :: (inner.setNames ++ rest.setNames)

/-- The names that hold a separator, each once, in the order of their first lines. -/
def compounds (f : Forest) : List Text := (f.names.filter (·.contains separator)).eraseDups

def sets : Forest → Forest
  | nil => nil
  | leaf _ _ rest => rest.sets
  | set name inner rest => set name inner rest.sets

/-- The leaves at the top, each with the number of lines above it. -/
def topLeaves : Forest → List (Nat × Text)
  | nil => []
  | leaf token _ rest => (0, token.text) :: rest.topLeaves.map fun (k, t) => (k + 1, t)
  | set _ inner rest => rest.topLeaves.map fun (k, t) => (k + (inner.lines.length + 2), t)

/-- The selections down to the first set at the top whose name holds no separator. -/
def processed : Forest → Forest
  | nil => nil
  | leaf token h rest => leaf token h rest.processed
  | set name inner rest =>
    if separator ∈ name.text then set name inner rest.processed else set name inner nil

def passedOver : Forest → Forest
  | nil => nil
  | leaf _ _ rest => rest.passedOver
  | set name _ rest => if separator ∈ name.text then rest.passedOver else rest

theorem paths_ne_nil {f : Forest} {path : List Text} (h : path ∈ f.paths) : path ≠ [] := by
  induction f generalizing path with
  | nil => cases h
  | leaf token hc rest ih =>
    rcases List.mem_cons.1 h with rfl | h
    · exact List.cons_ne_nil _ _
    · exact ih h
  | set name inner rest ihi ihr =>
    rcases List.mem_append.1 h with h | h
    · obtain ⟨tail, _, rfl⟩ := List.mem_map.1 h
      exact List.cons_ne_nil _ _
    · exact ihr h

theorem mem_names_of_mem_path {f : Forest} {path : List Text} (h : path ∈ f.paths) :
    ∀ name ∈ path, name ∈ f.names := by
  induction f generalizing path with
  | nil => cases h
  | leaf token hc rest ih =>
    rcases List.mem_cons.1 h with rfl | h
    · intro name hn
      exact List.mem_cons.2 (.inl (List.mem_singleton.1 hn))
    · intro name hn
      exact List.mem_cons_of_mem _ (ih h name hn)
  | set name inner rest ihi ihr =>
    intro next hn
    rcases List.mem_append.1 h with h | h
    · obtain ⟨tail, ht, rfl⟩ := List.mem_map.1 h
      rcases List.mem_cons.1 hn with rfl | hn
      · exact List.mem_cons_self
      · exact List.mem_cons_of_mem _ (List.mem_append_left _ (ihi ht next hn))
    · exact List.mem_cons_of_mem _ (List.mem_append_right _ (ihr h next hn))

theorem mem_setNames_of_mem_dropLast {f : Forest} {path : List Text} (h : path ∈ f.paths) :
    ∀ name ∈ path.dropLast, name ∈ f.setNames := by
  induction f generalizing path with
  | nil => cases h
  | leaf token hc rest ih =>
    rcases List.mem_cons.1 h with rfl | h
    · intro name hn
      cases hn
    · exact ih h
  | set name inner rest ihi ihr =>
    intro next hn
    rcases List.mem_append.1 h with h | h
    · obtain ⟨tail, ht, rfl⟩ := List.mem_map.1 h
      rw [List.dropLast_cons_of_ne_nil (paths_ne_nil ht)] at hn
      rcases List.mem_cons.1 hn with rfl | hn
      · exact List.mem_cons_self
      · exact List.mem_cons_of_mem _ (List.mem_append_left _ (ihi ht next hn))
    · exact List.mem_cons_of_mem _ (List.mem_append_right _ (ihr h next hn))

theorem mem_compounds_iff {f : Forest} {name : Text} :
    name ∈ f.compounds ↔ name ∈ f.names ∧ separator ∈ name := by
  rw [compounds, List.mem_eraseDups, List.mem_filter, List.contains_iff_mem]

theorem processed_tree (top : Name) (inner : Forest) :
    (set top inner nil).processed = set top inner nil := by
  rw [processed]
  split <;> rfl

theorem passedOver_tree (top : Name) (inner : Forest) : (set top inner nil).passedOver = nil := by
  rw [passedOver]
  split <;> rfl

theorem lines_cases (f : Forest) :
    f = nil ∨ ∃ text below, f.lines = text :: below ∧ text ≠ closingText := by
  cases f with
  | nil => exact .inl rfl
  | leaf token h rest => exact .inr ⟨token.text, rest.lines, rfl, h⟩
  | set name inner rest =>
    refine .inr ⟨_, _, rfl, ?_⟩
    intro he
    have hl := congrArg List.getLast? he
    rw [openingEnd, List.getLast?_append] at hl
    cases hl

end Forest
end QueryDescriptor.Selection
