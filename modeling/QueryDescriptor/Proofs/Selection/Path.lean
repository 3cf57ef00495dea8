import QueryDescriptor.Proofs.Selection.Dotted
import QueryDescriptor.Proofs.Selection.Run

namespace QueryDescriptor.Selection

variable {s t : State} {n : Nat} {line : Line} {lines : List Text} {events : List Event}

/-- The path of every field; `opened` are the names of the open sets, the innermost first. -/
def Event.paths (opened : List Text) : List Event → List (List Text)
  | [] => []
  | .opened name :: rest => paths (name :: opened) rest
  | .closed :: rest => paths opened.tail rest
  | .field _ text _ :: rest => (opened.reverse ++ [Text.firstWord text]) :: paths opened rest
  | .diagnosed _ :: rest => paths opened rest
  | .stopped _ :: rest => paths opened rest

namespace State

theorem paths_of_step (h : s.Kept) (hs : s.step n line = some (t, events)) (more : List Event) :
    ∃ first, Event.paths s.nesting.names (events ++ more) =
        first ++ Event.paths t.nesting.names more ∧
      events.filterMap Event.fieldName? = first.map dotted := by
  rcases step_cases hs with ⟨name, _, rfl, rfl⟩ | ⟨_, _, rfl, rfl⟩ | ⟨_, rfl, rfl⟩ |
    ⟨text, _, rfl, _, rfl⟩ | ⟨text, _, rfl, _, rfl⟩
  · exact ⟨[], rfl, rfl⟩
  · refine ⟨[], ?_, rfl⟩
    rw [leave_names]
    rfl
  · exact ⟨[], rfl, rfl⟩
  · exact ⟨[], rfl, rfl⟩
  · refine ⟨[t.nesting.names.reverse ++ [Text.firstWord text]], rfl, ?_⟩
    have hd := stemOf_append_dotted (List.cons_ne_nil (Text.firstWord text) [])
      t.nesting.names.reverse
    rw [List.map_singleton, ← hd, dotted_singleton, ← Nesting.stem_eq, ← h]
    rfl

end State

theorem fields_scan (h : s.Kept) (n : Nat) (lines : List Text) :
    (scan s n lines).filterMap Event.fieldName? =
      (Event.paths s.nesting.names (scan s n lines)).map dotted := by
  induction lines generalizing s n with
  | nil =>
    rw [scan]
    split <;> rfl
  | cons raw below ih =>
    rw [scan]
    cases hs : s.step n (Line.ofText raw) with
    | none =>
      dsimp only
      split <;> rfl
    | some next =>
      obtain ⟨t, events⟩ := next
      obtain ⟨first, hp, hf⟩ := State.paths_of_step h hs (scan t (n + 1) below)
      dsimp only
      rw [List.filterMap_append, hp, List.map_append, hf, ih (h.step hs)]

theorem mem_of_mem_paths {opened path : List Text} {name : Text}
    (hp : path ∈ Event.paths opened events) (hn : name ∈ path) :
    name ∈ opened ∨ name ∈ events.filterMap Event.name? := by
  induction events generalizing opened with
  | nil => cases hp
  | cons event events ih =>
    cases event with
    | opened set =>
      rcases ih hp with h | h
      · rcases List.mem_cons.1 h with rfl | h
        · exact .inr List.mem_cons_self
        · exact .inl h
      · exact .inr (List.mem_cons_of_mem set h)
    | closed =>
      rcases ih hp with h | h
      · exact .inl (List.mem_of_mem_tail h)
      · exact .inr h
    | field depth text said =>
      rcases List.mem_cons.1 hp with rfl | hp
      · rcases List.mem_append.1 hn with h | h
        · exact .inl (List.mem_reverse.1 h)
        · rw [List.mem_singleton.1 h]
          exact .inr List.mem_cons_self
      · rcases ih hp with h | h
        · exact .inl h
        · exact .inr (List.mem_cons_of_mem _ h)
    | diagnosed d => exact ih hp
    | stopped line => exact ih hp

end QueryDescriptor.Selection
