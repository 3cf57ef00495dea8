import QueryDescriptor.Selection.Nesting

namespace QueryDescriptor.Selection

def dotted (path : List Text) : Text := Text.join [separator] path

def stemOf (names : List Text) : Text := names.flatMap (· ++ [separator])

theorem dotted_singleton (name : Text) : dotted [name] = name := rfl

theorem dotted_cons {path : List Text} (h : path ≠ []) (name : Text) :
    dotted (name :: path) = name ++ separator :: dotted path := by
  obtain ⟨next, path, rfl⟩ := List.exists_cons_of_ne_nil h
  rw [dotted, Text.join_cons_cons, List.append_assoc]
  rfl

theorem stemOf_nil : stemOf [] = [] := rfl

theorem stemOf_cons (name : Text) (names : List Text) :
    stemOf (name :: names) = name ++ separator :: stemOf names := by
  rw [stemOf, List.flatMap_cons, List.append_assoc]
  rfl

theorem stemOf_append_dotted {path : List Text} (h : path ≠ []) (names : List Text) :
    stemOf names ++ dotted path = dotted (names ++ path) := by
  induction names with
  | nil => rfl
  | cons name names ih =>
    have hn : names ++ path ≠ [] := List.append_ne_nil_of_right_ne_nil names h
    rw [stemOf_cons, List.append_assoc, List.cons_append, ih, List.cons_append, dotted_cons hn]

theorem Nesting.stem_eq (n : Nesting) : n.stem = stemOf n.names.reverse := rfl

end QueryDescriptor.Selection
