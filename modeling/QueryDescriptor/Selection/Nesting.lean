import QueryDescriptor.Text.Basic

namespace QueryDescriptor.Selection

def separator : Char := '_'

/-- The names of the open sets, the innermost first. -/
structure Nesting where
  names : List Text
  deriving DecidableEq

namespace Nesting

def empty : Nesting := ⟨[]⟩

def depth (n : Nesting) : Nat := n.names.length

def push (name : Text) (n : Nesting) : Nesting := ⟨name :: n.names⟩

def pop? (n : Nesting) : Option Nesting :=
  match n.names with
  | [] => none
  | _ :: names => some ⟨names⟩

/-- The start of every dotted name inside: the open names from the outside in, each with a
separator after it. -/
def stem (n : Nesting) : Text := n.names.reverse.flatMap (· ++ [separator])

/-- The number of separators of the stem, those inside the names included. -/
def separators (n : Nesting) : Nat :=
  n.names.foldr (fun name k => name.count separator + 1 + k) 0

@[simp] theorem stem_push (name : Text) (n : Nesting) :
    (n.push name).stem = n.stem ++ (name ++ [separator]) := by
  simp [stem, push, List.flatMap_append]

theorem count_stem (n : Nesting) : n.stem.count separator = n.separators := by
  cases n with
  | mk names =>
    induction names with
    | nil => rfl
    | cons name names ih =>
      have h := congrArg (List.count separator) (stem_push name ⟨names⟩)
      simp only [push, List.count_append, List.count_singleton_self, ih] at h
      rw [h]
      simp only [separators, List.foldr_cons]
      omega

end Nesting
end QueryDescriptor.Selection
