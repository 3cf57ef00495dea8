import QueryDescriptor.Text.Basic

namespace QueryDescriptor.Text

/-- Counts the occurrences of `p`; the first `covered` characters belong to the last one. -/
def occurrencesFrom (p : Text) : Nat → Text → Nat
  | _, [] => 0
  | covered + 1, _ :: t => occurrencesFrom p covered t
  | 0, c :: t =>
    if p.isPrefixOf (c :: t) then occurrencesFrom p (p.length - 1) t + 1
    else occurrencesFrom p 0 t

/-- The number of leftmost occurrences of `p` that do not overlap. -/
def occurrences (p t : Text) : Nat := occurrencesFrom p 0 t

def replaceFrom (p new : Text) : Nat → Text → Text
  | _, [] => []
  | covered + 1, _ :: t => replaceFrom p new covered t
  | 0, c :: t =>
    if p.isPrefixOf (c :: t) then new ++ replaceFrom p new (p.length - 1) t
    else c :: replaceFrom p new 0 t

def replace (p new t : Text) : Text := replaceFrom p new 0 t

end QueryDescriptor.Text
