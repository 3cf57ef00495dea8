namespace QueryDescriptor

/-- A text is the list of its characters; string literals coerce to texts. -/
abbrev Text := List Char

instance : Coe String Text := ⟨String.toList⟩

instance : LE Text := List.instLE

instance : DecidableLE Text := fun s t => inferInstanceAs (Decidable (¬ t < s))

namespace Text

def before (p : Char → Bool) (t : Text) : Text :=
  t.takeWhile fun c => !p c

def after? (p : Char → Bool) : Text → Option Text
  | [] => none
  | c :: t => if p c then some t else after? p t

def dropEndWhile (p : Char → Bool) (t : Text) : Text :=
  (t.reverse.dropWhile p).reverse

def dropEnd? (ending t : Text) : Option Text :=
  if ending.isSuffixOf t then some (t.take (t.length - ending.length)) else none

def dropStart? : Text → Text → Option Text
  | [], t => some t
  | _ :: _, [] => none
  | a :: start, c :: t => if a = c then dropStart? start t else none

def join (separator : Text) : List Text → Text
  | [] => []
  | [t] => t
  | t :: u :: ts => t ++ separator ++ join separator (u :: ts)

/-- The pieces between the characters equal to `separator`; there is always at least one. -/
def split (separator : Char) : Text → List Text
  | [] => [[]]
  | c :: t =>
    if c = separator then [] :: split separator t
    else match split separator t with
      | [] => [[c]]
      | piece :: pieces => (c :: piece) :: pieces

theorem split_ne_nil (separator : Char) (t : Text) : split separator t ≠ [] := by
  cases t with
  | nil => exact List.cons_ne_nil _ _
  | cons c t =>
    rw [split]
    split
    · exact List.cons_ne_nil _ _
    · split <;> exact List.cons_ne_nil _ _

theorem join_cons_cons (separator t u : Text) (ts : List Text) :
    join separator (t :: u :: ts) = t ++ separator ++ join separator (u :: ts) := rfl

theorem join_split (separator : Char) (t : Text) : join [separator] (split separator t) = t := by
  induction t with
  | nil => rfl
  | cons c t ih =>
    obtain ⟨piece, pieces, hs⟩ := List.exists_cons_of_ne_nil (split_ne_nil separator t)
    rw [hs] at ih
    by_cases hc : c = separator
    · rw [split, if_pos hc, hs, join_cons_cons, ih, hc]
      rfl
    · rw [split, if_neg hc, hs]
      cases pieces with
      | nil => simpa only [join, List.cons.injEq, true_and] using ih
      | cons next pieces =>
        rw [join_cons_cons] at ih ⊢
        rw [← ih]
        rfl

def byteCount (t : Text) : Nat := t.foldr (fun c n => c.utf8Size + n) 0

def ofNat (n : Nat) : Text := Nat.toDigits 10 n

end Text
end QueryDescriptor
