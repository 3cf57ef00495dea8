import QueryDescriptor.Proofs.Json.Quoted

namespace QueryDescriptor

namespace Json

open Text (join before)

theorem sizeOf_lt_of_mem {members : List (Text × Json)} {m : Text × Json} (h : m ∈ members) :
    sizeOf m.2 < sizeOf members := by
  have hm := List.sizeOf_lt_of_mem h
  rw [Prod.mk.sizeOf_spec] at hm
  omega

/-- Induction on values, with the hypothesis for every item of a list and every member of a
record. -/
@[elab_as_elim, induction_eliminator]
theorem induction {motive : Json → Prop} (null : motive .null) (text : ∀ t, motive (.text t))
    (number : ∀ n, motive (.number n))
    (list : ∀ items, (∀ j ∈ items, motive j) → motive (.list items))
    (record : ∀ members, (∀ m ∈ members, motive m.2) → motive (.record members)) (j : Json) :
    motive j :=
  match j with
  | .null => null
  | .text t => text t
  | .number n => number n
  | .list items => list items fun j _ => induction null text number list record j
  | .record members => record members fun m hm =>
    have := sizeOf_lt_of_mem hm
    induction null text number list record m.2

/-- A number that stands in front of the text ends there. -/
def Apart (t : Text) : Prop := ∀ c ∈ t.head?, c.isDigit = false

/-- From a text that starts with the form of the value, the value can be read off, and what follows
it too. -/
def ReadsOff {α : Type} (form : α → Text) (a : α) : Prop :=
  ∀ (b : α) (s t : Text), Apart s → Apart t → form a ++ s = form b ++ t → a = b ∧ s = t

section ReadsOff

variable {α : Type} {form : α → Text} {a : α} {items others : List α} {s t : Text}

theorem apart_cons {c : Char} (h : c.isDigit = false) (t : Text) : Apart (c :: t) := by
  rintro d ⟨⟩
  exact h

theorem readsOff_ofNat (n : Nat) : ReadsOff Text.ofNat n := by
  intro m s t hs ht h
  have hdigits (k : Nat) : ∀ c ∈ Text.ofNat k, (!c.isDigit) = false := by
    intro c hc
    rw [Nat.isDigit_of_mem_toDigits (by decide) (Nat.le_refl 10) hc]
    rfl
  have hend {u : Text} (hu : Apart u) : ∀ c ∈ u.head?, (!c.isDigit) = true := by
    intro c hc
    rw [hu c hc]
    rfl
  have hsame : Text.ofNat n = Text.ofNat m := by
    rw [← Text.before_append (hdigits n) (hend hs), h, Text.before_append (hdigits m) (hend ht)]
  rw [hsame] at h
  refine ⟨?_, List.append_cancel_left h⟩
  rw [← Nat.ofDigitChars_ten_toDigits (n := n), ← Nat.ofDigitChars_ten_toDigits (n := m)]
  exact congrArg _ hsame

def onLine (depth : Nat) (form : α → Text) (a : α) : Text := margin depth ++ form a

theorem ReadsOff.onLine (h : ReadsOff form a) (depth : Nat) : ReadsOff (onLine depth form) a := by
  intro b s t hs ht he
  rw [Json.onLine, Json.onLine, List.append_assoc, List.append_assoc] at he
  exact h b s t hs ht (List.append_cancel_left he)

def further (form : α → Text) (items : List α) : Text :=
  items.flatMap ([',', '\n'] ++ form ·)

theorem further_cons (form : α → Text) (a : α) (items : List α) (s : Text) :
    further form (a :: items) ++ s = ',' :: '\n' :: (form a ++ (further form items ++ s)) := by
  rw [further, List.flatMap_cons, List.append_assoc, List.append_assoc]
  rfl

theorem apart_further (form : α → Text) (items : List α) (s : Text) :
    Apart (further form items ++ '\n' :: s) := by
  cases items with
  | nil => exact apart_cons (by decide) s
  | cons a items => exact apart_cons (by decide) _

theorem ReadsOff.further (h : ∀ a ∈ items, ReadsOff form a)
    (he : further form items ++ '\n' :: s = further form others ++ '\n' :: t) :
    items = others ∧ s = t := by
  induction items generalizing others with
  | nil =>
    cases others with
    | nil => exact ⟨rfl, (List.cons.inj he).2⟩
    | cons b others => cases he
  | cons a items ih =>
    cases others with
    | nil => cases he
    | cons b others =>
      obtain ⟨ha, hitems⟩ := List.forall_mem_cons.1 h
      rw [further_cons, further_cons] at he
      obtain ⟨rfl, hrest⟩ := ha b _ _ (apart_further form items s) (apart_further form others t)
        (List.cons.inj (List.cons.inj he).2).2
      obtain ⟨rfl, hst⟩ := ih hitems hrest
      exact ⟨rfl, hst⟩

theorem enclosed_cons (opening closing : Char) (depth : Nat) (form : α → Text) (a : α)
    (items : List α) (s : Text) :
    enclosed opening closing depth ((a :: items).map form) ++ s =
      opening :: '\n' :: (onLine (depth + 1) form a ++
        (further (onLine (depth + 1) form) items ++ '\n' :: (margin depth ++ closing :: s))) := by
  rw [List.map_cons, enclosed, List.map_cons, Text.join_cons, List.map_map, List.flatMap_map]
  · simp only [onLine, further, Function.comp_apply, List.cons_append, List.append_assoc,
      List.nil_append]
  · exact List.cons_ne_nil _ _

theorem ReadsOff.enclosed {closing : Char} (h : ∀ a ∈ items, ReadsOff form a)
    (hc : closing ≠ '\n') (opening : Char) (depth : Nat) :
    ReadsOff (fun items => enclosed opening closing depth (items.map form)) items := by
  intro others s t _ _ he
  dsimp only at he
  cases items with
  | nil =>
    cases others with
    | nil => exact ⟨rfl, List.append_cancel_left he⟩
    | cons b others =>
      rw [enclosed_cons] at he
      exact absurd (List.cons.inj (List.cons.inj he).2).1 hc
  | cons a items =>
    cases others with
    | nil =>
      rw [enclosed_cons] at he
      exact absurd (List.cons.inj (List.cons.inj he).2).1.symm hc
    | cons b others =>
      rw [enclosed_cons, enclosed_cons] at he
      have hlines : Json.further (Json.onLine (depth + 1) form) (a :: items) ++
            '\n' :: (margin depth ++ closing :: s) =
          Json.further (Json.onLine (depth + 1) form) (b :: others) ++
            '\n' :: (margin depth ++ closing :: t) := by
        rw [further_cons, further_cons, (List.cons.inj (List.cons.inj he).2).2]
      obtain ⟨hitems, hrest⟩ := ReadsOff.further (fun a ha => (h a ha).onLine _) hlines
      exact ⟨hitems, (List.cons.inj (List.append_cancel_left hrest)).2⟩

end ReadsOff

theorem layoutItems_eq (depth : Nat) (items : List Json) :
    layoutItems depth items = items.map (layout depth) := by
  induction items with
  | nil => rfl
  | cons item items ih => rw [layoutItems, ih, List.map_cons]

def memberText (depth : Nat) (m : Text × Json) : Text :=
  quoted m.1 ++ [':', ' '] ++ layout depth m.2

theorem layoutMembers_eq (depth : Nat) (members : List (Text × Json)) :
    layoutMembers depth members = members.map (memberText depth) := by
  induction members with
  | nil => rfl
  | cons m members ih => rw [layoutMembers, ih, List.map_cons, memberText]

theorem ReadsOff.member {depth : Nat} {m : Text × Json} (h : ReadsOff (layout depth) m.2) :
    ReadsOff (memberText depth) m := by
  rintro ⟨key, value⟩ s t hs ht he
  simp only [memberText, List.append_assoc] at he
  obtain ⟨hkey, hrest⟩ := quoted_append_inj he
  obtain ⟨hvalue, hst⟩ := h value s t hs ht (List.append_cancel_left hrest)
  exact ⟨Prod.ext hkey hvalue, hst⟩

inductive Kind where
  | null
  | text
  | number
  | list
  | record

def kind : Json → Kind
  | .null => .null
  | .text _ => .text
  | .number _ => .number
  | .list _ => .list
  | .record _ => .record

def kindOf (c : Char) : Kind :=
  if c.isDigit then .number
  else match c with
    | 'n' => .null
    | '"' => .text
    | '[' => .list
    | _ => .record

theorem exists_cons_enclosed (opening closing : Char) (depth : Nat) (parts : List Text) :
    ∃ rest, enclosed opening closing depth parts = opening :: rest := by
  cases parts with
  | nil => exact ⟨_, rfl⟩
  | cons part parts => exact ⟨_, rfl⟩

theorem exists_cons_layout (depth : Nat) (j : Json) :
    ∃ c rest, layout depth j = c :: rest ∧ kindOf c = j.kind := by
  cases j with
  | null => exact ⟨'n', "ull", rfl, rfl⟩
  | text t => exact ⟨'"', _, rfl, rfl⟩
  | number n =>
    obtain ⟨c, rest, hc⟩ := List.exists_cons_of_ne_nil (Nat.toDigits_ne_nil (n := n) (b := 10))
    have hdigit : c.isDigit := by
      apply Nat.isDigit_of_mem_toDigits (by decide) (Nat.le_refl 10)
      rw [hc]
      exact List.mem_cons_self
    exact ⟨c, rest, hc, if_pos hdigit⟩
  | list items =>
    obtain ⟨rest, hrest⟩ := exists_cons_enclosed '[' ']' depth (layoutItems (depth + 1) items)
    exact ⟨'[', rest, hrest, rfl⟩
  | record members =>
    obtain ⟨rest, hrest⟩ :=
      exists_cons_enclosed '\x7b' '\x7d' depth (layoutMembers (depth + 1) members)
    exact ⟨'\x7b', rest, hrest, rfl⟩

theorem kind_eq {j k : Json} {depth : Nat} {s t : Text}
    (h : layout depth j ++ s = layout depth k ++ t) : j.kind = k.kind := by
  obtain ⟨c, rest, hj, hc⟩ := exists_cons_layout depth j
  obtain ⟨d, more, hk, hd⟩ := exists_cons_layout depth k
  rw [hj, hk] at h
  rw [← hc, ← hd, (List.cons.inj h).1]

theorem readsOff_layout (j : Json) (depth : Nat) : ReadsOff (layout depth) j := by
  induction j generalizing depth with
  | null =>
    intro k s t _ _ h
    cases k with
    | null => exact ⟨rfl, List.append_cancel_left h⟩
    | _ => cases kind_eq h
  | text u =>
    intro k s t _ _ h
    cases k with
    | text v =>
      obtain ⟨rfl, hst⟩ := quoted_append_inj h
      exact ⟨rfl, hst⟩
    | _ => cases kind_eq h
  | number n =>
    intro k s t hs ht h
    cases k with
    | number m =>
      obtain ⟨rfl, hst⟩ := readsOff_ofNat n m s t hs ht h
      exact ⟨rfl, hst⟩
    | _ => cases kind_eq h
  | list items ih =>
    intro k s t hs ht h
    cases k with
    | list others =>
      rw [layout, layout, layoutItems_eq, layoutItems_eq] at h
      have hitems := ReadsOff.enclosed (fun j hj => ih j hj (depth + 1))
        (by decide : ']' ≠ '\n') '[' depth
      obtain ⟨rfl, hst⟩ := hitems others s t hs ht h
      exact ⟨rfl, hst⟩
    | _ => cases kind_eq h
  | record members ih =>
    intro k s t hs ht h
    cases k with
    | record others =>
      rw [layout, layout, layoutMembers_eq, layoutMembers_eq] at h
      have hmembers := ReadsOff.enclosed (fun m hm => (ih m hm (depth + 1)).member)
        (by decide : '\x7d' ≠ '\n') '\x7b' depth
      obtain ⟨rfl, hst⟩ := hmembers others s t hs ht h
      exact ⟨rfl, hst⟩
    | _ => cases kind_eq h

theorem pretty_injective : Function.Injective pretty := by
  intro j k h
  have hnil : Apart [] := fun c hc => by cases hc
  have happend : layout 0 j ++ [] = layout 0 k ++ [] := congrArg (· ++ []) h
  exact (readsOff_layout j 0 k [] [] hnil hnil happend).1

end Json
end QueryDescriptor
