import QueryDescriptor.Accessor.Path
import QueryDescriptor.Proofs.Text.Occurrence
import QueryDescriptor.Text.Letter

namespace QueryDescriptor

/-- A letter, a digit or an underscore of ASCII. -/
def inIdentifier (c : Char) : Bool := c.isAlphanum || c == '_'

def Uncapitalised (name : Text) : Prop :=
  (∀ c ∈ name, inIdentifier c = true) ∧ ∀ c ∈ name.head?, c.isUpper = false

instance : DecidablePred Uncapitalised := fun _ => instDecidableAnd

theorem toNat_lt_of_inIdentifier {c : Char} (h : inIdentifier c) : c.toNat < 128 := by
  rw [inIdentifier, Bool.or_eq_true, beq_iff_eq] at h
  rcases h with h | rfl
  · rcases Bool.or_eq_true_iff.1 h with h | h
    · exact toNat_lt_of_isAlpha h
    · exact Nat.lt_of_le_of_lt (Char.isDigit_iff_toNat.1 h).2 (by decide)
  · decide

theorem inIdentifier_toUpper : ∀ n < 128, inIdentifier (Char.ofNat n) →
    inIdentifier (Char.ofNat n).toUpper := by
  decide

theorem toLower_toUpper : ∀ n < 128, (Char.ofNat n).isUpper = false →
    (Char.ofNat n).toUpper.toLower = Char.ofNat n := by
  decide

namespace Text

variable {t : Text}

theorem inIdentifier_upperFirst (h : ∀ c ∈ t, inIdentifier c = true) :
    ∀ c ∈ upperFirst t, inIdentifier c = true := by
  cases t with
  | nil => exact List.forall_mem_nil _
  | cons c t =>
    obtain ⟨hc, ht⟩ := List.forall_mem_cons.1 h
    have hlt := toNat_lt_of_inIdentifier hc
    have hupper := inIdentifier_toUpper c.toNat hlt
    rw [Char.ofNat_toNat] at hupper
    rw [upperFirst, upper_of_lt hlt, List.singleton_append, List.forall_mem_cons]
    exact ⟨hupper hc, ht⟩

theorem lowerFirst_upperFirst (h : Uncapitalised t) : lowerFirst (upperFirst t) = t := by
  cases t with
  | nil => rfl
  | cons c t =>
    have hlt := toNat_lt_of_inIdentifier (h.1 c List.mem_cons_self)
    have hback := toLower_toUpper c.toNat hlt
    obtain ⟨_, _, hu, _⟩ := toLower_cased c.toNat hlt
    rw [Char.ofNat_toNat] at hback hu
    rw [upperFirst, upper_of_lt hlt, List.singleton_append, lowerFirst, lower_of_lt hu,
      hback (h.2 c rfl)]
    rfl

end Text

namespace Accessor

variable {shape : Shape} {segments names : List Text}

def plainId : List Text → List Text
  | [] => []
  | [s] => [if s = idCall then idSegment else s]
  | s :: t :: rest => s :: plainId (t :: rest)

def plainEdges (shape : Shape) (segments : List Text) : List Text :=
  segments.map fun s => if s = shape.edges then edgesSegment else s

theorem readId_ne_nil (h : segments ≠ []) : readId segments ≠ [] := by
  cases segments with
  | nil => exact absurd rfl h
  | cons s rest =>
    cases rest with
    | nil => exact List.cons_ne_nil _ _
    | cons t rest => exact List.cons_ne_nil _ _

theorem plainId_cons (hne : segments ≠ []) (s : Text) :
    plainId (s :: segments) = s :: plainId segments := by
  obtain ⟨t, rest, rfl⟩ := List.exists_cons_of_ne_nil hne
  rfl

theorem plainId_readId (h : idCall ∉ segments) : plainId (readId segments) = segments := by
  induction segments with
  | nil => rfl
  | cons s rest ih =>
    have hs : s ≠ idCall := fun he => h (he ▸ List.mem_cons_self)
    cases rest with
    | nil =>
      rw [readId]
      split
      · next he => rw [plainId, if_pos rfl, he]
      · rw [plainId, if_neg hs]
    | cons t rest =>
      rw [readId, plainId_cons (readId_ne_nil (List.cons_ne_nil t rest)),
        ih fun ht => h (List.mem_cons_of_mem s ht)]

theorem plainEdges_indexEdges (h : shape.edges ∉ segments) :
    plainEdges shape (indexEdges shape segments) = segments := by
  rw [plainEdges, indexEdges, List.map_map]
  refine (List.map_congr_left fun s hs => ?_).trans (List.map_id segments)
  have hne : s ≠ shape.edges := fun he => h (he ▸ hs)
  rw [Function.comp_apply]
  by_cases he : s = edgesSegment
  · rw [if_pos he, if_pos rfl, he]
    rfl
  · rw [if_neg he, if_neg hne]
    rfl

theorem mem_readId {s : Text} (h : s ∈ readId segments) : s ∈ segments ∨ s = idCall := by
  induction segments with
  | nil => cases h
  | cons t rest ih =>
    cases rest with
    | nil =>
      rw [readId, List.mem_singleton] at h
      split at h
      · exact .inr h
      · exact .inl (List.mem_singleton.2 h)
    | cons u rest =>
      rw [readId] at h
      rcases List.mem_cons.1 h with rfl | h
      · exact .inl List.mem_cons_self
      · exact (ih h).imp (List.mem_cons_of_mem t) id

theorem mem_indexEdges {s : Text} (h : s ∈ indexEdges shape segments) :
    s ∈ segments ∨ s = shape.edges := by
  obtain ⟨t, ht, rfl⟩ := List.mem_map.1 h
  split
  · exact .inr rfl
  · exact .inl ht

theorem Shape.edges_apart (shape : Shape) :
    '.' ∉ shape.edges ∧ shape.edges ≠ idCall ∧ ∃ c ∈ shape.edges, inIdentifier c = false := by
  cases shape with
  | list => exact ⟨by decide, by decide, '[', by decide, by decide⟩
  | single => exact ⟨by decide, by decide, '[', by decide, by decide⟩

section

variable (h : ∀ s ∈ segments, ∀ c ∈ s, inIdentifier c = true)

include h

theorem not_mem_of_identifiers {s : Text} (hs : ∃ c ∈ s, inIdentifier c = false) :
    s ∉ segments := by
  obtain ⟨c, hc, hn⟩ := hs
  intro hm
  rw [h s hm c hc] at hn
  cases hn

theorem plainEdges_plainId (shape : Shape) :
    plainEdges shape (plainId (readId (indexEdges shape segments))) = segments := by
  obtain ⟨_, hne, hedges⟩ := shape.edges_apart
  have hid : idCall ∉ indexEdges shape segments := by
    intro hm
    rcases mem_indexEdges hm with hm | he
    · exact not_mem_of_identifiers h ⟨'(', by decide⟩ hm
    · exact hne he.symm
  rw [plainId_readId hid, plainEdges_indexEdges (not_mem_of_identifiers h hedges)]

theorem split_path (hne : segments ≠ []) (shape : Shape) :
    Text.split '.' (path (readId (indexEdges shape segments))) =
      readId (indexEdges shape segments) := by
  apply Text.split_join
  · apply readId_ne_nil
    intro he
    exact hne (List.map_eq_nil_iff.1 he)
  · intro s hs
    rcases mem_readId hs with hs | rfl
    · rcases mem_indexEdges hs with hs | rfl
      · exact fun hc => absurd (h s hs '.' hc) (by decide)
      · exact shape.edges_apart.1
    · decide

end

/-- The names on the path of a field, read off its query path. -/
def Target.namesOn (t : Target) (queryPath : Text) : List Text :=
  (plainEdges t.shape
    (plainId (Text.split '.' (queryPath.drop (t.rootObject.length + 1))))).map Text.lowerFirst

theorem Target.namesOn_queryPath (t : Target) (hne : names ≠ [])
    (h : ∀ name ∈ names, Uncapitalised name) :
    t.namesOn (t.queryPath (names.map Text.upperFirst)) = names := by
  have hsegments : ∀ s ∈ names.map Text.upperFirst, ∀ c ∈ s, inIdentifier c = true := by
    intro s hs
    obtain ⟨name, hn, rfl⟩ := List.mem_map.1 hs
    exact Text.inIdentifier_upperFirst (h name hn).1
  have hsome : names.map Text.upperFirst ≠ [] := fun he => hne (List.map_eq_nil_iff.1 he)
  have hback : ∀ name ∈ names, (Text.lowerFirst ∘ Text.upperFirst) name = name :=
    fun name hn => Text.lowerFirst_upperFirst (h name hn)
  have hroot : (t.rootObject ++ ['.']).length = t.rootObject.length + 1 := List.length_append
  rw [namesOn, queryPath, ← hroot, List.drop_left, split_path hsegments hsome,
    plainEdges_plainId hsegments, List.map_map, List.map_congr_left hback]
  exact List.map_id names

end Accessor
end QueryDescriptor
