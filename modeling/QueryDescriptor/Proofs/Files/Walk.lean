import QueryDescriptor.Files.Walk
import QueryDescriptor.Proofs.Files.Components

namespace QueryDescriptor.Files

def Entry.isLink : Entry → Bool
  | .link _ => true
  | _ => false

namespace FileTree

variable {t : FileTree} {place next goal : Location} {name : Text} {names : List Text} {e : Entry}
  {p : Path} {content : ByteArray}

theorem find_eq_ok_iff :
    t.find p = .ok (place, e) ↔ t.locate p = .ok place ∧ t.entryAt place = some e := by
  rw [find]
  constructor
  · intro h
    split at h
    · cases h
    · next hl =>
      split at h
      · cases h
      · next he =>
        cases h
        exact ⟨hl, he⟩
  · rintro ⟨hl, he⟩
    rw [hl]
    dsimp only
    rw [he]

theorem hasDirectory_iff : t.hasDirectory place = true ↔ t.entryAt place = some .directory := by
  rw [hasDirectory]
  constructor
  · intro h
    split at h
    · next he => exact he
    · cases h
  · intro he
    rw [he]

/-- A directory tree: no links, every entry in a directory and under a name of a file. -/
structure LinkFree (t : FileTree) : Prop where
  no_link : ∀ place target, t.entryAt place ≠ some (.link target)
  inside : ∀ place name e, t.entryAt (place ++ [name]) = some e →
    t.entryAt place = some .directory
  fileName : ∀ place name e, t.entryAt (place ++ [name]) = some e → IsFileName name

instance : DecidablePred IsFileName := fun name =>
  decidable_of_iff ((name ≠ ['.'] ∧ name ≠ ['.', '.']) ∧ name ≠ [] ∧ '/' ∉ name)
    ⟨fun h => ⟨h.1, h.2.1, h.2.2⟩, fun h => ⟨h.entryName, h.ne_nil, h.no_slash⟩⟩

theorem mem_locations_iff : place ∈ t.locations ↔ ∃ e, t.entryAt place = some e := by
  constructor
  · intro h
    by_cases hp : place = []
    · exact ⟨.directory, by rw [hp]; rfl⟩
    · rw [entryAt, if_neg hp, ← Option.isSome_iff_exists, List.lookup_isSome_iff]
      obtain ⟨item, hi, rfl⟩ := List.mem_map.1 ((List.mem_cons.1 h).resolve_left hp)
      exact ⟨item, hi, beq_self_eq_true _⟩
  · rintro ⟨e, he⟩
    exact mem_locations_of_entryAt he

theorem mem_children_iff : name ∈ t.children place ↔ ∃ e, t.entryAt (place ++ [name]) = some e := by
  rw [children, List.mem_mergeSort, List.mem_eraseDups, List.mem_filterMap, ← mem_locations_iff]
  constructor
  · rintro ⟨⟨at_, e⟩, hm, h⟩
    dsimp only at h
    split at h
    · next hd =>
      rw [← hd, List.dropLast_append_getLast? name h]
      exact List.mem_cons_of_mem _ (List.mem_map_of_mem hm)
    · cases h
  · intro h
    rcases List.mem_cons.1 h with h | h
    · exact absurd h (List.concat_ne_nil name place)
    · obtain ⟨⟨at_, e⟩, hm, rfl⟩ := List.mem_map.1 h
      refine ⟨_, hm, ?_⟩
      dsimp only
      rw [List.dropLast_concat, if_pos rfl, List.getLast?_concat]

theorem nodup_eraseDups (names : List Text) : names.eraseDups.Nodup := by
  cases names with
  | nil => exact List.nodup_nil
  | cons first rest =>
    rw [List.eraseDups_cons, List.nodup_cons, List.mem_eraseDups, List.mem_filter]
    refine ⟨fun h => ?_, nodup_eraseDups _⟩
    rw [beq_self_eq_true] at h
    cases h.2
termination_by names.length
decreasing_by exact Nat.lt_succ_of_le (List.length_filter_le _ rest)

theorem pairwise_mergeSort {names : List Text} (h : names.Nodup) :
    (names.mergeSort fun a b => decide (a ≤ b)).Pairwise (· < ·) := by
  have hle : (names.mergeSort fun a b => decide (a ≤ b)).Pairwise
      fun a b => decide (a ≤ b) = true := by
    apply List.pairwise_mergeSort
    · intro a b c hab hbc
      exact decide_eq_true (List.le_trans (of_decide_eq_true hab) (of_decide_eq_true hbc))
    · intro a b
      rw [Bool.or_eq_true]
      exact (List.le_total a b).imp decide_eq_true decide_eq_true
  refine hle.imp₂ ?_ ((List.mergeSort_perm names _).nodup_iff.2 h)
  intro a b hab hne
  by_contra hlt
  exact hne (List.le_antisymm (of_decide_eq_true hab) hlt)

theorem pairwise_children (t : FileTree) (place : Location) :
    (t.children place).Pairwise (· < ·) :=
  pairwise_mergeSort (nodup_eraseDups _)

/-- What holds of a directory as soon as it holds of the directories in it holds of all. -/
theorem directory_induction
    {motive : ∀ place, t.entryAt place = some .directory → Prop}
    (step : ∀ place h, (∀ name ∈ t.children place,
      ∀ hn : t.entryAt (place ++ [name]) = some .directory, motive (place ++ [name]) hn) →
        motive place h)
    (place : Location) (h : t.entryAt place = some .directory) : motive place h := by
  induction hn : depthBound t.locations - place.length using Nat.strong_induction_on
    generalizing place with
  | _ n ih =>
    refine step place h fun name _ hname => ?_
    have hle := length_le_depthBound (mem_locations_of_entryAt hname)
    rw [List.length_append, List.length_singleton] at hle
    refine ih _ ?_ _ hname rfl
    rw [← hn, List.length_append, List.length_singleton]
    omega

namespace LinkFree

theorem of_entries (h : ∀ item ∈ t.entries, item.2.isLink = false ∧
    t.hasDirectory item.1.dropLast = true ∧ ∀ name ∈ item.1.getLast?, IsFileName name) :
    t.LinkFree := by
  have hentry : ∀ place e, t.entryAt place = some e → place = [] ∧ e = .directory ∨
      e.isLink = false ∧ t.hasDirectory place.dropLast = true ∧
        ∀ name ∈ place.getLast?, IsFileName name := by
    intro place e he
    by_cases hp : place = []
    · rw [entryAt, if_pos hp] at he
      exact .inl ⟨hp, (Option.some.inj he).symm⟩
    · rw [entryAt, if_neg hp, List.lookup_eq_some_iff] at he
      obtain ⟨above, below, hl, _⟩ := he
      exact .inr (h (place, e) (hl ▸ List.mem_append_right _ List.mem_cons_self))
  have hbelow : ∀ place name e, t.entryAt (place ++ [name]) = some e →
      t.hasDirectory place = true ∧ IsFileName name := by
    intro place name e he
    obtain ⟨_, hd, hn⟩ := (hentry _ _ he).resolve_left fun hp => List.concat_ne_nil name place hp.1
    rw [List.dropLast_concat] at hd
    exact ⟨hd, hn name List.getLast?_concat⟩
  constructor
  · intro place target he
    rcases hentry _ _ he with ⟨_, hd⟩ | ⟨hlink, _⟩
    · cases hd
    · cases hlink
  · exact fun place name e he => hasDirectory_iff.1 (hbelow place name e he).1
  · exact fun place name e he => (hbelow place name e he).2

theorem exists_above (ht : t.LinkFree) (h : t.entryAt (place ++ names) = some e) :
    ∃ above, t.entryAt place = some above := by
  induction names using List.reverseRecOn generalizing e with
  | nil => exact ⟨e, by rw [← h, List.append_nil]⟩
  | append_singleton names name ih =>
    rw [← List.append_assoc] at h
    exact ih (ht.inside _ _ _ h)

theorem directory_above (ht : t.LinkFree) (hn : names ≠ [])
    (h : t.entryAt (place ++ names) = some e) : t.entryAt place = some .directory := by
  obtain ⟨first, rest, rfl⟩ := List.exists_cons_of_ne_nil hn
  rw [List.append_cons] at h
  obtain ⟨_, he⟩ := ht.exists_above h
  exact ht.inside _ _ _ he

theorem isFileName_of_mem (ht : t.LinkFree) (h : t.entryAt (place ++ names) = some e) :
    ∀ name ∈ names, IsFileName name := by
  intro name hn
  obtain ⟨left, right, rfl⟩ := List.append_of_mem hn
  rw [← List.append_assoc, List.append_cons] at h
  obtain ⟨_, he⟩ := ht.exists_above h
  exact ht.fileName _ _ _ he

theorem exists_file (ht : t.LinkFree) (hn : name ∈ t.children place)
    (hd : ¬ t.hasDirectory (place ++ [name]) = true) :
    ∃ content, t.entryAt (place ++ [name]) = some (.file content) := by
  obtain ⟨e, he⟩ := mem_children_iff.1 hn
  cases e with
  | file content => exact ⟨content, he⟩
  | directory =>
    rw [hasDirectory, he] at hd
    exact absurd rfl hd
  | link target => exact absurd he (ht.no_link _ target)

theorem finding_eq (ht : t.LinkFree) (hn : name ∈ t.children place)
    (inside : List (Path × Location)) (path : Path) :
    t.finding inside place name path =
      if t.hasDirectory (place ++ [name]) then .directory (place ++ [name]) else .file := by
  obtain ⟨e, he⟩ := mem_children_iff.1 hn
  rw [finding, hasDirectory, he]
  cases e with
  | file content => rfl
  | directory => rfl
  | link target => exact absurd he (ht.no_link _ target)

theorem visitsIn_eq (ht : t.LinkFree) (above : List (Path × Location)) (path : Path)
    (place : Location) :
    t.visitsIn above path place = (t.children place).flatMap fun name =>
      if t.hasDirectory (place ++ [name]) then
        .directory (Path.child path name) ::
          t.visitsIn ((path, place) :: above) (Path.child path name) (place ++ [name])
      else [.file (Path.child path name)] := by
  rw [visitsIn]
  apply List.flatMap_congr
  intro name hn
  have hf := ht.finding_eq hn ((path, place) :: above) (Path.child path name)
  dsimp only
  by_cases hd : t.hasDirectory (place ++ [name])
  · rw [if_pos hd] at hf ⊢
    split
    · next h =>
      rw [hf] at h
      cases h
    · next h =>
      rw [hf] at h
      cases h
      rfl
    · next h =>
      rw [hf] at h
      cases h
  · rw [if_neg hd] at hf ⊢
    split
    · rfl
    · next h =>
      rw [hf] at h
      cases h
    · next h =>
      rw [hf] at h
      cases h

end LinkFree

theorem turn_there (h : t.turn place name = .there next) :
    t.entryAt place = some .directory ∧
      (IsEntryName name ∧ next = place ++ [name] ∨ next = place ∨ next = place.dropLast) := by
  rw [turn] at h
  split at h
  · cases h
  next hd =>
  rw [Bool.not_eq_true', Bool.not_eq_false] at hd
  refine ⟨hasDirectory_iff.1 hd, ?_⟩
  split at h
  · cases h
    exact .inr (.inl rfl)
  next hdot =>
  split at h
  · cases h
    exact .inr (.inr rfl)
  next hup =>
  split at h
  · cases h
  split at h
  · cases h
  · cases h
  · cases h
    exact .inl ⟨⟨hdot, hup⟩, rfl⟩

namespace LinkFree

theorem turn_ne_link (ht : t.LinkFree) (place : Location) (name : Text) (target : Path) :
    t.turn place name ≠ .link target := by
  intro hturn
  have hlink := t.turn_spec place name
  rw [hturn] at hlink
  exact ht.no_link _ target hlink

theorem dropLast_directory (ht : t.LinkFree) (h : t.entryAt place = some e) :
    t.entryAt place.dropLast = some .directory := by
  rcases List.eq_nil_or_concat place with rfl | ⟨above, name, rfl⟩
  · rfl
  · rw [List.concat_eq_append] at h ⊢
    rw [List.dropLast_concat]
    exact ht.inside _ _ _ h

theorem exists_of_descend (ht : t.LinkFree)
    {follow : Location → Path → List Text → Except SystemFault Location}
    (h : t.descend true follow place (names ++ [name]) = .ok goal)
    (hg : t.entryAt goal = some (.file content)) :
    IsEntryName name ∧ ∃ above, goal = above ++ [name] := by
  induction names generalizing place with
  | nil =>
    rw [List.nil_append, descend_cons] at h
    cases hturn : t.turn place name with
    | fault f =>
      rw [hturn] at h
      cases h
    | there next =>
      rw [hturn] at h
      cases h
      obtain ⟨hd, ⟨hn, rfl⟩ | rfl | rfl⟩ := turn_there hturn
      · exact ⟨hn, place, rfl⟩
      · rw [hd] at hg
        cases hg
      · rw [ht.dropLast_directory hd] at hg
        cases hg
    | missing =>
      have hnone := t.turn_spec place name
      rw [hturn] at h hnone
      cases h
      rw [hnone] at hg
      cases hg
    | link target => exact absurd hturn (ht.turn_ne_link place name target)
  | cons first rest ih =>
    rw [List.cons_append, descend_cons] at h
    cases hturn : t.turn place first with
    | fault f =>
      rw [hturn] at h
      cases h
    | there next =>
      rw [hturn] at h
      exact ih h
    | missing =>
      rw [hturn] at h
      dsimp only at h
      rw [if_neg (List.concat_ne_nil name rest)] at h
      cases h
    | link target => exact absurd hturn (ht.turn_ne_link place first target)

theorem exists_of_find (ht : t.LinkFree) (h : t.find p = .ok (place, .file content)) :
    ∃ above name, place = above ++ [name] ∧ Path.fileName? p = some name := by
  obtain ⟨hl, he⟩ := find_eq_ok_iff.1 h
  obtain ⟨hp, hd⟩ := locateBy_eq_ok_iff.1 hl
  obtain ⟨names, name, hsteps⟩ :=
    (List.eq_nil_or_concat (steps p)).resolve_left (steps_ne_nil hp.2.1)
  rw [List.concat_eq_append] at hsteps
  rw [hsteps, linkLimit, descendThrough] at hd
  obtain ⟨hn, above, rfl⟩ := ht.exists_of_descend hd he
  exact ⟨above, name, rfl, Path.fileName?_of_steps hsteps hn⟩

theorem find_cases (ht : t.LinkFree) (h : ∃ found, t.find p = .ok found) :
    (∃ place, t.find p = .ok (place, .directory)) ∨
      ∃ above name content, t.find p = .ok (above ++ [name], .file content) ∧
        Path.fileName? p = some name := by
  obtain ⟨⟨place, e⟩, h⟩ := h
  cases e with
  | file content =>
    obtain ⟨above, name, rfl, hn⟩ := ht.exists_of_find h
    exact .inr ⟨above, name, content, h, hn⟩
  | directory => exact .inl ⟨place, h⟩
  | link target => exact absurd (find_eq_ok_iff.1 h).2 (ht.no_link place target)

end LinkFree
end FileTree
end QueryDescriptor.Files
