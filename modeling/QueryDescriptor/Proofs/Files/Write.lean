import QueryDescriptor.Proofs.Files.Locate

namespace QueryDescriptor.Files.FileTree

/-- The files were written one after another, each at its path. -/
inductive Wrote : FileTree → List (Path × Text) → FileTree → Prop where
  | nil (t : FileTree) : Wrote t [] t
  | cons {t u v : FileTree} {p : Path} {text : Text} {files : List (Path × Text)} :
    t.writeText p text = .ok u → Wrote u files v → Wrote t ((p, text) :: files) v

variable {t u v : FileTree} {place : Location} {p dir : Path} {text : Text}
  {files : List (Path × Text)} {named : List (Text × Text)}

/-- The second tree is the first with some directories made where nothing stood. -/
def Extended (t u : FileTree) : Prop :=
  ∀ place, u.entryAt place = t.entryAt place ∨
    t.entryAt place = none ∧ u.entryAt place = some .directory

namespace Extended

theorem refl (t : FileTree) : Extended t t := fun _ => .inl rfl

theorem trans (h : Extended t u) (hv : Extended u v) : Extended t v := by
  intro place
  rcases hv place with he | ⟨hnone, hnew⟩
  · rw [he]
    exact h place
  · rcases h place with he | ⟨_, hd⟩
    · exact .inr ⟨he.symm.trans hnone, hnew⟩
    · rw [hd] at hnone
      cases hnone

theorem of_makeDirectory (h : t.makeDirectory p = .ok u) : Extended t u := by
  rw [makeDirectory] at h
  split at h
  · cases h
  · next place hplace =>
    split at h
    · cases h
    · next hnone =>
      cases h
      have hp : place ≠ [] := by
        rintro rfl
        rw [entryAt, if_pos rfl] at hnone
        cases hnone
      intro other
      by_cases ho : other = place
      · rw [ho]
        exact .inr ⟨hnone, entryAt_put_self t _ hp⟩
      · exact .inl (entryAt_put_of_ne t _ ho)

theorem makeMissing (t : FileTree) (missing : List Path) :
    Extended t (t.makeMissing missing).1 := by
  induction missing generalizing t with
  | nil => exact refl t
  | cons p inside ih =>
    rw [FileTree.makeMissing]
    split
    · next u hu => exact (of_makeDirectory hu).trans (ih u)
    · split
      · exact ih t
      · exact refl t

theorem makeOutwards (t : FileTree) (missing outside : List Path) :
    Extended t (t.makeOutwards missing outside).1 := by
  induction outside generalizing missing with
  | nil => exact makeMissing t missing
  | cons p outside ih =>
    rw [FileTree.makeOutwards]
    split
    · next u hu => exact (of_makeDirectory hu).trans (makeMissing u missing)
    · split
      · exact ih (p :: missing)
      split
      · exact makeMissing t missing
      · exact refl t

theorem makeDirectories (t : FileTree) (p : Path) : Extended t (t.makeDirectories p).1 := by
  rw [FileTree.makeDirectories]
  split
  · exact refl t
  · exact makeOutwards t [] (p :: Path.parents p)

end Extended

theorem exists_of_writeText (h : t.writeText p text = .ok u) :
    ∃ place, t.locate p = .ok place ∧ t.entryAt place ≠ some .directory ∧
      u = t.put place (.file (String.ofList text).toUTF8) := by
  rw [writeText, writeBytes] at h
  split at h
  · cases h
  · next place hplace =>
    split at h
    · cases h
    · next hdir =>
      cases h
      exact ⟨place, hplace, hdir, rfl⟩

theorem readText_eq (h : t.locate p = .ok place)
    (he : t.entryAt place = some (.file (String.ofList text).toUTF8)) :
    t.readText p = .ok text := by
  have hs : String.fromUTF8? (String.ofList text).toUTF8 = some (String.ofList text) :=
    dif_pos (String.ofList text).isValidUTF8
  rw [readText, find, h]
  dsimp only
  rw [he]
  dsimp only
  rw [hs]
  dsimp only
  rw [String.toList_ofList]

theorem Wrote.concat (h : Wrote t files u) (hv : u.writeText p text = .ok v) :
    Wrote t (files ++ [(p, text)]) v := by
  induction h with
  | nil t => exact .cons hv (.nil v)
  | cons hw _ ih => exact .cons hw (ih hv)

/-- Where the path leads, if anywhere, is below the root and holds no link. -/
def Plain (t : FileTree) (p : Path) : Prop :=
  ∀ place, t.locate p = .ok place →
    place ≠ [] ∧ ∀ target, t.entryAt place ≠ some (.link target)

def Apart (t : FileTree) (p other : Path) : Prop :=
  ∀ place, t.locate p = .ok place → t.locate other ≠ .ok place

/-- The links under the paths lead to files of their own: to the place of no other path. -/
def LinksApart (t : FileTree) (paths : List Path) : Prop :=
  ∀ p ∈ paths, t.isLink p = true → t.Plain p ∧ ∀ other ∈ paths, other ≠ p → t.Apart p other

theorem rewritten_of_writeText (hw : t.writeText p text = .ok u) (hp : t.Plain p) :
    Rewritten t u ∧ ∃ place, t.locate p = .ok place ∧
      u.entryAt place = some (.file (String.ofList text).toUTF8) ∧
      ∀ other, other ≠ place → u.entryAt other = t.entryAt other := by
  obtain ⟨place, hplace, hdir, rfl⟩ := exists_of_writeText hw
  obtain ⟨hroot, hlink⟩ := hp place hplace
  refine ⟨.put _ hroot ?_, place, hplace, entryAt_put_self t _ hroot,
    fun other ho => entryAt_put_of_ne t _ ho⟩
  cases he : t.entryAt place with
  | none => exact .inl rfl
  | some entry =>
    cases entry with
    | file content => exact .inr ⟨content, rfl⟩
    | directory => exact absurd he hdir
    | link target => exact absurd he (hlink target)

theorem Wrote.spec (h : Wrote t files v) (hplain : ∀ file ∈ files, t.Plain file.1)
    (hapart : files.Pairwise fun file other => t.Apart file.1 other.1) :
    Rewritten t v ∧ (∀ file ∈ files, v.readText file.1 = .ok file.2) ∧
      ∀ place, (∀ file ∈ files, t.locate file.1 ≠ .ok place) →
        v.entryAt place = t.entryAt place := by
  induction h with
  | nil t => exact ⟨.refl t, fun _ hf => absurd hf List.not_mem_nil, fun _ _ => rfl⟩
  | @cons t u v p text files hw _ ih =>
    obtain ⟨hfirst, hapart⟩ := List.pairwise_cons.1 hapart
    obtain ⟨hr, place, hplace, hnew, hold⟩ :=
      rewritten_of_writeText hw (hplain _ List.mem_cons_self)
    -- Where the later paths lead is as it was, since nothing but `place` has changed.
    have hlater : ∀ file ∈ files, u.Plain file.1 := by
      intro file hf other ho
      have ht := (hr.locate_iff _).1 ho
      have hne : other ≠ place := fun he => hfirst file hf place hplace (he ▸ ht)
      rw [hold other hne]
      exact hplain file (List.mem_cons_of_mem _ hf) other ht
    have hpairs : files.Pairwise fun file other => u.Apart file.1 other.1 :=
      hapart.imp fun ha place hl ho => ha place ((hr.locate_iff _).1 hl) ((hr.locate_iff _).1 ho)
    obtain ⟨hrest, hread, hframe⟩ := ih hlater hpairs
    have hwhole := hr.trans hrest
    refine ⟨hwhole, ?_, ?_⟩
    · intro file hf
      rcases List.mem_cons.1 hf with rfl | hf
      · refine readText_eq ((hwhole.locate_iff _).2 hplace) ?_
        rw [hframe place fun file hf ho => hfirst file hf place hplace ((hr.locate_iff _).1 ho)]
        exact hnew
      · exact hread file hf
    · intro other ho
      have hne : other ≠ place := fun he => ho _ List.mem_cons_self (he ▸ hplace)
      rw [hframe other fun file hf hl =>
        ho file (List.mem_cons_of_mem _ hf) ((hr.locate_iff _).1 hl), hold other hne]

def inside (dir : Path) (named : List (Text × Text)) : List (Path × Text) :=
  named.map fun file => (Path.child dir file.1, file.2)

structure IsFileName (name : Text) : Prop where
  entryName : IsEntryName name
  ne_nil : name ≠ []
  no_slash : '/' ∉ name

theorem child_injective (dir : Path) : Function.Injective (Path.child dir) := by
  intro name other h
  rw [Path.child, Path.child] at h
  split at h
  · exact List.append_cancel_left h
  · exact (List.cons_eq_cons.1 (List.append_cancel_left h)).2

theorem apart_child {name other : Text} {paths : List Path} (hl : t.LinksApart paths)
    (hp : Path.child dir name ∈ paths) (hq : Path.child dir other ∈ paths)
    (hn : IsFileName name) (ho : IsFileName other) (hne : name ≠ other) :
    t.Apart (Path.child dir name) (Path.child dir other) := by
  have hpaths : Path.child dir name ≠ Path.child dir other := (child_injective dir).ne hne
  intro place hplace hother
  cases hlink : t.isLink (Path.child dir name) with
  | true => exact (hl _ hp hlink).2 _ hq hpaths.symm place hplace hother
  | false =>
    cases hlink' : t.isLink (Path.child dir other) with
    | true => exact (hl _ hq hlink').2 _ hp hpaths place hother hplace
    | false =>
      obtain ⟨⟨above, rfl⟩, _⟩ :=
        exists_of_locate_child hn.entryName hn.ne_nil hn.no_slash hplace hlink
      obtain ⟨⟨below, he⟩, _⟩ :=
        exists_of_locate_child ho.entryName ho.ne_nil ho.no_slash hother hlink'
      exact hne (List.singleton_inj.1 (List.append_inj_right' he rfl))

theorem plain_child {name : Text} {paths : List Path} (hl : t.LinksApart paths)
    (hp : Path.child dir name ∈ paths) (hn : IsFileName name) : t.Plain (Path.child dir name) := by
  cases hlink : t.isLink (Path.child dir name) with
  | true => exact (hl _ hp hlink).1
  | false =>
    intro place hplace
    obtain ⟨⟨above, rfl⟩, hnot⟩ :=
      exists_of_locate_child hn.entryName hn.ne_nil hn.no_slash hplace hlink
    exact ⟨List.concat_ne_nil name above, hnot⟩

theorem Wrote.spec_inside (h : Wrote t (inside dir named) v)
    (hd : (named.map (·.1)).Nodup) (hn : ∀ file ∈ named, IsFileName file.1)
    (hl : t.LinksApart (named.map (Path.child dir ·.1))) :
    Rewritten t v ∧ (∀ file ∈ named, v.readText (Path.child dir file.1) = .ok file.2) ∧
      ∀ place, (∀ file ∈ named, t.locate (Path.child dir file.1) ≠ .ok place) →
        v.entryAt place = t.entryAt place := by
  have hplain : ∀ file ∈ inside dir named, t.Plain file.1 := by
    intro _ hf
    obtain ⟨file, hm, rfl⟩ := List.mem_map.1 hf
    exact plain_child hl (List.mem_map_of_mem hm) (hn file hm)
  have hapart : (inside dir named).Pairwise fun file other => t.Apart file.1 other.1 := by
    refine List.pairwise_map.2 ((List.pairwise_map.1 hd).imp_of_mem ?_)
    intro file other hf ho hne
    exact apart_child hl (List.mem_map_of_mem hf) (List.mem_map_of_mem ho) (hn file hf)
      (hn other ho) hne
  obtain ⟨hr, hread, hframe⟩ := h.spec hplain hapart
  refine ⟨hr, fun file hf => hread _ (List.mem_map_of_mem hf), fun place hp => hframe place ?_⟩
  intro _ hf
  obtain ⟨file, hm, rfl⟩ := List.mem_map.1 hf
  exact hp file hm

end QueryDescriptor.Files.FileTree
