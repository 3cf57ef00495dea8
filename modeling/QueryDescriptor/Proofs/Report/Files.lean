import Mathlib.Data.List.Nodup
import QueryDescriptor.Describe
import QueryDescriptor.Proofs.Files.Write

namespace QueryDescriptor.Report

open Files (Path FileTree)
open Files.FileTree (Wrote Extended IsFileName inside isLink)

variable {r : Report} {dir : Path} {t : FileTree} {seen found names : List Text} {name : Text}

theorem repeatsFrom_eq_nil_iff :
    repeatsFrom seen found names = [] ↔
      found = [] ∧ names.Nodup ∧ ∀ name ∈ names, name ∉ seen := by
  induction names generalizing seen found with
  | nil => simp only [repeatsFrom, List.nodup_nil, List.not_mem_nil, false_imp_iff, implies_true,
      and_true]
  | cons name names ih =>
    rw [repeatsFrom, List.nodup_cons, List.forall_mem_cons]
    split
    · next h =>
      rw [ih]
      exact ⟨fun he => absurd he.1 (List.concat_ne_nil name found), fun he => absurd h.1 he.2.2.1⟩
    · next h =>
      rw [ih]
      constructor
      · rintro ⟨rfl, hd, hs⟩
        have hname : name ∉ seen := fun hm => h ⟨hm, List.not_mem_nil⟩
        exact ⟨rfl, ⟨fun hm => hs name hm List.mem_cons_self, hd⟩, hname,
          fun other ho hm => hs other ho (List.mem_cons_of_mem _ hm)⟩
      · rintro ⟨rfl, ⟨hn, hd⟩, _, hs⟩
        refine ⟨rfl, hd, fun other ho hm => ?_⟩
        rcases List.mem_cons.1 hm with rfl | hm
        · exact hn ho
        · exact hs other ho hm

theorem sharedNames_eq_nil_iff (r : Report) :
    r.sharedNames = [] ↔ (r.documents.map (·.name)).Nodup := by
  rw [sharedNames, repeatsFrom_eq_nil_iff]
  exact ⟨fun h => h.2.1, fun h => ⟨rfl, h, fun _ _ => List.not_mem_nil⟩⟩

/-- What a report writes, by file name. -/
def named (r : Report) : List (Text × Text) :=
  r.documents.map (fun d => (descriptorFile d, d.json.pretty)) ++
    [(registrationFile, r.registration.pretty)]

theorem wrote_of_writeDescriptors {documents : List Descriptor}
    (h : (writeDescriptors t dir documents).error = none) :
    Wrote t (inside dir (documents.map fun d => (descriptorFile d, d.json.pretty)))
      (writeDescriptors t dir documents).tree := by
  induction documents generalizing t with
  | nil => exact .nil t
  | cons d rest ih =>
    rw [writeDescriptors] at h ⊢
    dsimp only at h ⊢
    split at h
    · cases h
    · next u hu => exact .cons hu (ih h)

theorem writeText_of_writeRegistration {w : Writing}
    (h : (r.writeRegistration dir w).error = none) :
    w.error = none ∧ w.tree.writeText (Path.child dir registrationFile) r.registration.pretty =
      .ok (r.writeRegistration dir w).tree := by
  rw [writeRegistration] at h ⊢
  split at h
  · next e he =>
    rw [he] at h
    cases h
  · next he =>
    dsimp only at h ⊢
    split at h
    · cases h
    · next u hu => exact ⟨he, hu⟩

theorem wrote_of_write (h : (r.write dir t).error = none) :
    (r.documents.map (·.name)).Nodup ∧
      Wrote (t.makeDirectories dir).1 (inside dir r.named) (r.write dir t).tree := by
  rw [← sharedNames_eq_nil_iff]
  rw [write] at h ⊢
  split at h
  · next hshared =>
    refine ⟨hshared, ?_⟩
    split at h
    · cases h
    · next u hu =>
      obtain ⟨he, hw⟩ := writeText_of_writeRegistration h
      rw [named, inside, List.map_append, hu]
      exact (wrote_of_writeDescriptors he).concat hw
  · cases h

/-- The directory holds each descriptor and the registration as they are written, and nothing else
has changed but for directories that were made. -/
structure Delivered (r : Report) (dir : Path) (t u : FileTree) : Prop where
  descriptors : ∀ d ∈ r.documents,
    u.readText (Path.child dir (descriptorFile d)) = .ok d.json.pretty
  registration : u.readText (Path.child dir registrationFile) = .ok r.registration.pretty
  others : ∀ place, (∀ file ∈ r.named, u.locate (Path.child dir file.1) ≠ .ok place) →
    u.entryAt place = t.entryAt place ∨
      t.entryAt place = none ∧ u.entryAt place = some .directory

theorem isFileName_append_json (h : '/' ∉ name) : IsFileName (name ++ (".json" : Text)) := by
  have hlong : 5 ≤ (name ++ (".json" : Text)).length := by
    rw [List.length_append]
    exact Nat.le_add_left _ _
  have hne : ∀ short : Text, short.length < 5 → name ++ (".json" : Text) ≠ short := by
    intro short hshort he
    rw [he] at hlong
    exact Nat.not_lt.2 hlong hshort
  refine ⟨⟨hne _ (by decide), hne _ (by decide)⟩, hne _ (by decide), fun hm => ?_⟩
  rcases List.mem_append.1 hm with hm | hm
  · exact h hm
  · exact absurd hm (by decide)

theorem isFileName_of_mem_named (hs : ∀ d ∈ r.documents, '/' ∉ d.name) :
    ∀ file ∈ r.named, IsFileName file.1 := by
  intro file hf
  rcases List.mem_append.1 hf with hf | hf
  · obtain ⟨d, hd, rfl⟩ := List.mem_map.1 hf
    exact isFileName_append_json (hs d hd)
  · rw [List.mem_singleton.1 hf]
    have hprovider : '/' ∉ ("provider" : Text) := by decide
    exact isFileName_append_json hprovider

theorem nodup_named (hd : (r.documents.map (·.name)).Nodup)
    (hp : ∀ d ∈ r.documents, d.name ≠ ("provider" : Text)) : (r.named.map (·.1)).Nodup := by
  have hmap : r.named.map (·.1) =
      (r.documents.map (·.name) ++ [("provider" : Text)]).map (· ++ (".json" : Text)) := by
    rw [named, List.map_append, List.map_append, List.map_map, List.map_map]
    rfl
  rw [hmap]
  refine (List.Nodup.append hd (List.nodup_singleton _) ?_).map (List.append_left_injective _)
  rw [List.disjoint_singleton]
  intro hm
  obtain ⟨d, hd, he⟩ := List.mem_map.1 hm
  exact hp d hd he

theorem pretty_ne_registration (d : Descriptor) (r : Report) :
    d.json.pretty ≠ r.registration.pretty := by
  intro h
  have hd : d.json.pretty.take 7 = ("\x7b\n  \"de" : Text) := rfl
  have hr : r.registration.pretty.take 7 = ("\x7b\n  \"da" : Text) := rfl
  rw [h, hr] at hd
  exact absurd hd (by decide)

theorem Delivered.name_ne {u : FileTree} (h : r.Delivered dir t u) {d : Descriptor}
    (hd : d ∈ r.documents) : d.name ≠ ("provider" : Text) := by
  intro hp
  have hf : descriptorFile d = registrationFile := by
    rw [descriptorFile, hp]
    rfl
  have hread := h.descriptors d hd
  rw [hf, h.registration] at hread
  exact pretty_ne_registration d r (Except.ok.inj hread).symm

/-- A report that is written without error, in whose directory no two names are made one file by
links, is there just if no document takes the name of the registration. -/
theorem delivered_iff (h : (r.write dir t).error = none)
    (hs : ∀ d ∈ r.documents, '/' ∉ d.name)
    (hl : (t.makeDirectories dir).1.LinksApart (r.named.map (Path.child dir ·.1))) :
    r.Delivered dir t (r.write dir t).tree ↔ ∀ d ∈ r.documents, d.name ≠ ("provider" : Text) := by
  constructor
  · intro hdel d hd
    exact hdel.name_ne hd
  · intro hp
    obtain ⟨hnames, hw⟩ := wrote_of_write h
    obtain ⟨hr, hread, hframe⟩ := hw.spec_inside (nodup_named hnames hp)
      (isFileName_of_mem_named hs) hl
    refine ⟨fun d hd => ?_, ?_, fun place hplace => ?_⟩
    · exact hread (descriptorFile d, d.json.pretty)
        (List.mem_append_left _ (List.mem_map_of_mem hd))
    · exact hread (registrationFile, r.registration.pretty)
        (List.mem_append_right _ List.mem_cons_self)
    · rw [hframe place fun file hf hp => hplace file hf ((hr.locate_iff _).2 hp)]
      exact Extended.makeDirectories t dir place

def ofTexts (texts : List Text) : Report := ofDocuments (texts.filterMap Descriptor.ofText?)

def groupsText : Text :=
  "query Groups \x7b\n  Group \x7b\n    edges \x7b\n      id\n    \x7d\n  \x7d\n\x7d\n"

def upsertText : Text :=
  "mutation GroupUpsert \x7b\n  Group \x7b\n    edges \x7b\n      id\n    \x7d\n  \x7d\n\x7d\n"

def providerText : Text :=
  "query Provider \x7b\n  Group \x7b\n    edges \x7b\n      id\n    \x7d\n  \x7d\n\x7d\n"

theorem delivered_iff_groups :
    (ofTexts [groupsText, upsertText]).documents.map (·.name) =
        [("groups" : Text), ("groupUpsert" : Text)] ∧
      ((ofTexts [groupsText, upsertText]).write "out" .empty).error = none ∧
      (ofTexts [groupsText, upsertText]).Delivered "out" .empty
        ((ofTexts [groupsText, upsertText]).write "out" .empty).tree := by
  have hn : (ofTexts [groupsText, upsertText]).documents.map (·.name) =
      [("groups" : Text), ("groupUpsert" : Text)] := by decide +kernel
  have he : ((ofTexts [groupsText, upsertText]).write "out" .empty).error = none := by
    decide +kernel
  have hs : ∀ d ∈ (ofTexts [groupsText, upsertText]).documents, '/' ∉ d.name := by
    decide +kernel
  have hnone : ∀ p ∈ (ofTexts [groupsText, upsertText]).named.map (Path.child "out" ·.1),
      (FileTree.empty.makeDirectories "out").1.isLink p = false := by decide +kernel
  have hl : (FileTree.empty.makeDirectories "out").1.LinksApart
      ((ofTexts [groupsText, upsertText]).named.map (Path.child "out" ·.1)) := by
    intro p hp hlink
    rw [hnone p hp] at hlink
    cases hlink
  have hp : ∀ d ∈ (ofTexts [groupsText, upsertText]).documents, d.name ≠ ("provider" : Text) := by
    decide +kernel
  exact ⟨hn, he, (delivered_iff he hs hl).2 hp⟩

/-- Different names without slashes do not suffice: the registration is written over the descriptor
of a document that is named `provider`. -/
theorem not_delivered_provider :
    (ofTexts [providerText]).documents.map (·.name) = [("provider" : Text)] ∧
      ((ofTexts [providerText]).write "out" .empty).error = none ∧
      ¬ (ofTexts [providerText]).Delivered "out" .empty
        ((ofTexts [providerText]).write "out" .empty).tree := by
  have hn : (ofTexts [providerText]).documents.map (·.name) = [("provider" : Text)] := by
    decide +kernel
  refine ⟨hn, by decide +kernel, fun h => ?_⟩
  obtain ⟨d, hd, he⟩ := List.mem_map.1 (hn ▸ List.mem_singleton_self _)
  exact h.name_ne hd he

end QueryDescriptor.Report
