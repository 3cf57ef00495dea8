import Mathlib
import QueryDescriptor.Discovery
import QueryDescriptor.Proofs.Files.Walk

namespace QueryDescriptor

open Files (Path FileTree Location Visit)
open Files.FileTree (find_eq_ok_iff mem_children_iff hasDirectory_iff)

theorem Files.Path.extensionOf?_eq_some_iff {name ending : Text} :
    extensionOf? name = some ending ↔
      ∃ stem, stem ≠ [] ∧ name = stem ++ '.' :: ending ∧ '.' ∉ ending := by
  constructor
  · intro h
    have hparts := List.takeWhile_append_dropWhile (p := (· != '.')) (l := name.reverse)
    have hhead := List.head?_dropWhile_not (· != '.') name.reverse
    rw [extensionOf?] at h
    cases hd : name.reverse.dropWhile (· != '.') with
    | nil =>
      rw [hd] at h
      cases h
    | cons c stem =>
      rw [hd] at h hparts hhead
      have hc : c = '.' := bne_eq_false_iff_eq.1 hhead
      cases stem with
      | nil => cases h
      | cons d stem =>
        cases h
        refine ⟨(d :: stem).reverse, mt List.reverse_eq_nil_iff.1 (List.cons_ne_nil d stem), ?_, ?_⟩
        · have hname := congrArg List.reverse hparts
          rw [hc, List.reverse_append, List.reverse_cons, List.append_assoc,
            List.reverse_reverse] at hname
          exact hname.symm
        · rw [List.mem_reverse]
          intro hm
          cases List.mem_takeWhile_imp hm
  · rintro ⟨stem, hs, rfl, he⟩
    obtain ⟨d, rest, hr⟩ := List.exists_cons_of_ne_nil (mt List.reverse_eq_nil_iff.1 hs)
    have hname : (stem ++ '.' :: ending).reverse = ending.reverse ++ '.' :: d :: rest := by
      rw [List.reverse_append, List.reverse_cons, hr, List.append_assoc]
      rfl
    have hall : ∀ c ∈ ending.reverse, (c != '.') = true := by
      intro c hc
      rw [bne_iff_ne]
      rintro rfl
      exact he (List.mem_reverse.1 hc)
    have hdrop : ('.' :: d :: rest).dropWhile (· != '.') = '.' :: d :: rest := rfl
    have htake : ('.' :: d :: rest).takeWhile (· != '.') = [] := rfl
    rw [extensionOf?, hname, List.dropWhile_append_of_pos hall, List.takeWhile_append_of_pos hall,
      hdrop, htake, List.append_nil, List.reverse_reverse]

namespace Discovery

variable {t : FileTree} {extensions : List Text} {path arg p : Path} {place : Location}
  {name : Text} {content : ByteArray}

/-- A listed extension without the dot that it may start with. -/
def undotted : Text → Text
  | '.' :: rest => rest
  | listed => listed

/-- What follows the last dot of the name is listed, and that dot is not its first character. -/
def Matches (extensions : List Text) (name : Text) : Prop :=
  ∃ stem ending listed, stem ≠ [] ∧ name = stem ++ '.' :: ending ∧ '.' ∉ ending ∧
    listed ∈ extensions ∧ undotted listed = ending

theorem dotted_eq_iff {listed ending : Text} :
    dotted listed = '.' :: ending ↔ undotted listed = ending := by
  rw [dotted, undotted.eq_def]
  split
  · next hp =>
    obtain ⟨rest, rfl⟩ := List.isPrefixOf_iff_prefix.1 hp
    exact ⟨fun h => (List.cons.inj h).2, fun h => congrArg ('.' :: ·) h⟩
  · next hp =>
    split
    · exact absurd rfl hp
    · exact ⟨fun h => (List.cons.inj h).2, fun h => congrArg ('.' :: ·) h⟩

theorem matchesAny_iff (h : Path.fileName? path = some name) :
    matchesAny extensions path = true ↔ Matches extensions name := by
  rw [matchesAny, Path.extension?, h, Option.bind_some]
  constructor
  · intro hm
    split at hm
    · next ending he =>
      obtain ⟨stem, hs, hname, hdot⟩ := Path.extensionOf?_eq_some_iff.1 he
      obtain ⟨listed, hl, hd⟩ := List.mem_map.1 (List.contains_iff_mem.1 hm)
      exact ⟨stem, ending, listed, hs, hname, hdot, hl, dotted_eq_iff.1 hd⟩
    · cases hm
  · rintro ⟨stem, ending, listed, hs, hname, hdot, hl, hd⟩
    rw [Path.extensionOf?_eq_some_iff.2 ⟨stem, hs, hname, hdot⟩]
    exact List.contains_iff_mem.2 (List.mem_map.2 ⟨listed, hl, dotted_eq_iff.2 hd⟩)

/-- The paths are those of the files at or under a place whose names match, in order; `path` leads
to the place. -/
structure Collected (t : FileTree) (extensions : List Text) (path : Path) (place : Location)
    (found : List Path) : Prop where
  mem_iff : ∀ p, p ∈ found ↔ ∃ names name content,
    p = names.foldl Path.child path ∧ t.entryAt (place ++ names) = some (.file content) ∧
      (place ++ names).getLast? = some name ∧ Matches extensions name
  sorted : found.Pairwise Path.Precedes

theorem collected_file (ht : t.LinkFree) (he : t.entryAt place = some (.file content))
    (hl : place.getLast? = some name) (hp : Path.fileName? path = some name) :
    Collected t extensions path place (if matchesAny extensions path then [path] else []) where
  mem_iff p := by
    rw [List.mem_ite_nil_right, List.mem_singleton, matchesAny_iff hp]
    constructor
    · rintro ⟨hm, rfl⟩
      exact ⟨[], name, content, rfl, by rw [List.append_nil, he], by rw [List.append_nil, hl], hm⟩
    · rintro ⟨names, last, _, rfl, hf, hlast, hm⟩
      by_cases hn : names = []
      · rw [hn, List.append_nil, hl] at hlast
        cases hlast
        rw [hn]
        exact ⟨hm, rfl⟩
      · rw [ht.directory_above hn hf] at he
        cases he
  sorted := by
    split
    · exact List.pairwise_singleton _ _
    · exact List.Pairwise.nil

theorem collected_directory (ht : t.LinkFree) (hd : t.entryAt place = some .directory)
    {found : Text → List Path} (hf : ∀ name ∈ t.children place,
      Collected t extensions (Path.child path name) (place ++ [name]) (found name)) :
    Collected t extensions path place ((t.children place).flatMap found) where
  mem_iff p := by
    rw [List.mem_flatMap]
    constructor
    · rintro ⟨first, hfirst, hp⟩
      obtain ⟨names, name, content, rfl, he, hl, hm⟩ := ((hf first hfirst).mem_iff p).1 hp
      rw [← List.append_cons] at he hl
      exact ⟨first :: names, name, content, rfl, he, hl, hm⟩
    · rintro ⟨names, name, content, rfl, he, hl, hm⟩
      cases names with
      | nil =>
        rw [List.append_nil, hd] at he
        cases he
      | cons first names =>
        rw [List.append_cons] at he hl
        have hfirst := mem_children_iff.2 (ht.exists_above he)
        refine ⟨first, hfirst, ((hf first hfirst).mem_iff _).2 ?_⟩
        exact ⟨names, name, content, rfl, he, hl, hm⟩
  sorted := by
    rw [List.pairwise_flatMap]
    refine ⟨fun name hn => (hf name hn).sorted, ?_⟩
    apply (FileTree.pairwise_children t place).imp_of_mem
    intro a b ha hb hlt p hp q hq
    obtain ⟨left, _, _, rfl, he, _⟩ := ((hf a ha).mem_iff p).1 hp
    obtain ⟨right, _, _, rfl, ho, _⟩ := ((hf b hb).mem_iff q).1 hq
    rw [← List.append_cons] at he ho
    exact Path.precedes_of_lt path hlt (ht.isFileName_of_mem he) (ht.isFileName_of_mem ho)

theorem filterMap_file (extensions : List Text) (path : Path) :
    [Visit.file path].filterMap (document? extensions) =
      if matchesAny extensions path then [path] else [] := by
  cases h : matchesAny extensions path with
  | true => simp only [List.filterMap_cons, List.filterMap_nil, document?, h, if_true]
  | false =>
    simp only [List.filterMap_cons, List.filterMap_nil, document?, h, if_false,
      Bool.false_eq_true]

theorem collected_visitsIn (ht : t.LinkFree) (hd : t.entryAt place = some .directory)
    (above : List (Path × Location)) (path : Path) :
    Collected t extensions path place
      ((t.visitsIn above path place).filterMap (document? extensions)) := by
  induction place, hd using FileTree.directory_induction generalizing above path with
  | step place hd ih =>
    rw [ht.visitsIn_eq, List.filterMap_flatMap]
    apply collected_directory ht hd
    intro name hname
    by_cases hdir : t.hasDirectory (place ++ [name])
    · rw [if_pos hdir]
      exact ih name hname (hasDirectory_iff.1 hdir) _ _
    · obtain ⟨content, he⟩ := ht.exists_file hname hdir
      have hn := ht.fileName _ _ _ he
      rw [if_neg hdir, filterMap_file]
      exact collected_file ht he List.getLast?_concat (Path.fileName?_child path hn)

theorem faults_visitsIn (ht : t.LinkFree) (hd : t.entryAt place = some .directory)
    (above : List (Path × Location)) (path : Path) :
    (t.visitsIn above path place).filterMap fault? = [] := by
  induction place, hd using FileTree.directory_induction generalizing above path with
  | step place hd ih =>
    rw [ht.visitsIn_eq, List.filterMap_flatMap, List.flatMap_eq_nil_iff]
    intro name hname
    split
    · next hdir => exact ih name hname (hasDirectory_iff.1 hdir) _ _
    · rfl

inductive Contribution (t : FileTree) (extensions : List Text) : Path → List Path → Prop where
  | directory {arg : Path} {place : Location} {found : List Path} :
    t.find arg = .ok (place, .directory) → Collected t extensions arg place found →
      Contribution t extensions arg found
  | listed {arg : Path} {above : Location} {name : Text} {content : ByteArray} :
    t.find arg = .ok (above ++ [name], .file content) → Matches extensions name →
      Contribution t extensions arg [arg]
  | unlisted {arg : Path} {above : Location} {name : Text} {content : ByteArray} :
    t.find arg = .ok (above ++ [name], .file content) → ¬ Matches extensions name →
      Contribution t extensions arg []

theorem walk_of_directory (h : t.find arg = .ok (place, .directory)) :
    t.walk arg = .directory arg :: t.visitsIn [] arg place := by
  rw [FileTree.walk, h]

theorem walk_of_file (h : t.find arg = .ok (place, .file content)) :
    t.walk arg = [.file arg] := by
  rw [FileTree.walk, h]

theorem isFile_iff :
    t.isFile arg = true ↔ ∃ place content, t.find arg = .ok (place, .file content) := by
  rw [FileTree.isFile]
  split
  · next place content h => exact ⟨fun _ => ⟨place, content, h⟩, fun _ => rfl⟩
  · next hn => exact ⟨nofun, fun ⟨place, content, h⟩ => absurd h (hn place content)⟩

theorem contribution_walk (ht : t.LinkFree) (h : ∃ found, t.find arg = .ok found) :
    Contribution t extensions arg ((t.walk arg).filterMap (document? extensions)) := by
  rcases ht.find_cases h with ⟨place, hd⟩ | ⟨above, name, content, hf, hn⟩
  · rw [walk_of_directory hd]
    exact .directory hd (collected_visitsIn ht (find_eq_ok_iff.1 hd).2 [] arg)
  · rw [walk_of_file hf, filterMap_file]
    by_cases hm : Matches extensions name
    · rw [if_pos ((matchesAny_iff hn).2 hm)]
      exact .listed hf hm
    · rw [if_neg (mt (matchesAny_iff hn).1 hm)]
      exact .unlisted hf hm

theorem faults_walk (ht : t.LinkFree) (h : ∃ found, t.find arg = .ok found) :
    (t.walk arg).filterMap fault? = [] := by
  rcases ht.find_cases h with ⟨place, hd⟩ | ⟨above, name, content, hf, _⟩
  · rw [walk_of_directory hd]
    exact faults_visitsIn ht (find_eq_ok_iff.1 hd).2 [] arg
  · rw [walk_of_file hf]
    rfl

theorem documents_ofWalks (t : FileTree) (extensions : List Text) (paths : List Path) :
    (ofWalks extensions (paths.map fun p => (p, t.walk p))).documents =
      (paths.map fun p => (t.walk p).filterMap (document? extensions)).flatten := by
  rw [ofWalks]
  dsimp only
  rw [List.flatMap_map, List.flatMap_def]

theorem faults_search (t : FileTree) (extensions : List Text) (paths : List Path) :
    (search t extensions paths).faults =
      paths.flatMap fun p => (t.walk p).filterMap fault? := by
  have hwalks : (ofWalks extensions (paths.map fun p => (p, t.walk p))).faults =
      paths.flatMap fun p => (t.walk p).filterMap fault? := List.flatMap_map _ _ _
  unfold search
  dsimp only
  split
  · split
    · exact hwalks
    · exact hwalks
  · exact hwalks

theorem documents_search_file (h : t.find arg = .ok (place, .file content)) :
    (search t extensions [arg]).documents = [arg] := by
  have hdocuments := documents_ofWalks t extensions [arg]
  rw [List.map_singleton, List.map_singleton, List.flatten_singleton, walk_of_file h,
    filterMap_file] at hdocuments
  unfold search
  dsimp only
  rw [List.map_singleton, walk_of_file h]
  split
  · next hone =>
    cases hone
    rw [if_pos (isFile_iff.2 ⟨place, content, h⟩)]
  · next hnot =>
    rw [hdocuments] at hnot ⊢
    split
    · rfl
    · next hm => exact absurd rfl (hnot arg (if_neg hm))

theorem documents_search_of_ne {paths : List Path}
    (hn : ∀ arg place content, paths = [arg] → t.find arg ≠ .ok (place, .file content)) :
    (search t extensions paths).documents =
      (paths.map fun p => (t.walk p).filterMap (document? extensions)).flatten := by
  rw [← documents_ofWalks]
  unfold search
  dsimp only
  split
  · rw [if_neg]
    intro hf
    obtain ⟨place, content, h⟩ := isFile_iff.1 hf
    exact hn _ place content rfl h
  · rfl

/-- The documents of a search: a file that is the only argument, or all contributions in order. -/
inductive Answers (t : FileTree) (extensions : List Text) : List Path → List Path → Prop where
  | single {arg : Path} {place : Location} {content : ByteArray} :
    t.find arg = .ok (place, .file content) → Answers t extensions [arg] [arg]
  | together {paths : List Path} {found : List (List Path)} :
    (∀ arg place content, paths = [arg] → t.find arg ≠ .ok (place, .file content)) →
      List.Forall₂ (Contribution t extensions) paths found →
        Answers t extensions paths found.flatten

/-- A search in a directory tree whose arguments are there meets no fault, and finds just the
documents at or under them. -/
theorem search_complete (ht : t.LinkFree) {paths : List Path}
    (hp : ∀ arg ∈ paths, ∃ found, t.find arg = .ok found) :
    (search t extensions paths).faults = [] ∧
      Answers t extensions paths (search t extensions paths).documents := by
  constructor
  · rw [faults_search, List.flatMap_eq_nil_iff]
    exact fun arg ha => faults_walk ht (hp arg ha)
  by_cases hsingle : ∃ arg place content, paths = [arg] ∧ t.find arg = .ok (place, .file content)
  · obtain ⟨arg, place, content, rfl, h⟩ := hsingle
    rw [documents_search_file h]
    exact .single h
  · have hn : ∀ arg place content, paths = [arg] → t.find arg ≠ .ok (place, .file content) :=
      fun arg place content he h => hsingle ⟨arg, place, content, he, h⟩
    rw [documents_search_of_ne hn]
    refine .together hn ?_
    rw [List.forall₂_map_right_iff, List.forall₂_same]
    exact fun arg ha => contribution_walk ht (hp arg ha)

def library : FileTree where
  workingDirectory := [("home" : Text)]
  entries := [
    (["home", "docs", "a.gql"], .file ByteArray.empty),
    (["home", "docs", "a-b", ".gql"], .file ByteArray.empty),
    (["home", "docs", "a-b", "z.tar.graphql"], .file ByteArray.empty),
    (["home", "docs", "a-b"], .directory),
    (["home", "docs", "a", "notes"], .file ByteArray.empty),
    (["home", "docs", "a", "x.gql"], .file ByteArray.empty),
    (["home", "docs", "a"], .directory),
    (["home", "docs"], .directory),
    (["home", "readme.txt"], .file ByteArray.empty),
    (["home"], .directory)]

theorem search_complete_library :
    library.LinkFree ∧
      (∀ arg ∈ [("docs/" : Path), ("./readme.txt" : Path)],
        ∃ found, library.find arg = .ok found) ∧
      (search library ["graphql", ".gql"] ["docs/", "./readme.txt"]).faults = [] ∧
      (search library ["graphql", ".gql"] ["docs/", "./readme.txt"]).documents =
        ["docs/a/x.gql", "docs/a-b/z.tar.graphql", "docs/a.gql"] ∧
      Answers library ["graphql", ".gql"] ["docs/", "./readme.txt"]
        (search library ["graphql", ".gql"] ["docs/", "./readme.txt"]).documents := by
  have ht : library.LinkFree := FileTree.LinkFree.of_entries (by decide)
  have hp : ∀ arg ∈ [("docs/" : Path), ("./readme.txt" : Path)],
      ∃ found, library.find arg = .ok found := by
    rw [List.forall_mem_cons, List.forall_mem_singleton]
    exact ⟨⟨(["home", "docs"], .directory), by decide⟩,
      ⟨(["home", "readme.txt"], .file ByteArray.empty), by decide⟩⟩
  have hdocuments : (search library ["graphql", ".gql"] ["docs/", "./readme.txt"]).documents =
      ["docs/a/x.gql", "docs/a-b/z.tar.graphql", "docs/a.gql"] := by cbv
  obtain ⟨hfaults, hanswers⟩ := search_complete ht hp
  exact ⟨ht, hp, hfaults, hdocuments, hanswers⟩

end Discovery
end QueryDescriptor
