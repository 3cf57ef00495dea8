import QueryDescriptor.Files.Tree
import QueryDescriptor.Text.Block

namespace QueryDescriptor.Files

inductive WalkCause where
  | io (path : Path) (fault : Fault)
  | loop (ancestor child : Path)
  deriving DecidableEq

/-- A fault of a walk, so many directories below its start. -/
structure WalkFault where
  depth : Nat
  cause : WalkCause
  deriving DecidableEq

inductive Visit where
  | file (path : Path)
  | directory (path : Path)
  | fault (f : WalkFault)
  deriving DecidableEq

inductive Finding where
  | file
  | directory (place : Location)
  | fault (cause : WalkCause)
  deriving DecidableEq

namespace FileTree

def locations (t : FileTree) : List Location := [] :: t.entries.map (·.1)

/-- What a walk finds at `path`, under `name` in the directory at `place`, while it is in the
directories `inside`. -/
def finding (t : FileTree) (inside : List (Path × Location)) (place : Location) (name : Text)
    (path : Path) : Finding :=
  match t.entryAt (place ++ [name]) with
  | some (.file _) => .file
  | some .directory => .directory (place ++ [name])
  | some (.link _) =>
    match t.descendThrough true linkLimit place [name] with
    | .error f => .fault (.io path (.system f))
    | .ok target =>
      match t.entryAt target with
      | none => .fault (.io path (.system .noEntry))
      | some .directory =>
        match inside.find? (·.2 = target) with
        | some (ancestor, _) => .fault (.loop ancestor path)
        | none => .directory target
      | some _ => .file
  | none => .fault (.io path (.system .noEntry))

def notEntered (places entered : List Location) : List Location :=
  places.filter fun place => place ∉ entered

def depthBound (places : List Location) : Nat :=
  places.foldr (fun place n => place.length + n) 0

theorem mem_locations_of_entryAt {t : FileTree} {place : Location} {e : Entry}
    (h : t.entryAt place = some e) : place ∈ t.locations := by
  by_cases hp : place = []
  · simp [locations, hp]
  · rw [entryAt, if_neg hp] at h
    have : (place, e) ∈ t.entries := by
      rw [List.lookup_eq_some_iff] at h
      obtain ⟨l₁, l₂, h, -⟩ := h
      simp [h]
    exact List.mem_cons_of_mem _ (List.mem_map_of_mem this)

theorem length_le_depthBound {places : List Location} {place : Location} (h : place ∈ places) :
    place.length ≤ depthBound places := by
  induction places with
  | nil => cases h
  | cons l ls ih =>
    simp only [depthBound, List.foldr_cons] at ih ⊢
    cases h with
    | head => omega
    | tail _ h => have := ih h; omega

theorem notEntered_cons_le (places : List Location) (place : Location) (entered : List Location) :
    (notEntered places (place :: entered)).length ≤ (notEntered places entered).length := by
  simp only [notEntered, ← List.countP_eq_length_filter]
  apply List.countP_mono_left
  intro l _ h
  simp only [List.mem_cons, not_or, decide_eq_true_eq] at h ⊢
  exact h.2

theorem notEntered_cons_lt {places : List Location} {place : Location} {entered : List Location}
    (h : place ∈ places) (hn : place ∉ entered) :
    (notEntered places (place :: entered)).length < (notEntered places entered).length := by
  induction places with
  | nil => cases h
  | cons l ls ih =>
    have hle := notEntered_cons_le ls place entered
    simp only [notEntered] at ih hle ⊢
    by_cases hl : l = place
    · subst hl
      rw [List.filter_cons_of_neg (by simp), List.filter_cons_of_pos (by simpa using hn)]
      exact Nat.lt_succ_of_le hle
    · have hlt := ih ((List.mem_cons.mp h).resolve_left (Ne.symm hl))
      by_cases he : l ∈ entered
      · rw [List.filter_cons_of_neg (by simp [he]), List.filter_cons_of_neg (by simp [he])]
        exact hlt
      · rw [List.filter_cons_of_pos (by simp [hl, he]), List.filter_cons_of_pos (by simp [he])]
        exact Nat.succ_lt_succ hlt

theorem finding_directory {t : FileTree} {inside : List (Path × Location)} {place next : Location}
    {name : Text} {path : Path} (h : t.finding inside place name path = .directory next) :
    next ∈ t.locations ∧ (next = place ++ [name] ∨ next ∉ inside.map (·.2)) := by
  unfold finding at h
  split at h
  · cases h
  · next he =>
    cases h
    exact ⟨mem_locations_of_entryAt he, .inl rfl⟩
  · split at h
    · cases h
    · split at h
      · cases h
      · next he =>
        split at h
        · cases h
        · next hn =>
          cases h
          refine ⟨mem_locations_of_entryAt he, .inr ?_⟩
          rw [List.find?_eq_none] at hn
          intro hm
          obtain ⟨x, hx, e⟩ := List.mem_map.mp hm
          exact hn x hx (by simp [e])
      · cases h
  · cases h

/-- What a walk meets in the directory at `path`, whose place is `place`, while it is in the
directories `above`. It goes down by names: `pathLimit` does not end it, so that it can meet a file
whose path is too long to be opened. -/
def visitsIn (t : FileTree) (above : List (Path × Location)) (path : Path) (place : Location) :
    List Visit :=
  (t.children place).flatMap fun name =>
    let inside := (path, place) :: above
    match _h : t.finding inside place name (Path.child path name) with
    | .file => [.file (Path.child path name)]
    | .directory next =>
      .directory (Path.child path name) :: t.visitsIn inside (Path.child path name) next
    | .fault cause => [.fault ⟨inside.length, cause⟩]
termination_by
  ((notEntered t.locations (place :: above.map (·.2))).length,
    depthBound t.locations - place.length)
decreasing_by
  obtain ⟨hm, hnext⟩ := finding_directory _h
  have hle := notEntered_cons_le t.locations next (place :: above.map (·.2))
  by_cases hn : next ∈ place :: above.map (·.2)
  · have e := hnext.resolve_right fun hnot => hnot hn
    have hb := length_le_depthBound hm
    rw [e, List.length_append, List.length_singleton] at hb
    rcases Nat.lt_or_eq_of_le hle with hlt | heq
    · exact Prod.Lex.left _ _ hlt
    · simp only [List.map_cons, heq]
      apply Prod.Lex.right
      rw [e, List.length_append, List.length_singleton]
      omega
  · exact Prod.Lex.left _ _ (notEntered_cons_lt hm hn)

/-- What a walk meets at or under a path: a directory before what it holds, and the names in a
directory in order. -/
def walk (t : FileTree) (path : Path) : List Visit :=
  match t.find path with
  | .error f => [.fault ⟨0, .io path f⟩]
  | .ok (place, .directory) => .directory path :: t.visitsIn [] path place
  | .ok _ => [.file path]

end FileTree

namespace Fault

def block : Fault → Text.Block
  | system f =>
    .bracketed "Os \x7b" "\x7d" [
      .labelled "code" [Text.ofNat f.code],
      .labelled "kind" [f.kind.name],
      .labelled "message" [Text.quoted f.description]]
  | unexplained k => .bracketed "Kind(" ")" [[k.name]]
  | f =>
    .bracketed "Error \x7b" "\x7d" [
      .labelled "kind" [f.kind.name],
      .labelled "message" [Text.quoted f.message]]

end Fault

namespace WalkFault

def causeBlock : WalkCause → Text.Block
  | .io path fault =>
    .bracketed "Io \x7b" "\x7d" [
      .labelled "path" (.bracketed "Some(" ")" [[Text.quoted path]]),
      .labelled "err" fault.block]
  | .loop ancestor child =>
    .bracketed "Loop \x7b" "\x7d" [
      .labelled "ancestor" [Text.quoted ancestor],
      .labelled "child" [Text.quoted child]]

def block (f : WalkFault) : Text.Block :=
  .bracketed "Error \x7b" "\x7d" [
    .labelled "depth" [Text.ofNat f.depth],
    .labelled "inner" (causeBlock f.cause)]

def listed (faults : List WalkFault) : Text :=
  Text.Block.toText (.bracketed ['['] [']'] (faults.map block))

end WalkFault
end QueryDescriptor.Files
