import QueryDescriptor.Proofs.Files.Write
import QueryDescriptor.Proofs.Text.Bytes

namespace QueryDescriptor.Files

open FileTree (IsEntryName IsFileName steps)

namespace Component

def text : Component → Text
  | root => ['/']
  | here => ['.']
  | up => ['.', '.']
  | name n => n

theorem ofPiece?_of_name {piece : Text} (h : IsEntryName piece) (hn : piece ≠ []) :
    ofPiece? piece = some (name piece) := by
  unfold ofPiece?
  split
  · exact absurd rfl hn
  · exact absurd rfl h.1
  · exact absurd rfl h.2
  · rfl

end Component

namespace Path

variable {p : Path} {name : Text} {names : List Text}

def beginning (p : Path) : List Component :=
  if ['/'].isPrefixOf p then [.root]
  else if (pieces p).head? = some ['.'] then [.here] else []

theorem components_eq (p : Path) :
    components p = beginning p ++ (pieces p).filterMap Component.ofPiece? := by
  rw [components, beginning]
  split
  · rfl
  split
  · next rest hp =>
    rw [hp]
    rfl
  · next hp =>
    rw [if_neg, List.nil_append]
    intro hhead
    obtain ⟨rest, hr⟩ := List.head?_eq_some_iff.1 hhead
    exact hp rest hr

theorem pieces_append (above below : Path) :
    pieces (above ++ '/' :: below) = pieces above ++ pieces below :=
  Text.split_append '/' above below

theorem pieces_ne_nil (p : Path) : pieces p ≠ [] := Text.split_ne_nil '/' p

theorem beginning_append (h : p ≠ []) (below : Path) :
    beginning (p ++ '/' :: below) = beginning p := by
  obtain ⟨c, rest, rfl⟩ := List.exists_cons_of_ne_nil h
  rw [beginning, beginning, pieces_append, List.head?_append_of_ne_nil _ (pieces_ne_nil _)]
  rfl

theorem beginning_append_slash (above below : Path) :
    beginning (above ++ '/' :: below) = beginning (above ++ ['/']) := by
  by_cases h : above = []
  · rw [h]
    rfl
  · rw [beginning_append h, beginning_append h]

theorem filterMap_filter_pieces (ps : List Text) :
    (ps.filter (· ≠ [])).filterMap Component.ofPiece? = ps.filterMap Component.ofPiece? := by
  rw [List.filterMap_filter]
  apply List.filterMap_congr
  intro piece _
  by_cases h : piece = []
  · rw [h]
    rfl
  · rw [if_pos (decide_eq_true h)]

theorem pieces_of_fileName (h : IsFileName name) : pieces name = [name] :=
  Text.split_of_not_mem h.no_slash

theorem filterMap_fileName (h : IsFileName name) :
    [name].filterMap Component.ofPiece? = [.name name] := by
  rw [List.filterMap_cons, Component.ofPiece?_of_name h.entryName h.ne_nil, List.filterMap_nil]

theorem components_child (dir : Path) (h : IsFileName name) :
    components (child dir name) = components dir ++ [.name name] := by
  rcases child_cases dir name with ⟨rfl, hc⟩ | ⟨above, rfl, hc⟩ | ⟨hd, hc⟩
  · have hslash : ¬ ['/'].isPrefixOf name = true := fun hp =>
      h.no_slash ((List.isPrefixOf_iff_prefix.1 hp).sublist.mem List.mem_cons_self)
    have hdot : (pieces name).head? ≠ some ['.'] := by
      rw [pieces_of_fileName h]
      exact fun he => h.entryName.1 (Option.some.inj he)
    rw [hc, components_eq, beginning, if_neg hslash, if_neg hdot, pieces_of_fileName h,
      filterMap_fileName h]
    rfl
  · rw [hc, components_eq, components_eq, beginning_append_slash, pieces_append, pieces_append,
      pieces_of_fileName h, List.filterMap_append, List.filterMap_append, filterMap_fileName h,
      List.append_assoc, List.append_assoc]
    rfl
  · rw [hc, components_eq, components_eq, beginning_append hd, pieces_append,
      pieces_of_fileName h, List.filterMap_append, filterMap_fileName h, List.append_assoc]

theorem fileName?_child (dir : Path) (h : IsFileName name) :
    fileName? (child dir name) = some name := by
  rw [fileName?, components_child dir h, List.getLast?_concat]

theorem components_foldl (dir : Path) (h : ∀ name ∈ names, IsFileName name) :
    components (names.foldl child dir) = components dir ++ names.map .name := by
  induction names generalizing dir with
  | nil => exact (List.append_nil _).symm
  | cons name names ih =>
    obtain ⟨hname, hnames⟩ := List.forall_mem_cons.1 h
    rw [List.foldl_cons, ih _ hnames, components_child dir hname, List.append_assoc]
    rfl

theorem fileName?_of_steps (h : steps p = names ++ [name]) (hn : IsEntryName name) :
    fileName? p = some name := by
  rw [steps] at h
  split at h
  · have hlast := congrArg List.getLast? h
    rw [List.getLast?_concat, List.getLast?_concat] at hlast
    exact absurd (Option.some.inj hlast).symm hn.1
  · rw [List.append_nil] at h
    have hne : name ≠ [] := by
      have hm : name ∈ (pieces p).filter (· ≠ []) := h ▸ List.mem_append_right _ List.mem_cons_self
      exact of_decide_eq_true (List.mem_filter.1 hm).2
    have hfilter : (pieces p).filterMap Component.ofPiece? =
        names.filterMap Component.ofPiece? ++ [.name name] := by
      rw [← filterMap_filter_pieces, h, List.filterMap_append, List.filterMap_cons,
        Component.ofPiece?_of_name hn hne, List.filterMap_nil]
    rw [fileName?, components_eq, hfilter, ← List.append_assoc, List.getLast?_concat]

/-- Paths in the order of their components, which are compared byte by byte. -/
def Precedes (p q : Path) : Prop :=
  (components p).map (Text.bytes ·.text) < (components q).map (Text.bytes ·.text)

theorem precedes_of_lt {a b : Text} {left right : List Text} (dir : Path) (hlt : a < b)
    (ha : ∀ name ∈ a :: left, IsFileName name) (hb : ∀ name ∈ b :: right, IsFileName name) :
    Precedes ((a :: left).foldl child dir) ((b :: right).foldl child dir) := by
  rw [Precedes, components_foldl dir ha, components_foldl dir hb, List.map_append, List.map_append]
  exact List.append_left_lt (List.cons_lt_cons_iff.2 (.inl (Text.bytes_lt hlt)))

end Path

theorem FileTree.steps_ne_nil {p : Path} (h : p ≠ []) : steps p ≠ [] := by
  intro hs
  rw [steps, List.append_eq_nil_iff, List.filter_eq_nil_iff] at hs
  obtain ⟨hpieces, hend⟩ := hs
  have hnil : ∀ piece ∈ Path.pieces p, piece = [] := by
    intro piece hp
    exact not_not.1 fun hne => hpieces piece hp (decide_eq_true hne)
  obtain ⟨first, rest, hfr⟩ := List.exists_cons_of_ne_nil (Path.pieces_ne_nil p)
  have hp : first ++ rest.flatMap (['/'] ++ ·) = p := by
    rw [← Text.join_cons, ← hfr]
    exact Text.join_split '/' p
  rw [hnil first (hfr ▸ List.mem_cons_self), List.nil_append] at hp
  rcases List.eq_nil_or_concat rest with rfl | ⟨above, last, rfl⟩
  · exact h hp.symm
  · rw [List.concat_eq_append] at hfr hp
    have hmem : last ∈ first :: (above ++ [last]) :=
      List.mem_cons_of_mem _ (List.mem_append_right _ List.mem_cons_self)
    have hlast := hnil last (hfr ▸ hmem)
    rw [hlast, List.flatMap_append] at hp
    have hsuffix : ['/'] <:+ p := ⟨_, hp⟩
    rw [if_pos (List.isSuffixOf_iff_suffix.2 hsuffix)] at hend
    cases hend

end QueryDescriptor.Files
