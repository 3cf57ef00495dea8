import QueryDescriptor.Files.Tree
import QueryDescriptor.Proofs.Text.Parts

namespace QueryDescriptor.Files

theorem Path.child_cases (dir : Path) (name : Text) :
    (dir = [] ∧ child dir name = name) ∨
      (∃ above, dir = above ++ ['/'] ∧ child dir name = above ++ '/' :: name) ∨
      (dir ≠ [] ∧ child dir name = dir ++ '/' :: name) := by
  by_cases hd : dir = []
  · rw [child, if_pos (.inl hd), hd]
    exact .inl ⟨rfl, rfl⟩
  by_cases he : ['/'].isSuffixOf dir = true
  · obtain ⟨above, rfl⟩ := List.isSuffixOf_iff_suffix.1 he
    rw [child, if_pos (.inr he), List.append_assoc]
    exact .inr (.inl ⟨above, rfl, rfl⟩)
  · rw [child, if_neg (not_or.2 ⟨hd, he⟩)]
    exact .inr (.inr ⟨hd, rfl⟩)

namespace FileTree

variable {t u v : FileTree} {place other goal : Location} {final : Bool} {name : Text}
  {names : List Text}

theorem lookup_filter_of_ne {entries : List (Location × Entry)} (h : other ≠ place) :
    (entries.filter (·.1 ≠ place)).lookup other = entries.lookup other := by
  induction entries with
  | nil => rfl
  | cons entry entries ih =>
    obtain ⟨at_, e⟩ := entry
    by_cases hp : at_ = place
    · have hn : (other == at_) = false := beq_false_of_ne (hp ▸ h)
      rw [List.filter_cons_of_neg (by simpa using hp), ih, List.lookup_cons, hn]
    · rw [List.filter_cons_of_pos (by simpa using hp), List.lookup_cons, List.lookup_cons, ih]

theorem entryAt_put_self (t : FileTree) (e : Entry) (h : place ≠ []) :
    (t.put place e).entryAt place = some e := by
  rw [entryAt, if_neg h, put, List.lookup_cons_self]

theorem entryAt_put_of_ne (t : FileTree) (e : Entry) (h : other ≠ place) :
    (t.put place e).entryAt other = t.entryAt other := by
  have hn : (other == place) = false := beq_false_of_ne h
  rw [entryAt, entryAt, put, List.lookup_cons, hn]
  dsimp only
  rw [lookup_filter_of_ne h]

inductive Turn where
  | fault (f : SystemFault)
  | there (next : Location)
  | missing
  | link (target : Path)

def turn (t : FileTree) (place : Location) (name : Text) : Turn :=
  if !t.hasDirectory place then .fault .notADirectory
  else if name = ['.'] then .there place
  else if name = ['.', '.'] then .there place.dropLast
  else if nameLimit < Text.byteCount name then .fault .nameTooLong
  else match t.entryAt (place ++ [name]) with
    | none => .missing
    | some (.link target) => .link target
    | some _ => .there (place ++ [name])

/-- The names that are no steps to the directory itself or to the one above. -/
def IsEntryName (name : Text) : Prop := name ≠ ['.'] ∧ name ≠ ['.', '.']

theorem turn_spec (t : FileTree) (place : Location) (name : Text) :
    match t.turn place name with
    | .fault _ => True
    | .there next => IsEntryName name → next = place ++ [name]
    | .missing => t.entryAt (place ++ [name]) = none
    | .link target => t.entryAt (place ++ [name]) = some (.link target) := by
  rw [turn]
  by_cases hdir : !t.hasDirectory place
  · rw [if_pos hdir]
    trivial
  rw [if_neg hdir]
  by_cases hdot : name = ['.']
  · rw [if_pos hdot]
    exact fun hn => absurd hdot hn.1
  rw [if_neg hdot]
  by_cases hup : name = ['.', '.']
  · rw [if_pos hup]
    exact fun hn => absurd hup hn.2
  rw [if_neg hup]
  by_cases hlong : nameLimit < Text.byteCount name
  · rw [if_pos hlong]
    trivial
  rw [if_neg hlong]
  cases he : t.entryAt (place ++ [name]) with
  | none => rfl
  | some entry =>
    cases entry with
    | file content => exact fun _ => rfl
    | directory => exact fun _ => rfl
    | link target => rfl

theorem descend_cons (t : FileTree) (final : Bool)
    (follow : Location → Path → List Text → Except SystemFault Location) (place : Location)
    (name : Text) (rest : List Text) :
    t.descend final follow place (name :: rest) =
      match t.turn place name with
      | .fault f => .error f
      | .there next => t.descend final follow next rest
      | .missing => if rest = [] then .ok (place ++ [name]) else .error .noEntry
      | .link target =>
        if rest = [] ∧ !final then .ok (place ++ [name]) else follow place target rest := by
  rw [descend, turn]
  by_cases hdir : !t.hasDirectory place
  · rw [if_pos hdir, if_pos hdir]
  by_cases hdot : name = ['.']
  · rw [if_neg hdir, if_neg hdir, if_pos hdot, if_pos hdot]
  by_cases hup : name = ['.', '.']
  · rw [if_neg hdir, if_neg hdir, if_neg hdot, if_neg hdot, if_pos hup, if_pos hup]
  by_cases hlong : nameLimit < Text.byteCount name
  · rw [if_neg hdir, if_neg hdir, if_neg hdot, if_neg hdot, if_neg hup, if_neg hup, if_pos hlong,
      if_pos hlong]
  · rw [if_neg hdir, if_neg hdir, if_neg hdot, if_neg hdot, if_neg hup, if_neg hup, if_neg hlong,
      if_neg hlong]
    cases t.entryAt (place ++ [name]) with
    | none => rfl
    | some entry => cases entry <;> rfl

def IsUsable (p : Path) : Prop :=
  p.contains '\x00' = false ∧ p ≠ [] ∧ Text.byteCount p < pathLimit

theorem locateBy_eq_ok_iff {p : Path} :
    t.locateBy final p names = .ok goal ↔ IsUsable p ∧
      t.descendThrough final linkLimit (startOf t.workingDirectory p) names = .ok goal := by
  rw [locateBy, IsUsable]
  split
  · next hnul => exact ⟨nofun, fun h => absurd hnul (Bool.eq_false_iff.1 h.1.1)⟩
  split
  · next hnil => exact ⟨nofun, fun h => absurd hnil h.1.2.1⟩
  split
  · next hlong => exact ⟨nofun, fun h => absurd h.1.2.2 (Nat.not_lt.2 hlong)⟩
  next hnul hnil hlong =>
  have hp : IsUsable p := ⟨Bool.eq_false_iff.2 hnul, hnil, Nat.lt_of_not_le hlong⟩
  cases hd : t.descendThrough final linkLimit (startOf t.workingDirectory p) names with
  | ok place =>
    refine ⟨fun h => ⟨hp, ?_⟩, fun h => ?_⟩
    · cases h
      rfl
    · cases h.2
      rfl
  | error f => exact ⟨nofun, nofun⟩

/-- The second tree is the first with some files written, over nothing or over other files. -/
structure Rewritten (t u : FileTree) : Prop where
  workingDirectory : u.workingDirectory = t.workingDirectory
  entries : ∀ place, u.entryAt place = t.entryAt place ∨
    (∃ content, u.entryAt place = some (.file content)) ∧
      (t.entryAt place = none ∨ ∃ content, t.entryAt place = some (.file content))

namespace Rewritten

theorem refl (t : FileTree) : Rewritten t t := ⟨rfl, fun _ => .inl rfl⟩

theorem trans (h : Rewritten t u) (hv : Rewritten u v) : Rewritten t v := by
  refine ⟨hv.workingDirectory.trans h.workingDirectory, fun place => ?_⟩
  rcases hv.entries place with he | ⟨hnew, hold⟩
  · rw [he]
    exact h.entries place
  · rcases h.entries place with he | ⟨_, hold⟩
    · exact .inr ⟨hnew, he ▸ hold⟩
    · exact .inr ⟨hnew, hold⟩

theorem put (content : ByteArray) (hp : place ≠ [])
    (h : t.entryAt place = none ∨ ∃ content, t.entryAt place = some (.file content)) :
    Rewritten t (t.put place (.file content)) := by
  refine ⟨rfl, fun other => ?_⟩
  by_cases ho : other = place
  · rw [ho]
    exact .inr ⟨⟨content, entryAt_put_self t _ hp⟩, h⟩
  · exact .inl (entryAt_put_of_ne t _ ho)

theorem hasDirectory (h : Rewritten t u) (place : Location) :
    u.hasDirectory place = t.hasDirectory place := by
  rw [FileTree.hasDirectory, FileTree.hasDirectory]
  rcases h.entries place with he | ⟨⟨_, hu⟩, ht | ⟨_, ht⟩⟩
  · rw [he]
  · rw [hu, ht]
  · rw [hu, ht]

theorem turn (h : Rewritten t u) (place : Location) (name : Text) :
    u.turn place name = t.turn place name ∨
      t.turn place name = .missing ∧ u.turn place name = .there (place ++ [name]) := by
  rw [FileTree.turn, FileTree.turn, h.hasDirectory]
  split
  · exact .inl rfl
  split
  · exact .inl rfl
  split
  · exact .inl rfl
  split
  · exact .inl rfl
  rcases h.entries (place ++ [name]) with he | ⟨⟨_, hu⟩, ht | ⟨_, ht⟩⟩
  · exact .inl (by rw [he])
  · exact .inr (by rw [hu, ht]; exact ⟨rfl, rfl⟩)
  · exact .inl (by rw [hu, ht])

theorem descend_iff (h : Rewritten t u)
    {follow go : Location → Path → List Text → Except SystemFault Location}
    (hf : ∀ place target names, go place target names = .ok goal ↔
      follow place target names = .ok goal)
    (place : Location) (names : List Text) :
    u.descend final go place names = .ok goal ↔ t.descend final follow place names = .ok goal := by
  induction names generalizing place with
  | nil => exact Iff.rfl
  | cons name rest ih =>
    rw [descend_cons, descend_cons]
    rcases h.turn place name with hturn | ⟨hmissing, hturn⟩
    · rw [hturn]
      cases t.turn place name with
      | fault f => exact Iff.rfl
      | there next => exact ih next
      | missing => exact Iff.rfl
      | link target =>
        dsimp only
        split
        · exact Iff.rfl
        · exact hf place target rest
    · -- A name that stood for nothing leads to a file, and nothing lies below a file.
      rw [hmissing, hturn]
      cases rest with
      | nil => exact Iff.rfl
      | cons next rest =>
        have hnone := t.turn_spec place name
        rw [hmissing] at hnone
        have hdir : u.hasDirectory (place ++ [name]) = false := by
          rw [h.hasDirectory, FileTree.hasDirectory, hnone]
        dsimp only
        rw [descend_cons, FileTree.turn, hdir, if_neg (List.cons_ne_nil _ _)]
        exact ⟨nofun, nofun⟩

theorem descendThrough_iff (h : Rewritten t u) (links : Nat) (place : Location)
    (names : List Text) :
    u.descendThrough final links place names = .ok goal ↔
      t.descendThrough final links place names = .ok goal := by
  induction links generalizing place names with
  | zero => exact h.descend_iff (fun _ _ _ => Iff.rfl) _ _
  | succ links ih => exact h.descend_iff (fun _ _ _ => ih _ _) _ _

theorem locate_iff (h : Rewritten t u) (p : Path) :
    u.locate p = .ok goal ↔ t.locate p = .ok goal := by
  rw [FileTree.locate, FileTree.locate, locateBy_eq_ok_iff, locateBy_eq_ok_iff,
    h.workingDirectory, h.descendThrough_iff]

end Rewritten

/-- The last name of a way, with its links followed or not: it leads to an entry of that name, or
to the place of a link by that name. -/
theorem exists_of_descend {follow go : Location → Path → List Text → Except SystemFault Location}
    (hn : IsEntryName name)
    (hf : ∀ place target names, follow place target (names ++ [name]) = .ok goal →
      ∃ above, go place target (names ++ [name]) = .ok (above ++ [name]) ∧
        ((∀ target, t.entryAt (above ++ [name]) ≠ some (.link target)) → goal = above ++ [name]))
    (h : t.descend true follow place (names ++ [name]) = .ok goal) :
    ∃ above, t.descend false go place (names ++ [name]) = .ok (above ++ [name]) ∧
      ((∀ target, t.entryAt (above ++ [name]) ≠ some (.link target)) →
        goal = above ++ [name]) := by
  induction names generalizing place with
  | nil =>
    rw [List.nil_append, descend_cons] at h
    refine ⟨place, ?_⟩
    rw [List.nil_append, descend_cons]
    have hs := t.turn_spec place name
    cases ht : t.turn place name with
    | fault f =>
      rw [ht] at h
      cases h
    | there next =>
      rw [ht] at h hs
      obtain rfl := hs hn
      cases h
      exact ⟨rfl, fun _ => rfl⟩
    | missing =>
      rw [ht] at h
      cases h
      exact ⟨rfl, fun _ => rfl⟩
    | link target =>
      rw [ht] at hs
      exact ⟨rfl, fun hl => absurd hs (hl target)⟩
  | cons first rest ih =>
    have hr : rest ++ [name] ≠ [] := List.concat_ne_nil name rest
    rw [List.cons_append, descend_cons] at h
    rw [List.cons_append, descend_cons]
    cases ht : t.turn place first with
    | fault f =>
      rw [ht] at h
      cases h
    | there next =>
      rw [ht] at h
      exact ih h
    | missing =>
      rw [ht] at h
      dsimp only at h
      rw [if_neg hr] at h
      cases h
    | link target =>
      rw [ht] at h
      dsimp only at h ⊢
      rw [if_neg fun he => hr he.1] at h ⊢
      exact hf place target rest h

theorem exists_of_descendThrough {links : Nat} (hn : IsEntryName name)
    (h : t.descendThrough true links place (names ++ [name]) = .ok goal) :
    ∃ above, t.descendThrough false links place (names ++ [name]) = .ok (above ++ [name]) ∧
      ((∀ target, t.entryAt (above ++ [name]) ≠ some (.link target)) →
        goal = above ++ [name]) := by
  induction links generalizing place names with
  | zero => exact exists_of_descend hn (fun _ _ _ hf => by cases hf) h
  | succ links ih =>
    refine exists_of_descend hn (fun place target rest hf => ?_) h
    rw [← List.append_assoc] at hf ⊢
    exact ih hf

/-- There is a link under the last name of the path. -/
def isLink (t : FileTree) (p : Path) : Bool :=
  match t.locateBy false p (steps p) with
  | .ok place =>
    match t.entryAt place with
    | some (.link _) => true
    | _ => false
  | .error _ => false

theorem steps_child (dir : Path) (hn : name ≠ []) (hs : '/' ∉ name) :
    ∃ names, steps (Path.child dir name) = names ++ [name] := by
  have hend : ∀ above : Path, ['/'].isSuffixOf (above ++ name) = false := by
    intro above
    rw [Bool.eq_false_iff, ne_eq, List.isSuffixOf_iff_suffix]
    rintro ⟨t, ht⟩
    have hl := congrArg List.getLast? ht
    rw [List.getLast?_append_of_ne_nil _ hn,
      List.getLast?_append_of_ne_nil _ (List.cons_ne_nil _ _)] at hl
    exact hs (List.mem_of_getLast? hl.symm)
  have hpiece : [name].filter (· ≠ []) = [name] := List.filter_cons_of_pos (decide_eq_true hn)
  have hslash : ∀ above : Path,
      steps (above ++ '/' :: name) = (Path.pieces above).filter (· ≠ []) ++ [name] := by
    intro above
    have hc : above ++ '/' :: name = (above ++ ['/']) ++ name :=
      (List.append_assoc above ['/'] name).symm
    rw [steps]
    conv => lhs; rhs; rw [hc, hend]
    rw [Path.pieces, Text.split_append, Text.split_of_not_mem hs, List.filter_append, hpiece]
    exact List.append_nil _
  rcases Path.child_cases dir name with ⟨_, hc⟩ | ⟨above, _, hc⟩ | ⟨_, hc⟩
  · refine ⟨[], ?_⟩
    have hnil := hend []
    rw [List.nil_append] at hnil
    rw [hc, steps, hnil, Path.pieces, Text.split_of_not_mem hs, hpiece]
    rfl
  · exact ⟨_, hc ▸ hslash above⟩
  · exact ⟨_, hc ▸ hslash dir⟩

theorem exists_of_locate_child {dir : Path} (hn : IsEntryName name) (hne : name ≠ [])
    (hs : '/' ∉ name) (h : t.locate (Path.child dir name) = .ok place)
    (hl : t.isLink (Path.child dir name) = false) :
    (∃ above, place = above ++ [name]) ∧ ∀ target, t.entryAt place ≠ some (.link target) := by
  obtain ⟨names, hsteps⟩ := steps_child dir hne hs
  obtain ⟨hp, hd⟩ := locateBy_eq_ok_iff.1 h
  rw [hsteps] at hd
  obtain ⟨above, hf, heq⟩ := exists_of_descendThrough hn hd
  have hnot : ∀ target, t.entryAt (above ++ [name]) ≠ some (.link target) := by
    intro target ht
    rw [isLink, locateBy_eq_ok_iff.2 ⟨hp, hsteps ▸ hf⟩] at hl
    dsimp only at hl
    rw [ht] at hl
    cases hl
  obtain rfl := heq hnot
  exact ⟨⟨above, rfl⟩, hnot⟩

end FileTree
end QueryDescriptor.Files
