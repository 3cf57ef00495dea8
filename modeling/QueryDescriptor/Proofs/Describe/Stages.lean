import QueryDescriptor.Command.Program
import QueryDescriptor.Proofs.Report.Files

namespace QueryDescriptor

open Files (Path FileTree)

variable {d : Describe} {r : Report} {t : FileTree} {dir : Path} {paths : List Path}

namespace ReportError

def IsFault : ReportError → Prop
  | sharedNames _ => False
  | directory _ _ => True
  | file _ _ => True

def reason (e : ReportError) : Text := "❌ " ++ e.message

theorem IsFault.reason_ne {e : ReportError} (h : e.IsFault) (names : List Text) :
    e.reason ≠ reason (.sharedNames names) := by
  -- The texts differ in their first words, whatever names and paths follow.
  have hshared : (reason (.sharedNames names)).take 3 = "❌ M" := rfl
  intro he
  cases e with
  | sharedNames _ => exact h
  | directory path fault =>
    have hfault : (reason (.directory path fault)).take 3 = "❌ F" := rfl
    rw [he, hshared] at hfault
    exact absurd hfault (by decide)
  | file path fault =>
    have hfault : (reason (.file path fault)).take 3 = "❌ F" := rfl
    rw [he, hshared] at hfault
    exact absurd hfault (by decide)

theorem reason_ne_failureText (e : ReportError) (fs : List (Path × DocumentError)) :
    e.reason ≠ Describe.failureText fs := by
  have hfailure : (Describe.failureText fs).take 13 = "❌ Failed to p" := rfl
  intro he
  rw [← he] at hfailure
  cases e with
  | sharedNames names =>
    have hreason : (reason (.sharedNames names)).take 13 = "❌ Multiple do" := rfl
    rw [hreason] at hfailure
    exact absurd hfailure (by decide)
  | directory path fault =>
    have hreason : (reason (.directory path fault)).take 13 = "❌ Failed to c" := rfl
    rw [hreason] at hfailure
    exact absurd hfailure (by decide)
  | file path fault =>
    have hreason : (reason (.file path fault)).take 13 = "❌ Failed to w" := rfl
    rw [hreason] at hfailure
    exact absurd hfailure (by decide)

end ReportError

namespace Report

theorem isFault_of_writeDescriptors {documents : List Descriptor} {e : ReportError}
    (h : (writeDescriptors t dir documents).error = some e) : e.IsFault := by
  induction documents generalizing t with
  | nil => cases h
  | cons d rest ih =>
    rw [writeDescriptors] at h
    dsimp only at h
    split at h
    · cases h
      trivial
    · exact ih h

theorem isFault_of_writeRegistration {w : Writing} {e : ReportError}
    (hw : ∀ e, w.error = some e → e.IsFault) (h : (r.writeRegistration dir w).error = some e) :
    e.IsFault := by
  rw [writeRegistration] at h
  split at h
  · exact hw e h
  · next hn =>
    dsimp only at h
    split at h
    · cases h
      trivial
    · dsimp only at h
      rw [hn] at h
      cases h

theorem write_of_shared (h : r.sharedNames ≠ []) (dir : Path) (t : FileTree) :
    r.write dir t = ⟨t, [], some (.sharedNames r.sharedNames)⟩ := by
  rw [write]
  split
  · next hn => exact absurd hn h
  · rfl

theorem isFault_of_write {e : ReportError} (h : r.sharedNames = [])
    (he : (r.write dir t).error = some e) : e.IsFault := by
  rw [write, h] at he
  dsimp only at he
  split at he
  · cases he
    trivial
  · exact isFault_of_writeRegistration (fun _ hw => isFault_of_writeDescriptors hw) he

end Report

namespace Describe

open Command (Exit)

/-- The run fails for a reason: nothing is printed, the reason goes to the error output, and the
files are those that were there. -/
structure Fails (o : Outcome) (reason : Text) (t : FileTree) : Prop where
  answer : o.answer = .failed reason
  code : (Exit.ofOutcome o).code = 1
  output : (Exit.ofOutcome o).output = []
  errors : (Exit.ofOutcome o).errors = reason ++ ['\n']
  tree : o.tree = t

theorem Fails.of_answer {o : Outcome} {reason : Text} (h : o.answer = .failed reason)
    (ht : o.tree = t) : Fails o reason t := by
  refine ⟨h, ?_, ?_, ?_, ht⟩
  · rw [Exit.ofOutcome, h]
  · rw [Exit.ofOutcome, h]
  · rw [Exit.ofOutcome, h]

def found (d : Describe) (t : FileTree) : Discovery := .search t d.extensions d.paths

def parses (t : FileTree) (p : Path) : Bool := (Descriptor.ofFile t p).isOk

def reportOn (t : FileTree) (paths : List Path) : Report :=
  .ofDocuments (described (readings t paths))

/-- The run ends as the delivery of the report does. -/
structure GoesOn (d : Describe) (t : FileTree) (o : Outcome) (r : Report) : Prop where
  answer : o.answer = (d.deliver r t).answer
  tree : o.tree = (d.deliver r t).tree
  records : (d.deliver r t).records <:+ o.records

theorem deliver_cases (d : Describe) (r : Report) (t : FileTree) :
    (d.outputDir = none ∧ d.deliver r t = ⟨.printed r.json.pretty, [], t⟩) ∨
    (∃ dir, d.outputDir = some dir ∧ r.sharedNames ≠ [] ∧
      d.deliver r t = ⟨.failed (ReportError.reason (.sharedNames r.sharedNames)), [], t⟩) ∨
    (∃ dir, d.outputDir = some dir ∧ r.sharedNames = [] ∧
      ((∃ text, (d.deliver r t).answer = .printed text) ∨
        ∃ e : ReportError, e.IsFault ∧ (d.deliver r t).answer = .failed e.reason)) := by
  rw [deliver]
  split
  · next hd => exact .inl ⟨hd, rfl⟩
  · next dir hd =>
    by_cases hs : r.sharedNames = []
    · refine .inr (.inr ⟨dir, hd, hs, ?_⟩)
      dsimp only
      split
      · exact .inl ⟨_, rfl⟩
      · next e he => exact .inr ⟨e, Report.isFault_of_write hs he, rfl⟩
    · refine .inr (.inl ⟨dir, hd, hs, ?_⟩)
      rw [Report.write_of_shared hs]
      rfl

theorem answer_deliver_ne (d : Describe) (r : Report) (t : FileTree)
    (fs : List (Path × DocumentError)) : (d.deliver r t).answer ≠ .failed (failureText fs) := by
  intro h
  rcases deliver_cases d r t with ⟨_, hd⟩ | ⟨dir, _, _, hd⟩ | ⟨dir, _, _, ⟨text, hp⟩ | ⟨e, _, he⟩⟩
  · rw [hd] at h
    cases h
  · rw [hd] at h
    exact ReportError.reason_ne_failureText _ fs (Answer.failed.inj h)
  · rw [hp] at h
    cases h
  · rw [he] at h
    exact e.reason_ne_failureText fs (Answer.failed.inj h)

theorem exists_answer_deliver_iff (d : Describe) (r : Report) (t : FileTree) :
    (∃ names, (d.deliver r t).answer = .failed (ReportError.reason (.sharedNames names))) ↔
      d.outputDir.isSome ∧ ¬ (r.documents.map (·.name)).Nodup := by
  rw [← r.sharedNames_eq_nil_iff]
  rcases deliver_cases d r t with ⟨ho, hd⟩ | ⟨dir, ho, hs, hd⟩ | ⟨dir, ho, hs, hcase⟩
  · rw [hd, ho]
    constructor
    · rintro ⟨names, h⟩
      cases h
    · rintro ⟨h, _⟩
      cases h
  · rw [hd, ho]
    exact ⟨fun _ => ⟨rfl, hs⟩, fun _ => ⟨_, rfl⟩⟩
  · constructor
    · rintro ⟨names, h⟩
      rcases hcase with ⟨text, hp⟩ | ⟨e, hf, he⟩
      · rw [hp] at h
        cases h
      · rw [he] at h
        exact absurd (Answer.failed.inj h) (hf.reason_ne names)
    · rintro ⟨_, h⟩
      exact absurd hs h

theorem tree_deliver_of_none (h : d.outputDir = none) (r : Report) (t : FileTree) :
    (d.deliver r t).tree = t := by
  rw [deliver, h]

theorem described_forall₂ (t : FileTree) (paths : List Path) :
    List.Forall₂ (fun p document => Descriptor.ofFile t p = .ok document)
      (paths.filter (parses t)) (described (readings t paths)) := by
  induction paths with
  | nil => exact .nil
  | cons p paths ih =>
    rw [readings, List.map_cons, described, List.filterMap_cons, List.filter_cons, parses]
    dsimp only
    cases h : Descriptor.ofFile t p with
    | ok document => exact .cons h ih
    | error e => exact ih

theorem failures_forall₂ (t : FileTree) (paths : List Path) :
    List.Forall₂ (fun p f => f.1 = p ∧ Descriptor.ofFile t p = .error f.2)
      (paths.filter (!parses t ·)) (failures (readings t paths)) := by
  induction paths with
  | nil => exact .nil
  | cons p paths ih =>
    rw [readings, List.map_cons, failures, List.filterMap_cons, List.filter_cons, parses]
    dsimp only
    cases h : Descriptor.ofFile t p with
    | ok document => exact ih
    | error e => exact .cons ⟨rfl, h⟩ ih

theorem failures_eq_nil_iff : failures (readings t paths) = [] ↔ ∀ p ∈ paths, parses t p := by
  rw [← List.length_eq_zero_iff, ← (failures_forall₂ t paths).length_eq, List.length_eq_zero_iff,
    List.filter_eq_nil_iff]
  simp only [Bool.not_eq_true', Bool.not_eq_false]

theorem fails_describeAll (hs : d.skipInvalid = false) (h : ∃ p ∈ paths, ¬ parses t p) :
    Fails (d.describeAll t paths) (failureText (failures (readings t paths))) t := by
  have hf : failures (readings t paths) ≠ [] := by
    rw [ne_eq, failures_eq_nil_iff]
    obtain ⟨p, hp, hn⟩ := h
    exact fun hall => hn (hall p hp)
  have hn : !d.skipInvalid := by rw [hs]; rfl
  rw [describeAll]
  dsimp only
  rw [if_pos ⟨hf, hn⟩]
  exact .of_answer rfl rfl

theorem goesOn_describeAll (h : d.skipInvalid ∨ ∀ p ∈ paths, parses t p) :
    d.GoesOn t (d.describeAll t paths) (reportOn t paths) := by
  have hpass : ¬ (failures (readings t paths) ≠ [] ∧ !d.skipInvalid) := by
    rintro ⟨hf, hn⟩
    rcases h with hs | hall
    · rw [hs] at hn
      cases hn
    · exact hf (failures_eq_nil_iff.2 hall)
  rw [describeAll]
  dsimp only
  rw [if_neg hpass]
  exact ⟨rfl, rfl, List.suffix_append _ _⟩

theorem fails_run (h : (d.found t).faults ≠ []) :
    Fails (d.run t) (searchText (d.found t).faults) t := by
  rw [run]
  dsimp only
  split
  · next hn => exact absurd hn h
  · exact .of_answer rfl rfl

theorem run_of_found (h : (d.found t).faults = []) :
    (d.run t).answer = (d.describeAll t (d.found t).documents).answer ∧
      (d.run t).tree = (d.describeAll t (d.found t).documents).tree ∧
      (d.run t).records =
        (d.found t).records ++ (d.describeAll t (d.found t).documents).records := by
  rw [run]
  dsimp only
  split
  · exact ⟨rfl, rfl, rfl⟩
  · next hn => exact absurd h hn

end Describe
end QueryDescriptor
