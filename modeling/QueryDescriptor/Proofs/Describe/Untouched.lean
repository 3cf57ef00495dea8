import QueryDescriptor.Proofs.Describe.Stages

namespace QueryDescriptor.Describe

open Files (FileTree Path)

variable {d : Describe} {t : FileTree} {reason : Text}

/-- The search and the reading let the run go on to the delivery. -/
structure Passes (d : Describe) (t : FileTree) : Prop where
  search : (d.found t).faults = []
  reading : d.skipInvalid ∨ ∀ p ∈ (d.found t).documents, parses t p

def report (d : Describe) (t : FileTree) : Report := reportOn t (d.found t).documents

/-- Why a run ends before it writes anything, with the text that says so. -/
inductive Refused (d : Describe) (t : FileTree) : Text → Prop where
  | search : (d.found t).faults ≠ [] → Refused d t (searchText (d.found t).faults)
  | reading : (d.found t).faults = [] → d.skipInvalid = false →
      (∃ p ∈ (d.found t).documents, ¬ parses t p) →
      Refused d t (failureText (failures (readings t (d.found t).documents)))
  | names : d.Passes t → d.outputDir.isSome → ¬ ((d.report t).documents.map (·.name)).Nodup →
      Refused d t (ReportError.reason (.sharedNames (d.report t).sharedNames))

theorem Passes.run (h : d.Passes t) : (d.run t).answer = (d.deliver (d.report t) t).answer ∧
    (d.run t).tree = (d.deliver (d.report t) t).tree := by
  obtain ⟨ha, ht, _⟩ := run_of_found h.search
  have hg := goesOn_describeAll h.reading
  exact ⟨ha.trans hg.answer, ht.trans hg.tree⟩

theorem Refused.fails (h : d.Refused t reason) : Fails (d.run t) reason t := by
  cases h with
  | search hs => exact fails_run hs
  | reading hn hs hp =>
    obtain ⟨ha, ht, _⟩ := run_of_found hn
    have hf := fails_describeAll hs hp
    exact .of_answer (ha.trans hf.answer) (ht.trans hf.tree)
  | names hpass ho hd =>
    obtain ⟨ha, ht⟩ := hpass.run
    rw [← Report.sharedNames_eq_nil_iff] at hd
    rcases deliver_cases d (d.report t) t with ⟨hn, _⟩ | ⟨dir, _, _, he⟩ | ⟨dir, _, hs, _⟩
    · rw [hn] at ho
      cases ho
    · rw [he] at ha ht
      exact .of_answer ha ht
    · exact absurd hs hd

theorem tree_describeAll_of_none (h : d.outputDir = none) (paths : List Path) :
    (d.describeAll t paths).tree = t := by
  by_cases hpass : d.skipInvalid ∨ ∀ p ∈ paths, parses t p
  · rw [(goesOn_describeAll hpass).tree]
    exact tree_deliver_of_none h _ t
  · obtain ⟨hs, hall⟩ := not_or.1 hpass
    refine (fails_describeAll (Bool.eq_false_iff.2 hs) ?_).tree
    by_contra hn
    exact hall fun p hp => by_contra fun hbad => hn ⟨p, hp, hbad⟩

theorem tree_run_of_none (h : d.outputDir = none) : (d.run t).tree = t := by
  by_cases hfound : (d.found t).faults = []
  · rw [(run_of_found hfound).2.1]
    exact tree_describeAll_of_none h _
  · exact (fails_run hfound).tree

/-- A run that is refused fails and changes no file; past the search and the reading, shared names
are what it is refused for just if there is an output directory and the names of the documents are
not all different. Without an output directory no run changes a file. -/
theorem run_untouched (d : Describe) (t : FileTree) :
    (∀ reason, d.Refused t reason → Fails (d.run t) reason t) ∧
      (d.Passes t →
        ((∃ names, (d.run t).answer = .failed (ReportError.reason (.sharedNames names))) ↔
          d.outputDir.isSome ∧ ¬ ((d.report t).documents.map (·.name)).Nodup)) ∧
      (d.outputDir = none → (d.run t).tree = t) := by
  refine ⟨fun reason h => h.fails, fun h => ?_, tree_run_of_none⟩
  rw [h.run.1]
  exact exists_answer_deliver_iff d (d.report t) t

def twinFiles : FileTree where
  entries := [(["a.gql"], .file (String.ofList Report.groupsText).toUTF8),
    (["b.gql"], .file (String.ofList Report.groupsText).toUTF8), (["c.gql"], .file .empty)]
  workingDirectory := []

def describeTwins : Describe := ⟨["a.gql", "b.gql"], ["gql"], some "out", false⟩

def describeAbsent : Describe := ⟨["a.gql", "d.gql"], ["gql"], some "out", true⟩

def describeBlank : Describe := ⟨["a.gql", "c.gql"], ["gql"], some "out", false⟩

def twinsReason : Text :=
  "❌ Multiple documents share the operation name(s) `groups`; each descriptor is written to " ++
    "`<name>.json`, so names must be unique"

def blankReason : Text :=
  "❌ Failed to parse 1 documents:\n  * \"c.gql\": Failed to parse GraphQL document: " ++
    "missing operation name"

theorem run_untouched_twins :
    Fails (describeTwins.run twinFiles) twinsReason twinFiles ∧
      Fails (describeAbsent.run twinFiles)
        (searchText [⟨0, .io "d.gql" (.system .noEntry)⟩]) twinFiles ∧
      Fails (describeBlank.run twinFiles) blankReason twinFiles ∧
      (∃ names, (describeTwins.run twinFiles).answer =
        .failed (ReportError.reason (.sharedNames names))) ∧
      ({ describeTwins with outputDir := none }.run twinFiles).tree = twinFiles := by
  have hpass : describeTwins.Passes twinFiles := ⟨by decide +kernel, .inr (by decide +kernel)⟩
  have hnames : ¬ ((describeTwins.report twinFiles).documents.map (·.name)).Nodup := by
    decide +kernel
  have hshared : ReportError.reason (.sharedNames (describeTwins.report twinFiles).sharedNames) =
      twinsReason := by decide +kernel
  have hfaults : (describeAbsent.found twinFiles).faults =
      [⟨0, .io "d.gql" (.system .noEntry)⟩] := by decide +kernel
  have hfailures : failureText (failures (readings twinFiles
      (describeBlank.found twinFiles).documents)) = blankReason := by decide +kernel
  have htwins := (run_untouched describeTwins twinFiles).1 _ (.names hpass rfl hnames)
  have habsent := (run_untouched describeAbsent twinFiles).1 _ (.search (by decide +kernel))
  have hblank := (run_untouched describeBlank twinFiles).1 _
    (.reading (by decide +kernel) rfl (by decide +kernel))
  rw [hshared] at htwins
  rw [hfaults] at habsent
  rw [hfailures] at hblank
  exact ⟨htwins, habsent, hblank, ((run_untouched _ _).2.1 hpass).2 ⟨rfl, hnames⟩,
    (run_untouched _ _).2.2 rfl⟩

end QueryDescriptor.Describe
