import Mathlib.Data.List.Basic
import QueryDescriptor.Proofs.Describe.Stages

namespace QueryDescriptor.Describe

open Files (FileTree Path)

variable {d : Describe} {t : FileTree} {paths : List Path} {rs : List Log.Record}

def skipWarning (f : Path × DocumentError) : Log.Record :=
  ⟨.warn, "⚠️ Skipping " ++ Text.quoted f.1 ++ ": " ++ f.2.message⟩

def isSkip (r : Log.Record) : Bool :=
  r.level = .warn && ("⚠️ Skipping " : Text).isPrefixOf r.message

theorem isSkip_skipWarning (f : Path × DocumentError) : isSkip (skipWarning f) = true := rfl

theorem filter_isSkip_of_level (h : ∀ r ∈ rs, r.level ≠ .warn) : rs.filter isSkip = [] := by
  rw [List.filter_eq_nil_iff]
  intro r hr hs
  rw [isSkip, Bool.and_eq_true] at hs
  exact h r hr (of_decide_eq_true hs.1)

theorem level_selectionRecords {events : List Selection.Event} {r : Log.Record}
    (h : r ∈ Selection.records events) : r.level ≠ .warn := by
  rcases List.mem_append.1 h with h | h
  · obtain ⟨event, _, he⟩ := List.mem_filterMap.1 h
    cases event with
    | field depth text name =>
      cases he
      exact nofun
    | stopped line =>
      cases he
      exact nofun
    | _ => cases he
  · obtain ⟨diagnostic, _, rfl⟩ := List.mem_map.1 h
    exact nofun

theorem level_fileRecords {p : Path} {r : Log.Record} (h : r ∈ Descriptor.fileRecords t p) :
    r.level ≠ .warn := by
  rw [Descriptor.fileRecords] at h
  split at h
  · next text _ =>
    rcases List.mem_cons.1 h with rfl | h
    · exact nofun
    · rw [Descriptor.records] at h
      split at h
      · cases h
      · rcases List.mem_append.1 h with h | h
        · exact level_selectionRecords h
        · rw [List.mem_singleton.1 h]
          exact nofun
  · cases h

theorem level_writeDescriptors {dir : Path} {documents : List Descriptor} {r : Log.Record}
    (h : r ∈ (Report.writeDescriptors t dir documents).records) : r.level ≠ .warn := by
  induction documents generalizing t with
  | nil => cases h
  | cons document rest ih =>
    rw [Report.writeDescriptors] at h
    dsimp only at h
    cases hw : t.writeText (Path.child dir (Report.descriptorFile document))
        document.json.pretty with
    | error f =>
      rw [hw] at h
      cases h
    | ok written =>
      rw [hw] at h
      rcases List.mem_cons.1 h with rfl | h
      · intro hl
        cases hl
      · exact ih h

theorem records_writeRegistration (report : Report) (dir : Path) (w : Writing) :
    (report.writeRegistration dir w).records = w.records := by
  rw [Report.writeRegistration]
  split
  · rfl
  · dsimp only
    split <;> rfl

theorem level_deliver {report : Report} {r : Log.Record}
    (h : r ∈ (d.deliver report t).records) : r.level ≠ .warn := by
  have hw (dir : Path) (h : r ∈ (report.write dir t).records) : r.level ≠ .warn := by
    rw [Report.write] at h
    split at h
    · split at h
      · cases h
      · rw [records_writeRegistration] at h
        exact level_writeDescriptors h
    · cases h
  rw [deliver] at h
  split at h
  · cases h
  · next dir _ =>
    dsimp only at h
    split at h
    · exact hw dir h
    · exact hw dir h

theorem level_ofWalks {extensions : List Text} {walks : List (Path × List Files.Visit)}
    {r : Log.Record} (h : r ∈ (Discovery.ofWalks extensions walks).records) : r.level ≠ .warn := by
  rcases List.mem_cons.1 h with rfl | h
  · exact nofun
  · obtain ⟨walk, _, h⟩ := List.mem_flatMap.1 h
    obtain ⟨visit, _, hv⟩ := List.mem_filterMap.1 h
    cases visit with
    | file path =>
      rw [Discovery.record?] at hv
      split at hv
      · cases hv
        exact nofun
      · cases hv
    | directory path =>
      cases hv
      exact nofun
    | fault f =>
      cases hv
      exact nofun

theorem filter_isSkip_found (d : Describe) (t : FileTree) :
    (d.found t).records.filter isSkip = [] := by
  have hwalks : (Discovery.ofWalks d.extensions
      (d.paths.map fun p => (p, t.walk p))).records.filter isSkip = [] :=
    filter_isSkip_of_level fun _ hr => level_ofWalks hr
  unfold found Discovery.search
  dsimp only
  split
  · split
    · dsimp only
      rw [List.filter_append, hwalks]
      rfl
    · exact hwalks
  · exact hwalks

theorem filter_isSkip_warnings (hs : d.skipInvalid) (readings : List Reading) :
    (readings.flatMap d.warnings).filter isSkip = (failures readings).map skipWarning := by
  induction readings with
  | nil => rfl
  | cons r readings ih =>
    obtain ⟨p, result⟩ := r
    rw [List.flatMap_cons, List.filter_append, ih]
    cases result with
    | ok document =>
      have hnone : (d.warnings (p, .ok document)).filter isSkip = [] := by
        rw [List.filter_eq_nil_iff]
        intro record hr
        obtain ⟨x, _, rfl⟩ := List.mem_map.1 hr
        exact Bool.false_ne_true
      rw [hnone]
      rfl
    | error e =>
      have hone : d.warnings (p, .error e) = [skipWarning (p, e)] := by
        rw [warnings]
        exact if_pos hs
      rw [hone, List.filter_cons_of_pos (isSkip_skipWarning _), List.filter_nil]
      rfl

theorem filter_isSkip_describeAll (hs : d.skipInvalid) (t : FileTree) (paths : List Path) :
    (d.describeAll t paths).records.filter isSkip =
      (failures (readings t paths)).map skipWarning := by
  -- Neither the scan of a file nor the delivery warns; the reading alone does.
  have hfiles : (paths.flatMap (Descriptor.fileRecords t)).filter isSkip = [] := by
    apply filter_isSkip_of_level
    intro r hr
    obtain ⟨p, _, hp⟩ := List.mem_flatMap.1 hr
    exact level_fileRecords hp
  have hdelivered : (d.deliver (reportOn t paths) t).records.filter isSkip = [] :=
    filter_isSkip_of_level fun _ hr => level_deliver hr
  rw [describeAll]
  dsimp only
  rw [if_neg]
  · dsimp only
    rw [List.filter_append, List.cons_append, List.filter_cons_of_neg Bool.false_ne_true,
      List.filter_append, hfiles, filter_isSkip_warnings hs, List.nil_append]
    exact (congrArg _ hdelivered).trans (List.append_nil _)
  · rintro ⟨_, hn⟩
    rw [hs] at hn
    cases hn

/-- The failures of some files, those that do not parse, in the order of the paths. -/
def FailuresAt (t : FileTree) (paths : List Path) (fs : List (Path × DocumentError)) : Prop :=
  List.Forall₂ (fun p f => f.1 = p ∧ Descriptor.ofFile t p = .error f.2)
    (paths.filter (!parses t ·)) fs

theorem FailuresAt.failureText_eq {fs : List (Path × DocumentError)} (h : FailuresAt t paths fs) :
    "❌ Failed to parse " ++ Text.ofNat (paths.filter (!parses t ·)).length ++
      " documents:\n  * " ++
      Text.join "\n  * " (fs.map fun f => Text.quoted f.1 ++ ": " ++ f.2.message) =
      failureText fs := by
  unfold failureText
  rw [List.Forall₂.length_eq h]

/-- The report holds the descriptors of the files that parse, in the order of the paths, and the
names of the queries and of the mutations among them. -/
structure Reports (t : FileTree) (paths : List Path) (r : Report) : Prop where
  documents : List.Forall₂ (fun p document => Descriptor.ofFile t p = .ok document)
    (paths.filter (parses t)) r.documents
  dataSources : r.dataSources = (r.documents.filter (·.operation = .query)).map (·.name)
  resources : r.resources = (r.documents.filter (·.operation = .mutation)).map (·.name)
  dataSources_sublist : r.dataSources.Sublist (r.documents.map (·.name))
  resources_sublist : r.resources.Sublist (r.documents.map (·.name))
  length : r.dataSources.length + r.resources.length = r.documents.length

/-- Without skipping, a run gets past the reading just if all files parse. Else it fails, and says
how many do not and which. -/
structure Stops (d : Describe) (t : FileTree) (paths : List Path)
    (fs : List (Path × DocumentError)) : Prop where
  goesOn_iff : (∃ r, d.GoesOn t (d.describeAll t paths) r) ↔ ∀ p ∈ paths, parses t p
  goesOn : (∀ p ∈ paths, parses t p) → d.GoesOn t (d.describeAll t paths) (reportOn t paths)
  fails : (∃ p ∈ paths, ¬ parses t p) → Fails (d.describeAll t paths)
    ("❌ Failed to parse " ++ Text.ofNat (paths.filter (!parses t ·)).length ++
      " documents:\n  * " ++
      Text.join "\n  * " (fs.map fun f => Text.quoted f.1 ++ ": " ++ f.2.message)) t

/-- With skipping, a run gets past the reading, warns of the files that do not parse, and goes on
with the report that a run without skipping makes on the others. -/
structure Skips (d : Describe) (t : FileTree) (paths : List Path)
    (fs : List (Path × DocumentError)) : Prop where
  answer_ne : ∀ gs, (d.describeAll t paths).answer ≠ .failed (failureText gs)
  warnings : (d.describeAll t paths).records.filter isSkip = fs.map skipWarning
  goesOn : d.GoesOn t (d.describeAll t paths) (reportOn t paths)
  others : d.GoesOn t ({ d with skipInvalid := false }.describeAll t (paths.filter (parses t)))
    (reportOn t paths)

theorem reports_reportOn (t : FileTree) (paths : List Path) :
    Reports t paths (reportOn t paths) := by
  have hkind (document : Descriptor) :
      decide (document.operation = .mutation) = !decide (document.operation = .query) := by
    cases document.operation <;> rfl
  refine ⟨described_forall₂ t paths, rfl, rfl, ?_, ?_, ?_⟩
  · exact List.filter_sublist.map _
  · exact List.filter_sublist.map _
  · simp only [reportOn, Report.ofDocuments, Report.namesOf, List.length_map, hkind]
    exact (List.length_eq_length_filter_add _).symm

theorem reportOn_filter (t : FileTree) (paths : List Path) :
    reportOn t (paths.filter (parses t)) = reportOn t paths := by
  rw [reportOn, reportOn]
  congr 1
  induction paths with
  | nil => rfl
  | cons p paths ih =>
    cases h : Descriptor.ofFile t p with
    | ok document =>
      have hp : parses t p := by rw [parses, h]; rfl
      have hcons (qs : List Path) :
          described (readings t (p :: qs)) = document :: described (readings t qs) := by
        rw [readings, List.map_cons, h]
        rfl
      rw [List.filter_cons_of_pos hp, hcons, hcons, ih]
    | error e =>
      have hp : ¬ parses t p := by rw [parses, h]; exact Bool.false_ne_true
      rw [List.filter_cons_of_neg hp, ih, readings, readings, List.map_cons, h]
      rfl

theorem stops_describeAll (hs : d.skipInvalid = false) :
    d.Stops t paths (failures (readings t paths)) := by
  have hfails (hbad : ∃ p ∈ paths, ¬ parses t p) := fails_describeAll hs hbad
  refine ⟨⟨?_, fun hall => ⟨_, goesOn_describeAll (.inr hall)⟩⟩,
    fun hall => goesOn_describeAll (.inr hall), fun hbad => ?_⟩
  · rintro ⟨r, hg⟩ p hp
    by_contra hn
    exact answer_deliver_ne d r t _ (hg.answer.symm.trans (hfails ⟨p, hp, hn⟩).answer)
  · rw [FailuresAt.failureText_eq (failures_forall₂ t paths)]
    exact hfails hbad

theorem skips_describeAll (hs : d.skipInvalid) :
    d.Skips t paths (failures (readings t paths)) := by
  have hg := goesOn_describeAll (t := t) (.inl hs : d.skipInvalid ∨ ∀ p ∈ paths, parses t p)
  have hstops : { d with skipInvalid := false }.Stops t (paths.filter (parses t))
      (failures (readings t (paths.filter (parses t)))) := stops_describeAll rfl
  have hothers := hstops.goesOn fun p hp => (List.mem_filter.1 hp).2
  rw [reportOn_filter] at hothers
  refine ⟨fun gs h => ?_, filter_isSkip_describeAll hs t paths, hg,
    hothers.answer, hothers.tree, hothers.records⟩
  exact answer_deliver_ne d _ t gs (hg.answer.symm.trans h)

/-- The description of any files: without skipping it goes on just if all of them parse, and else
lists those that do not; with skipping it warns of these, and reports on the others as if they were
all. A run is a search, and the description of what it finds. -/
theorem describeAll_skipInvalid (d : Describe) (t : FileTree) (paths : List Path) :
    FailuresAt t paths (failures (readings t paths)) ∧
    (d.skipInvalid = false → d.Stops t paths (failures (readings t paths))) ∧
    (d.skipInvalid → d.Skips t paths (failures (readings t paths))) ∧
    Reports t paths (reportOn t paths) ∧
    ((d.found t).faults = [] →
      (d.run t).answer = (d.describeAll t (d.found t).documents).answer ∧
      (d.run t).tree = (d.describeAll t (d.found t).documents).tree ∧
      (d.run t).records.filter isSkip =
        (d.describeAll t (d.found t).documents).records.filter isSkip) := by
  refine ⟨failures_forall₂ t paths, stops_describeAll, skips_describeAll,
    reports_reportOn t paths, fun hfound => ?_⟩
  obtain ⟨ha, ht, hr⟩ := run_of_found hfound
  refine ⟨ha, ht, ?_⟩
  rw [hr, List.filter_append, filter_isSkip_found]
  rfl

def mixedFiles : FileTree where
  entries := [(["a.gql"], .file (String.ofList Report.groupsText).toUTF8),
    (["b.gql"], .file .empty), (["c.gql"], .file (String.ofList Report.upsertText).toUTF8)]
  workingDirectory := []

def mixedPaths : List Path := ["a.gql", "b.gql", "c.gql"]

def describeMixed (skipInvalid : Bool) : Describe := ⟨mixedPaths, ["gql"], none, skipInvalid⟩

def mixedReason : Text :=
  "❌ Failed to parse 1 documents:\n  * \"b.gql\": Failed to parse GraphQL document: " ++
    "missing operation name"

def mixedWarning : Log.Record :=
  ⟨.warn, "⚠️ Skipping \"b.gql\": Failed to parse GraphQL document: missing operation name"⟩

theorem describeAll_skipInvalid_mixed :
    Fails ((describeMixed false).describeAll mixedFiles mixedPaths) mixedReason mixedFiles ∧
      ((describeMixed true).run mixedFiles).records.filter isSkip = [mixedWarning] ∧
      ((describeMixed true).run mixedFiles).answer =
        ((describeMixed false).describeAll mixedFiles ["a.gql", "c.gql"]).answer ∧
      (reportOn mixedFiles mixedPaths).dataSources = [("groups" : Text)] ∧
      (reportOn mixedFiles mixedPaths).resources = [("groupUpsert" : Text)] := by
  have hdocuments : ((describeMixed true).found mixedFiles).documents = mixedPaths := by
    decide +kernel
  have hfaults : ((describeMixed true).found mixedFiles).faults = [] := by decide +kernel
  have hothers : mixedPaths.filter (parses mixedFiles) = ["a.gql", "c.gql"] := by decide +kernel
  have hfailures : failures (readings mixedFiles mixedPaths) =
      [(("b.gql" : Path), .missingOperationName)] := by decide +kernel
  have hreason : failureText (failures (readings mixedFiles mixedPaths)) = mixedReason := by
    rw [hfailures]
    decide +kernel
  have hwarning : (failures (readings mixedFiles mixedPaths)).map skipWarning = [mixedWarning] := by
    rw [hfailures]
    decide +kernel
  have hnames : (reportOn mixedFiles mixedPaths).dataSources = [("groups" : Text)] ∧
      (reportOn mixedFiles mixedPaths).resources = [("groupUpsert" : Text)] := by decide +kernel
  obtain ⟨hat, hstops, _⟩ := describeAll_skipInvalid (describeMixed false) mixedFiles mixedPaths
  obtain ⟨_, _, hskips, _, hrun⟩ :=
    describeAll_skipInvalid (describeMixed true) mixedFiles mixedPaths
  have hfails := (hstops rfl).fails ⟨"b.gql", by decide +kernel, by decide +kernel⟩
  rw [hat.failureText_eq.trans hreason] at hfails
  have hskipped := hskips rfl
  obtain ⟨ha, -, hr⟩ := hrun hfaults
  rw [hdocuments] at ha hr
  refine ⟨hfails, hr.trans (hskipped.warnings.trans hwarning), ?_, hnames⟩
  rw [ha, hskipped.goesOn.answer, ← hskipped.others.answer, hothers]
  rfl

end QueryDescriptor.Describe
