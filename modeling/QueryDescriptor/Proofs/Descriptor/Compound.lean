import Mathlib.Data.List.Forall2
import QueryDescriptor.Descriptor
import QueryDescriptor.Proofs.Accessor.Words
import QueryDescriptor.Proofs.Selection.Path

namespace QueryDescriptor.Descriptor

open Accessor (LiesInWord Target pending staysJoined wordsOf)
open Selection (Event Outline dotted separator stemOf)

variable {text : Text} {d : Descriptor}

/-- The events below the heading of a document; there are none without a heading. -/
def eventsOf (text : Text) : List Event :=
  match Heading.ofLines? (Text.lines text) with
  | none => []
  | some h => bodyEvents h (Text.lines text)

def pathsOf (text : Text) : List (List Text) := Event.paths [] (eventsOf text)

def compoundsOf (text : Text) : List Text := (Outline.ofEvents (eventsOf text)).compounds

theorem exists_target (h : ofText? text = some d) :
    ∃ t : Target, t.compounds = compoundsOf text ∧
      d.accessors = (pathsOf text).map fun path => t.accessor (dotted path) := by
  rw [ofText?, Option.map_eq_some_iff] at h
  obtain ⟨heading, hh, rfl⟩ := h
  have he : eventsOf text = bodyEvents heading (Text.lines text) := by
    rw [eventsOf, hh]
  refine ⟨target heading (compoundsOf text), rfl, ?_⟩
  rw [pathsOf, compoundsOf, he]
  have hf := Selection.fields_scan Selection.State.Kept.start (heading.bodyStart + 1)
    ((Text.lines text).drop heading.bodyStart)
  exact (congrArg (List.map _) hf).trans List.map_map

theorem mem_compoundsOf {path : List Text} {name : Text} (hp : path ∈ pathsOf text)
    (hn : name ∈ path) (hs : separator ∈ name) : name ∈ compoundsOf text := by
  rcases Selection.mem_of_mem_paths hp hn with h | h
  · cases h
  · rw [compoundsOf, Outline.ofEvents, List.mem_eraseDups, List.mem_filter]
    exact ⟨h, List.contains_iff_mem.2 hs⟩

/-- On the path of every field, every compound name lies inside one segment. -/
def CompoundsWhole (text : Text) : Prop :=
  ∀ d, ofText? text = some d → List.Forall₂
    (fun path a => ∀ before name after, path = before ++ name :: after → separator ∈ name →
      LiesInWord (wordsOf (compoundsOf text) a.dottedName) before name)
    (pathsOf text) d.accessors

def shadowing : Text :=
  "query Q \x7b\n  R \x7b\n    edges \x7b\n      a_b\n      a_b_c\n    \x7d\n  \x7d\n\x7d\n"

theorem pathsOf_shadowing :
    pathsOf shadowing = ([["edges", "a_b"], ["edges", "a_b_c"]] : List (List Text)) := by
  decide

theorem compoundsOf_shadowing : compoundsOf shadowing = ["a_b", "a_b_c"] := by
  decide

theorem not_compoundsWhole : ¬ ∀ text, CompoundsWhole text := by
  intro hall
  obtain ⟨d, hd⟩ := Option.isSome_iff_exists.1 (show (ofText? shadowing).isSome by decide)
  have hwhole := hall shadowing d hd
  obtain ⟨t, _, ha⟩ := exists_target hd
  rw [pathsOf_shadowing, compoundsOf_shadowing, ha, pathsOf_shadowing] at hwhole
  obtain ⟨_, hrest⟩ := List.forall₂_cons.1 hwhole
  obtain ⟨hsecond, _⟩ := List.forall₂_cons.1 hrest
  have hlies := hsecond ["edges"] "a_b_c" [] rfl (by decide)
  have hjoined := (Accessor.liesInWord_iff ["edges"] [] "a_b_c").1 hlies "a_b" (by decide)
  revert hjoined
  decide

/-- How the dotted name of a field is cut into words along its path. -/
structure CutAlong (compounds path : List Text) (a : Accessor) : Prop where
  dottedName : a.dottedName = dotted path
  segments : a.segments = (wordsOf compounds a.dottedName).map Text.upperFirst
  words : dotted (wordsOf compounds a.dottedName) = a.dottedName
  /-- A compound name lies inside one word exactly if the first compound name that starts with
  what is pending at one of its separators is always a longer one. -/
  whole_iff : ∀ before name after, path = before ++ name :: after → separator ∈ name →
    (LiesInWord (wordsOf compounds a.dottedName) before name ↔
      ∀ part, part ++ [separator] <+: name →
        staysJoined compounds (pending compounds [] (stemOf before) ++ part))
  /-- A compound name that starts a word lies inside it exactly if no compound name that it
  continues is met before all others that continue it. -/
  whole_iff_of_start : ∀ before name after, path = before ++ name :: after → separator ∈ name →
    pending compounds [] (stemOf before) = [] →
    (LiesInWord (wordsOf compounds a.dottedName) before name ↔
      ∀ part ∈ compounds, part ++ [separator] <+: name →
        compounds.find? (part.isPrefixOf ·) ≠ some part)
  /-- All names lie inside a word each if no set name on the path starts a longer compound name,
  and no compound name starts a longer one on the path. -/
  whole_of_antichain : (∀ name ∈ path.dropLast, ∀ c ∈ compounds, name <+: c → name = c) →
    (∀ name ∈ path, separator ∈ name → ∀ c ∈ compounds, c <+: name → c = name) →
    ∀ before name after, path = before ++ name :: after →
      LiesInWord (wordsOf compounds a.dottedName) before name

theorem cutAlong_accessor (t : Target) {path : List Text}
    (hc : ∀ name ∈ path, separator ∈ name → name ∈ t.compounds) :
    CutAlong t.compounds path (t.accessor (dotted path)) := by
  refine ⟨rfl, rfl, ?_, ?_, ?_, ?_⟩
  · exact Accessor.dotted_wordsOf (dotted path)
  · rintro before name after rfl _
    exact Accessor.liesInWord_iff before after name
  · rintro before name after rfl hs hp
    have hn := hc name (List.mem_append_right _ List.mem_cons_self) hs
    refine (Accessor.liesInWord_iff before after name).trans ?_
    rw [hp]
    refine ⟨?_, ?_⟩
    · intro h part _ hpart
      have hpre := (List.prefix_append part [separator]).trans hpart
      exact (Accessor.staysJoined_iff hn hpre).1 (h part hpart)
    · intro h part hpart
      have hpre := (List.prefix_append part [separator]).trans hpart
      apply (Accessor.staysJoined_iff hn hpre).2
      intro hf
      exact h part (List.mem_of_find?_eq_some hf) hpart hf
  · rintro hset hcompound before name after rfl
    have hne : before ++ name :: after ≠ [] :=
      List.append_ne_nil_of_right_ne_nil before (List.cons_ne_nil name after)
    have hw := Accessor.wordsOf_dotted hne hset hc hcompound
    change LiesInWord (wordsOf t.compounds (dotted _)) before name
    rw [hw]
    exact Accessor.liesInWord_of_path before after name

/-- The compound names of an accepted document, field by field: which of them stay whole. -/
theorem compounds_cutAlong (h : ofText? text = some d) :
    List.Forall₂ (CutAlong (compoundsOf text)) (pathsOf text) d.accessors := by
  obtain ⟨t, hc, ha⟩ := exists_target h
  rw [ha, List.forall₂_map_right_iff, List.forall₂_same]
  intro path hp
  rw [← hc]
  apply cutAlong_accessor
  intro name hn hs
  rw [hc]
  exact mem_compoundsOf hp hn hs

theorem compounds_cutAlong_shadowing : ∃ d, ofText? shadowing = some d ∧
    d.accessors.map Accessor.segments =
      ([["Edges", "A_b"], ["Edges", "A_b", "C"]] : List (List Text)) ∧
    List.Forall₂ (CutAlong ["a_b", "a_b_c"]) [["edges", "a_b"], ["edges", "a_b_c"]]
      d.accessors := by
  have hsegments : (ofText? shadowing).map (·.accessors.map Accessor.segments) =
      some ([["Edges", "A_b"], ["Edges", "A_b", "C"]] : List (List Text)) := by decide
  obtain ⟨d, hd, hs⟩ := Option.map_eq_some_iff.1 hsegments
  have hcut := compounds_cutAlong hd
  rw [pathsOf_shadowing, compoundsOf_shadowing] at hcut
  exact ⟨d, hd, hs, hcut⟩

end QueryDescriptor.Descriptor
