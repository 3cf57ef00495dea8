import QueryDescriptor.Proofs.Accessor.Path
import QueryDescriptor.Proofs.Descriptor.Order
import QueryDescriptor.Proofs.Descriptor.Tree

namespace QueryDescriptor.Descriptor

open Accessor (Target)
open Selection (Forest Name closingText dotted)
open Text (contents)

variable {text root : Text} {first : HeadingLine} {top : Name} {inner : Forest} {k : Nat}

theorem namesOn_accessor {f : Forest} (hu : f.Unambiguous)
    (hn : ∀ name ∈ f.names, Uncapitalised name) (operation : Operation) (root : RootSelection)
    {path : List Text} (hp : path ∈ f.paths) :
    (targetOf operation root f.compounds).namesOn
      ((targetOf operation root f.compounds).accessor (dotted path)).queryPath = path := by
  have hsegments : Accessor.segmentsOf f.compounds (dotted path) = path.map Text.upperFirst := by
    rw [Accessor.segmentsOf, hu.wordsOf_dotted hp]
  have hnames : ∀ name ∈ path, Uncapitalised name :=
    fun name hm => hn name (Forest.mem_names_of_mem_path hp name hm)
  have hback := (targetOf operation root f.compounds).namesOn_queryPath
    (Forest.paths_ne_nil hp) hnames
  rw [← hsegments] at hback
  exact hback

/-- In a document that writes a heading and one unambiguous tree of uncapitalised identifiers, the
accessors are those of the leaves in order, and two leaves with one query path have one path in the
tree. -/
theorem eq_of_queryPath (hu : (Forest.set top inner .nil).Unambiguous)
    (hn : ∀ name ∈ (Forest.set top inner .nil).names, Uncapitalised name)
    (h : contents (Text.lines text) = first.text :: root ::
      ((Forest.set top inner .nil).lines ++ List.replicate k closingText)) :
    ∃ d, ofText text = .ok d ∧
      d.accessors.map Accessor.dottedName = (Forest.set top inner .nil).paths.map dotted ∧
      ∀ (i j : Nat) (a b : Accessor), d.accessors[i]? = some a → d.accessors[j]? = some b →
        a.queryPath = b.queryPath →
        ∃ path, (Forest.set top inner .nil).paths[i]? = some path ∧
          (Forest.set top inner .nil).paths[j]? = some path := by
  obtain ⟨d, hd, haccessors⟩ := exists_accessors h
  rw [Forest.processed_tree, Forest.sets, Forest.sets] at haccessors
  refine ⟨d, hd, ?_, ?_⟩
  · rw [haccessors, List.map_map]
    rfl
  · intro i j a b hi hj hab
    rw [haccessors, List.getElem?_map, Option.map_eq_some_iff] at hi hj
    obtain ⟨path, hpath, rfl⟩ := hi
    obtain ⟨other, hother, rfl⟩ := hj
    have hnames := namesOn_accessor hu hn first.operation (.ofLine root)
      (List.mem_of_getElem? hpath)
    have hmore := namesOn_accessor hu hn first.operation (.ofLine root)
      (List.mem_of_getElem? hother)
    rw [hab, hmore] at hnames
    rw [hnames] at hother
    exact ⟨path, hpath, hother⟩

def repeatedText : Text :=
  "query Device($device_name: String!) \x7b\n  InfraDevice(name__value: $device_name) \x7b\n" ++
  "    edges \x7b\n      node \x7b\n        id\n        ip_v4 \x7b\n          id\n" ++
  "        \x7d\n      \x7d\n      node \x7b\n        id\n      \x7d\n    \x7d\n  \x7d\n\x7d\n"

theorem id_plain : ("id" : Text) ≠ [] ∧ ∀ c ∈ ("id" : Text), isBlank c = false := by decide

theorem id_ne_closingText : ("id" : Text) ≠ closingText := by decide

theorem node_plain : ("node" : Text) ≠ [] ∧ ∀ c ∈ ("node" : Text), isBlank c = false := by decide

def idLeaf (rest : Forest) : Forest := .leaf (.of "id" id_plain) id_ne_closingText rest

def nodeSet (inner rest : Forest) : Forest := .set (.of "node" node_plain) inner rest

def repeatedTree : Forest :=
  .set lookupTop
    (nodeSet (idLeaf (.set (.of "ip_v4" (by decide)) (idLeaf .nil) .nil))
      (nodeSet (idLeaf .nil) .nil)) .nil

def repeatedPaths : List Text :=
  ["InfraDevice.Edges[0].Node.GetId()", "InfraDevice.Edges[0].Node.Ip_v4.GetId()",
    "InfraDevice.Edges[0].Node.GetId()"]

theorem eq_of_queryPath_repeated : repeatedTree.Unambiguous ∧
    (∀ name ∈ repeatedTree.names, Uncapitalised name) ∧
    ∃ d, ofText repeatedText = .ok d ∧ d.accessors.map Accessor.queryPath = repeatedPaths ∧
      ∃ path, repeatedTree.paths[0]? = some path ∧ repeatedTree.paths[2]? = some path := by
  have hu : repeatedTree.Unambiguous := by decide
  have hn : ∀ name ∈ repeatedTree.names, Uncapitalised name := by decide
  have hcontents : contents (Text.lines repeatedText) = lookupHeading.text ::
      "InfraDevice(name__value: $device_name) \x7b" ::
      (repeatedTree.lines ++ List.replicate 2 closingText) := by decide
  have hpaths : (ofText repeatedText).map (·.accessors.map Accessor.queryPath) =
      .ok repeatedPaths := by decide
  obtain ⟨d, hd, _, hsame⟩ := eq_of_queryPath hu hn hcontents
  rw [hd] at hpaths
  have hquery : d.accessors.map Accessor.queryPath = repeatedPaths := Except.ok.inj hpaths
  have hfirst : (d.accessors.map Accessor.queryPath)[0]? = repeatedPaths[0]? := by rw [hquery]
  have hthird : (d.accessors.map Accessor.queryPath)[2]? = repeatedPaths[0]? := by
    rw [hquery]
    rfl
  rw [List.getElem?_map] at hfirst hthird
  obtain ⟨a, ha, hqa⟩ := Option.map_eq_some_iff.1 hfirst
  obtain ⟨b, hb, hqb⟩ := Option.map_eq_some_iff.1 hthird
  exact ⟨hu, hn, d, hd, hquery, hsame 0 2 a b ha hb (hqa.trans hqb.symm)⟩

end QueryDescriptor.Descriptor
