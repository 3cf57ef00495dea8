import QueryDescriptor.Proofs.Accessor.Path
import QueryDescriptor.Proofs.Accessor.Words

namespace QueryDescriptor.Accessor

variable {shape : Shape} {segments : List Text}

theorem readId_concat (front : List Text) (last : Text) :
    readId (front ++ [last]) = front ++ readId [last] := by
  induction front with
  | nil => rfl
  | cons s front ih =>
    cases front with
    | nil => rfl
    | cons t front => exact congrArg (s :: ·) ih

theorem length_readId (segments : List Text) : (readId segments).length = segments.length := by
  induction segments with
  | nil => rfl
  | cons s rest ih =>
    cases rest with
    | nil => rfl
    | cons t rest => rw [readId, List.length_cons, ih, ← List.length_cons]

theorem drop_readId (n : Nat) (segments : List Text) :
    (readId segments).drop n = readId (segments.drop n) := by
  induction segments generalizing n with
  | nil => simp only [readId, List.drop_nil]
  | cons s rest ih =>
    cases n with
    | zero => rfl
    | succ n =>
      cases rest with
      | nil => simp only [readId, List.drop_succ_cons, List.drop_nil]
      | cons t rest => rw [readId, List.drop_succ_cons, List.drop_succ_cons, ih]

theorem filter_readId {p : Text → Bool} (hid : p idCall = true)
    (hl : ∀ s ∈ segments.getLast?, p s = true) :
    (readId segments).filter p = readId (segments.filter p) := by
  cases hs : segments.getLast? with
  | none =>
    rw [List.getLast?_eq_none_iff.1 hs]
    rfl
  | some last =>
    obtain ⟨front, rfl⟩ := List.getLast?_eq_some_iff.1 hs
    have hlast : p last = true := hl last hs
    have hread : (readId [last]).filter p = readId [last] := by
      rw [readId, List.filter_singleton]
      split
      · simp only [hid, cond_true]
      · simp only [hlast, cond_true]
    rw [readId_concat, List.filter_append, List.filter_append, hread, List.filter_singleton, hlast,
      cond_true, readId_concat]

theorem Shape.edges_ne (shape : Shape) : shape.edges ≠ nodeSegment ∧ shape.edges ≠ idSegment ∧
    shape.edges ≠ idCall := by
  cases shape with
  | list => decide
  | single => decide

theorem plainEdges_readId (shape : Shape) (segments : List Text) :
    plainEdges shape (readId segments) = readId (plainEdges shape segments) := by
  obtain ⟨_, hid, hcall⟩ := shape.edges_ne
  induction segments with
  | nil => rfl
  | cons s rest ih =>
    cases rest with
    | nil =>
      by_cases hs : s = idSegment
      · subst s
        simp only [plainEdges, readId, List.map_cons, List.map_nil, ↓reduceIte, if_neg hid.symm,
          if_neg hcall.symm]
      · by_cases he : s = shape.edges
        · subst s
          simp only [plainEdges, readId, List.map_cons, List.map_nil, ↓reduceIte, if_neg hs]
          rfl
        · simp only [plainEdges, readId, List.map_cons, List.map_nil, if_neg hs, if_neg he]
    | cons t rest =>
      rw [readId, plainEdges, List.map_cons, ← plainEdges, ih]
      rfl

/-- The components that do not just wrap others, where edges are indexed as the shape asks. -/
def unwrapIndexed (shape : Shape) (components : List Text) : List Text :=
  components.filter fun s => s ≠ shape.edges ∧ s ≠ nodeSegment

theorem unwrapIndexed_indexEdges (h : shape.edges ∉ segments) :
    unwrapIndexed shape (indexEdges shape segments) = unwrap segments := by
  induction segments with
  | nil => rfl
  | cons s rest ih =>
    rw [List.mem_cons, not_or] at h
    have hrest := ih h.2
    rw [unwrapIndexed, indexEdges, unwrap] at hrest
    rw [unwrapIndexed, indexEdges, unwrap, List.map_cons, List.filter_cons, List.filter_cons, hrest]
    by_cases hs : s = edgesSegment
    · simp only [hs, ↓reduceIte, ne_eq, not_true_eq_false, false_and, decide_false,
        Bool.false_eq_true]
    · simp only [hs, ↓reduceIte, ne_eq, Ne.symm h.1, not_false_eq_true, true_and]

theorem getLast?_indexEdges (hl : ∀ s ∈ segments.getLast?, s ≠ edgesSegment) :
    (indexEdges shape segments).getLast? = segments.getLast? := by
  rw [indexEdges, List.getLast?_map]
  cases hs : segments.getLast? with
  | none => rfl
  | some last => rw [Option.map_some, if_neg (hl last hs)]

theorem unwrapIndexed_readId (h : shape.edges ∉ segments)
    (hl : ∀ s ∈ segments.getLast?, s ≠ edgesSegment ∧ s ≠ nodeSegment) :
    unwrapIndexed shape (readId (indexEdges shape segments)) = readId (unwrap segments) := by
  obtain ⟨_, _, hcall⟩ := shape.edges_ne
  rw [← unwrapIndexed_indexEdges h]
  apply filter_readId
  · exact decide_eq_true ⟨hcall.symm, by decide⟩
  · intro s hs
    rw [getLast?_indexEdges fun s hs => (hl s hs).1] at hs
    have hne : s ≠ shape.edges := by
      rintro rfl
      exact h (List.mem_of_getLast? hs)
    exact decide_eq_true ⟨hne, (hl s hs).2⟩

theorem plainEdges_drop_readId (h : shape.edges ∉ segments) (n : Nat) :
    plainEdges shape ((readId (indexEdges shape segments)).drop n) =
      readId (segments.drop n) := by
  have hdrop : shape.edges ∉ segments.drop n := fun hm => h (List.mem_of_mem_drop hm)
  rw [drop_readId, plainEdges_readId, indexEdges, ← List.map_drop, ← indexEdges,
    plainEdges_indexEdges hdrop]

theorem segmentsOf_ne_nil (compounds : List Text) (dottedName : Text) :
    segmentsOf compounds dottedName ≠ [] := by
  rw [segmentsOf, wordsOf_eq]
  intro h
  exact wordsFrom_ne_nil _ _ (List.map_eq_nil_iff.1 h)

theorem inIdentifier_segmentsOf (compounds : List Text) {dottedName : Text}
    (h : ∀ c ∈ dottedName, inIdentifier c = true) :
    ∀ s ∈ segmentsOf compounds dottedName, ∀ c ∈ s, inIdentifier c = true := by
  intro s hs
  obtain ⟨word, hw, rfl⟩ := List.mem_map.1 hs
  apply Text.inIdentifier_upperFirst
  exact fun c hc => h c (mem_of_mem_wordsOf hw hc)

/-- The paths of a field are views of the components of its query path below the root object. -/
structure ViewOf (rootObject : Text) (shape : Shape) (components : List Text) (a : Accessor) :
    Prop where
  queryPath : Text.split '.' a.queryPath = rootObject :: components
  length : components.length = a.segments.length
  barePath : a.barePath = path (unwrapIndexed shape components)
  inputPath : a.inputPath = path (plainId (unwrapIndexed shape components))
  responsePath : a.responsePath = path (plainEdges shape (components.drop 2))
  responsePath_nil : components.length < 3 → a.responsePath = []

/-- The paths of a field cohere, if its name is made of identifiers and the last segment is neither
of the two that wrap others. -/
theorem exists_viewOf {rootObject : Text} (operation : Operation) (shape : Shape)
    (compounds : List Text) {dottedName : Text} (hr : '.' ∉ rootObject)
    (hn : ∀ c ∈ dottedName, inIdentifier c = true)
    (hl : ∀ s ∈ (segmentsOf compounds dottedName).getLast?, s ≠ edgesSegment ∧ s ≠ nodeSegment) :
    ∃ components, ViewOf rootObject shape components
      (Target.accessor ⟨rootObject, operation, shape, compounds⟩ dottedName) := by
  obtain ⟨_, _, hbracket⟩ := shape.edges_apart
  have hsegments := inIdentifier_segmentsOf compounds hn
  have hedges : shape.edges ∉ segmentsOf compounds dottedName :=
    not_mem_of_identifiers hsegments hbracket
  have hid : idCall ∉ unwrap (segmentsOf compounds dottedName) :=
    fun hm => not_mem_of_identifiers hsegments ⟨'(', by decide⟩ (List.mem_filter.1 hm).1
  have hresponse : (Target.accessor ⟨rootObject, operation, shape, compounds⟩
      dottedName).responsePath = path (plainEdges shape
        ((readId (indexEdges shape (segmentsOf compounds dottedName))).drop 2)) := by
    rw [plainEdges_drop_readId hedges]
    rfl
  apply Exists.intro (readId (indexEdges shape (segmentsOf compounds dottedName)))
  constructor
  · have hpath := split_path hsegments (segmentsOf_ne_nil compounds dottedName) shape
    change Text.split '.' (rootObject ++ ['.'] ++ path _) = _
    rw [List.append_assoc, List.singleton_append, Text.split_append, Text.split_of_not_mem hr,
      hpath]
    rfl
  · rw [length_readId, indexEdges, List.length_map]
    rfl
  · rw [unwrapIndexed_readId hedges hl]
    rfl
  · rw [unwrapIndexed_readId hedges hl, plainId_readId hid]
    rfl
  · exact hresponse
  · intro h
    rw [hresponse, List.drop_eq_nil_of_le (Nat.le_of_lt_succ h)]
    rfl

theorem exists_viewOf_wrapped :
    '.' ∉ ("InfraDevice" : Text) ∧ (∀ c ∈ ("edges_node_id__edges_group_id" : Text),
        inIdentifier c = true) ∧
      (∀ s ∈ (segmentsOf [] "edges_node_id__edges_group_id").getLast?,
        s ≠ edgesSegment ∧ s ≠ nodeSegment) ∧
      ∃ components, ViewOf "InfraDevice" .single components
        (Target.accessor ⟨"InfraDevice", .query, .single, []⟩ "edges_node_id__edges_group_id") ∧
      components = (["Edges[0]", "Node", "Id", [], "Edges[0]", "Group", "GetId()"] : List Text) ∧
      path (unwrapIndexed .single components) = "Id..Group.GetId()" ∧
      path (plainEdges .single (components.drop 2)) = "Id..Edges.Group.GetId()" := by
  have hr : '.' ∉ ("InfraDevice" : Text) := by decide
  have hn : ∀ c ∈ ("edges_node_id__edges_group_id" : Text), inIdentifier c = true := by decide
  have hl : ∀ s ∈ (segmentsOf [] "edges_node_id__edges_group_id").getLast?,
      s ≠ edgesSegment ∧ s ≠ nodeSegment := by decide
  have hpath : Text.split '.' (Target.accessor ⟨"InfraDevice", .query, .single, []⟩
      "edges_node_id__edges_group_id").queryPath =
      (["InfraDevice", "Edges[0]", "Node", "Id", [], "Edges[0]", "Group", "GetId()"] :
        List Text) := by decide
  obtain ⟨components, hview⟩ := exists_viewOf .query .single [] hr hn hl
  have hsplit := hview.queryPath
  rw [hpath] at hsplit
  obtain ⟨_, rfl⟩ := List.cons.inj hsplit
  exact ⟨hr, hn, hl, _, hview, rfl, by decide, by decide⟩

end QueryDescriptor.Accessor
