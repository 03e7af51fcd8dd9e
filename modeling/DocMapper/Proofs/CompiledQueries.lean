import DocMapper.Proofs.ArgumentSegments
import DocMapper.Proofs.NameReading
/-!
What a compiled query has of its method name: a node for each part, in order and each made of its
own arguments, and a run for each group. Nothing is left of the arguments, and no keyword without
a query has a node.
-/

namespace DocMapper

namespace Criteria

variable {n : Node} {block tail : List Node}

theorem runsOf_append (joined : ∀ m ∈ block, m.joint = .and) (opens : ∀ m ∈ tail.head?, m.joint = .or) :
    runsOf (n :: block ++ tail) = (n :: block) :: runsOf tail := by
  induction block generalizing n with
  | nil =>
      cases tail with
      | nil => rfl
      | cons m more =>
          have joint : m.joint = .or := opens m rfl
          cases cut : runsOf (m :: more) with
          | nil => simpa [cut] using flatten_runsOf (m :: more)
          | cons run others => simp [runsOf, cut, joint]
  | cons m block ih =>
      have later : runsOf (m :: (block ++ tail)) = (m :: block) :: runsOf tail :=
        ih fun k member => joined k (List.mem_cons_of_mem m member)
      have joint : m.joint ≠ .or := by simp [joined m List.mem_cons_self]
      simp [runsOf, later, joint]

end Criteria

namespace Query

variable {resolve : Resolver} {name : MethodName} {arguments : List Argument} {query : CompiledQuery}
  {token keywordName : String}

theorem jointed_joints (joint : Joint) (part : Part) (group : List Part) :
    (jointed joint (part :: group)).map Prod.fst = joint :: group.map fun _ => .and := by
  simp [jointed]

theorem jointed_parts (joint : Joint) (group : List Part) : (jointed joint group).map Prod.snd = group := by
  cases group <;> simp [jointed]

theorem jointedParts_parts (groups : List (List Part)) : (jointedParts groups).map Prod.snd = groups.flatten := by
  cases groups with
  | nil => rfl
  | cons group groups => simp [jointedParts, jointed_parts, List.map_flatMap, List.flatMap_id']

/-- Nodes that start as the parts of a group join make a run of the group's length first. -/
theorem group_of_joints {first : Joint} {group : List Part} {joints : List Joint} {ns : List Node}
    (filled : group ≠ []) (same : ns.map Node.joint = (jointed first group).map Prod.fst ++ joints) :
    ∃ n block tail, ns = n :: block ++ tail ∧ (∀ m ∈ block, m.joint = .and) ∧
      (n :: block).length = group.length ∧ tail.map Node.joint = joints := by
  obtain ⟨part, parts, rfl⟩ := List.exists_cons_of_ne_nil filled
  rw [jointed_joints] at same
  obtain ⟨front, tail, rfl, started, left⟩ := List.map_eq_append_iff.mp same
  obtain ⟨n, block, rfl, -, others⟩ := List.map_eq_cons_iff.mp started
  refine ⟨n, block, tail, rfl, fun m member => ?_, ?_, left⟩
  · have inside := others ▸ List.mem_map_of_mem member
    obtain ⟨-, -, joint⟩ := List.mem_map.mp inside
    exact joint.symm
  · simpa using congrArg List.length others

theorem run_lengths {first : Joint} {group : List Part} {groups : List (List Part)} {ns : List Node}
    (filled : ∀ g ∈ group :: groups, g ≠ [])
    (joints : ns.map Node.joint = (jointed first group ++ groups.flatMap (jointed .or)).map Prod.fst) :
    (Criteria.runsOf ns).map List.length = (group :: groups).map List.length := by
  induction groups generalizing first group ns with
  | nil =>
      obtain ⟨n, block, tail, rfl, joined, long, left⟩ :=
        group_of_joints (filled group List.mem_cons_self) (joints.trans List.map_append)
      cases List.map_eq_nil_iff.mp left
      rw [Criteria.runsOf_append joined (by simp)]
      simpa [Criteria.runsOf] using long
  | cons next groups ih =>
      obtain ⟨n, block, tail, rfl, joined, long, left⟩ :=
        group_of_joints (filled group List.mem_cons_self) (joints.trans List.map_append)
      have later := ih (fun g member => filled g (List.mem_cons_of_mem group member)) left
      -- The next group begins with an or, so the run ends where its group does.
      have opens : ∀ m ∈ tail.head?, m.joint = .or := by
        obtain ⟨part, parts, rfl⟩ := List.exists_cons_of_ne_nil (filled next (by simp))
        intro m leads
        obtain ⟨more, rfl⟩ := List.head?_eq_some_iff.mp leads
        have heads := congrArg List.head? left
        simpa [jointed] using heads
      rw [Criteria.runsOf_append joined opens]
      simp [long, later]

theorem nodes_of_compile (compiled : compile resolve name arguments = .ok query) :
    nodes resolve (jointedParts name.groups) arguments = .ok (query.criteria.nodes, []) := by
  obtain ⟨⟨made, rest⟩, read, compiled⟩ := bind_eq_ok.mp compiled
  obtain ⟨none, compiled⟩ := guard_eq_ok.mp compiled
  obtain ⟨sort, -, compiled⟩ := bind_eq_ok.mp compiled
  cases compiled
  have left : rest = [] := by simpa using none
  rw [read, left]

theorem queryable_sortKeys (resolve : Resolver) (orders : List OrderPart) :
    Queryable (orders.mapM (sortKey resolve)) := by
  have one : ∀ order, Queryable (sortKey resolve order) := by
    intro order token keywordName
    rw [sortKey]
    split <;> simp
  induction orders with
  | nil => exact queryable_ok []
  | cons order orders ih =>
      rw [List.mapM_cons]
      exact (one order).bind fun key => ih.bind fun keys => queryable_ok (key :: keys)

theorem unsupported_of_compile (failed : compile resolve name arguments = .error (.unsupportedPredicate token keywordName)) :
    nodes resolve (jointedParts name.groups) arguments = .error (.unsupportedPredicate token keywordName) := by
  rcases bind_eq_error.mp failed with unsupported | ⟨⟨ns, rest⟩, -, failed⟩
  · exact unsupported
  · -- What follows the nodes fails for arguments left over and for unknown properties only.
    have sorting := (queryable_sortKeys resolve name.sort).bind fun sort =>
      queryable_ok (CompiledQuery.mk name.subject ⟨ns⟩ sort name.limit)
    cases rest with
    | nil => exact absurd failed (sorting token keywordName)
    | cons argument rest => cases failed

theorem run_lengths_of_compile {ns : List Node} (filled : ∀ g ∈ name.groups, g ≠ [])
    (joints : ns.map Node.joint = (jointedParts name.groups).map Prod.fst) :
    (Criteria.runsOf ns).map List.length = name.groups.map List.length := by
  cases groups : name.groups with
  | nil =>
      rw [groups] at joints
      cases List.map_eq_nil_iff.mp joints
      rfl
  | cons group others =>
      rw [groups] at filled joints
      exact run_lengths filled joints

theorem everything_iff_of_compile (filled : ∀ g ∈ name.groups, g ≠ [])
    (compiled : compile resolve name arguments = .ok query) :
    query.criteria = .everything ↔ name.groups = [] := by
  obtain ⟨-, -, -, joints, -⟩ := segments_of_nodes (nodes_of_compile compiled)
  have lengths := run_lengths_of_compile filled joints
  constructor
  · intro everything
    rw [everything] at lengths
    simpa [Criteria.everything, Criteria.runsOf] using lengths.symm
  · intro none
    rw [none, List.map_nil, List.map_eq_nil_iff] at lengths
    have empty := Criteria.flatten_runsOf query.criteria.nodes
    rw [lengths] at empty
    exact congrArg Criteria.mk empty.symm

/-- A query takes its arguments apart into one segment for each part of the name, in order, and of
nothing else it makes the part's node; its runs are as long as the groups. It fails for lack of a
query only where a part's keyword has none. -/
theorem compile_segments {text : String} (parsed : MethodName.parse text = .ok name) (resolve : Resolver)
    (arguments : List Argument) :
    (∀ query, compile resolve name arguments = .ok query →
      (∃ pieces : List (Node × List Argument), pieces.map Prod.fst = query.criteria.nodes ∧
        (pieces.map Prod.snd).flatten = arguments ∧ List.Forall₂ (Makes resolve) name.parts pieces) ∧
      query.criteria.runs.map List.length = name.groups.map List.length) ∧
    ∀ token keywordName, compile resolve name arguments = .error (.unsupportedPredicate token keywordName) →
      ∃ part ∈ name.parts, Unsupported resolve token keywordName part := by
  constructor
  · intro query compiled
    obtain ⟨pieces, nodes, split, joints, each⟩ := segments_of_nodes (nodes_of_compile compiled)
    rw [jointedParts_parts] at each
    refine ⟨⟨pieces, nodes, ?_, each⟩, ?_⟩
    · rw [split, List.append_nil]
    · exact run_lengths_of_compile (MethodName.filled_of_parse parsed) joints
  · intro token keywordName failed
    have unsupported := unsupported_of_nodes (unsupported_of_compile failed)
    rwa [jointedParts_parts] at unsupported

/-- A property that is read whole, a box that stands alone and two bounds: four arguments for three parts. -/
theorem segments_of_check_in_or_spot :
    let resolve : Resolver := fun property => if property = "Check" then none else some ⟨⟨property⟩, .keyword⟩
    let corner : GeoPoint := ⟨0, 0⟩
    let arguments := [.value (.string "noon"), .box ⟨corner, corner⟩, .value .null, .value (.bool true)]
    ∃ name query, MethodName.parse "findByCheckInOrSpotNearAndPriceBetween" = .ok name ∧
      compile resolve name arguments = .ok query ∧ query.criteria.runs.map List.length = [1, 2] ∧
      query.criteria.nodes.map Node.condition =
        [.equals (.string "noon"), .boundedBy ⟨corner, corner⟩, .between none (some (.bool true))] ∧
      ∃ pieces : List (Node × List Argument), pieces.map Prod.fst = query.criteria.nodes ∧
        (pieces.map Prod.snd).flatten = arguments ∧ List.Forall₂ (Makes resolve) name.parts pieces := by
  intro resolve corner arguments
  have parsed : MethodName.parse "findByCheckInOrSpotNearAndPriceBetween" = .ok {
      text := "findByCheckInOrSpotNearAndPriceBetween", subject := .find, distinct := false, limit := none
      groups := [[⟨"CheckIn", "Check", .isIn⟩], [⟨"SpotNear", "Spot", .near⟩, ⟨"PriceBetween", "Price", .between⟩]]
      sort := [] } := by decide +kernel
  have done := (compile_segments parsed resolve arguments).1 _ rfl
  exact ⟨_, _, parsed, rfl, done.2, rfl, done.1⟩

end Query

end DocMapper
