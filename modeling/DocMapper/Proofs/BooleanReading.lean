import DocMapper.Proofs.QueryAgreement
/-!
Queries as Boolean formulas. A `bool` query puts the clauses of a run into parts, and a denied
clause into the part whose clauses must not hold. Whatever the clauses ask, the query of a chain
holds exactly if all conditions of one of its runs do, each denied as often as it says.
-/

namespace DocMapper

namespace BoolQuery

/-- What a part of a `bool` query asks of the truth values of its clauses. -/
def partHolds (key : String) (truths : List Bool) : Bool :=
  match key with
  | "must" | "filter" => truths.all id
  | "must_not" => truths.all not
  | "should" => truths.any id
  | _ => true

mutual

/-- Whether a query holds, when it is known which of its leaves do. -/
def holds (leaf : Json → Bool) : Json → Bool
  | .object [("match_all", _)] => true
  | .object [("bool", .object parts)] => partsHold leaf parts
  | query => leaf query

def partsHold (leaf : Json → Bool) : List (String × Json) → Bool
  | [] => true
  | (key, .array clauses) :: rest => partHolds key (truths leaf clauses) && partsHold leaf rest
  | _ :: rest => partsHold leaf rest

def truths (leaf : Json → Bool) : List Json → List Bool
  | [] => []
  | clause :: rest => holds leaf clause :: truths leaf rest

end

variable (leaf : Json → Bool)

theorem truths_eq_map (clauses : List Json) : truths leaf clauses = clauses.map (holds leaf) := by
  induction clauses with
  | nil => rfl
  | cons clause rest ih => simp [truths, ih]

theorem partsHold_put {key : String} {clauses : List Json} {d : Dict Json} (fresh : Dict.has key d = false) :
    partsHold leaf (Dict.put key (.array clauses) d) =
      (partHolds key (truths leaf clauses) && partsHold leaf d) := by
  induction d with
  | nil => rfl
  | cons entry rest ih =>
      obtain ⟨k, value⟩ := entry
      have different : ¬key = k := by
        rintro rfl
        simp [Dict.has, Dict.find?] at fresh
      have absent : Dict.has key rest = false := by
        simpa [Dict.has, Dict.find?, Ne.symm different] using fresh
      rw [Dict.put, if_neg different]
      split
      · rfl
      · cases value with
        | array others => simp only [partsHold, ih absent, Bool.and_left_comm]
        | _ => exact ih absent

end BoolQuery

namespace Criteria

open BoolQuery

variable (leaf : Json → Bool)

/-- The value of a node's clause, turned over once if the node is negated and once more if its
operator is a denial. -/
def nodeReading (n : Node) : Bool :=
  (leaf (clause n) != n.negated) != decide (n.condition.operator = .noneOf)

/-- A chain read without its query: nothing is asked, or some run has all its nodes. -/
def flatReading (c : Criteria) : Bool :=
  c.nodes.isEmpty || c.runs.any fun run => run.all (nodeReading leaf)

theorem holds_clause (n : Node) : BoolQuery.holds leaf (clause n) = leaf (clause n) := by
  -- No clause is a `bool` query or asks for everything, so each is a leaf.
  rw [clause_eq]
  cases Asked.ofCondition n.condition <;> rfl

theorem nodeReading_eq (n : Node) :
    nodeReading leaf n = (leaf (clause n) != decide (occur n = .mustNot)) := by
  rw [occur_mustNot, nodeReading, Condition.isDenial, Bool.bne_assoc]

section Run

variable (run : List Node)

theorem has_foldl_part {o other : Occur} (different : o ≠ other) {d : Dict Json}
    (fresh : Dict.has other.key d = false) :
    Dict.has other.key ((part run o).foldl (fun d entry => Dict.put entry.1 entry.2 d) d) = false := by
  have keys : o.key ≠ other.key := by cases o <;> cases other <;> simp_all [Occur.key]
  rw [Dict.has_eq_false_iff] at fresh ⊢
  rw [Dict.find?_foldl_put, find?_reverse_part, fresh]
  simp [keys]

/-- A part without clauses is left out, and would not ask for anything. -/
theorem partsHold_foldl_part (o : Occur) {d : Dict Json} (fresh : Dict.has o.key d = false) :
    partsHold leaf ((part run o).foldl (fun d entry => Dict.put entry.1 entry.2 d) d) =
      (partHolds o.key (truths leaf (clausesAt run o)) && partsHold leaf d) := by
  by_cases empty : clausesAt run o = []
  · rw [part, if_pos empty, empty]
    cases o <;> rfl
  · rw [part, if_neg empty]
    exact partsHold_put leaf fresh

theorem partHolds_truths (o : Occur) :
    partHolds o.key (truths leaf (clausesAt run o)) =
      (run.filter fun n => occur n = o).all (nodeReading leaf) := by
  have values : truths leaf (clausesAt run o) =
      (run.filter fun n => occur n = o).map fun n => leaf (clause n) := by
    rw [truths_eq_map, clausesAt, List.map_map]
    exact List.map_congr_left fun n _ => holds_clause leaf n
  have readings : (run.filter fun n => occur n = o).map (nodeReading leaf) =
      (run.filter fun n => occur n = o).map fun n => leaf (clause n) != decide (o = .mustNot) := by
    apply List.map_congr_left
    intro n member
    rw [nodeReading_eq, of_decide_eq_true (List.mem_filter.mp member).2]
  rw [values, ← Function.id_comp (nodeReading leaf), ← List.all_map, readings]
  cases o <;> simp [partHolds, Occur.key]

theorem holds_renderRun : BoolQuery.holds leaf (renderRun run) = run.all (nodeReading leaf) := by
  have query : BoolQuery.holds leaf (renderRun run) = partsHold leaf (Dict.ofPairs (occurMembers run)) := rfl
  rw [query, occurMembers_eq, Dict.ofPairs, List.foldl_append, List.foldl_append]
  have noMustNot := has_foldl_part run (show Occur.must ≠ .mustNot by decide) (d := []) rfl
  have noFilter := has_foldl_part run (show Occur.must ≠ .filter by decide) (d := []) rfl
  rw [partsHold_foldl_part leaf run .filter (has_foldl_part run (by decide) noFilter),
    partsHold_foldl_part leaf run .mustNot noMustNot, partsHold_foldl_part leaf run .must rfl]
  simp only [partHolds_truths, all_by_part run, parts, List.all_cons, List.all_nil, partsHold, Bool.and_true]
  ac_rfl

end Run

/-- The query of a chain means what the chain says, whatever its clauses ask. -/
theorem holds_render (c : Criteria) : BoolQuery.holds leaf c.render = c.flatReading leaf := by
  rw [render, flatReading, ← isEmpty_runs]
  match c.runs with
  | [] => rfl
  | [run] => simpa [renderRuns] using holds_renderRun leaf run
  | first :: second :: rest =>
      have listed : truths leaf ((first :: second :: rest).map renderRun) =
          (first :: second :: rest).map fun run => run.all (nodeReading leaf) := by
        rw [truths_eq_map, List.map_map]
        exact List.map_congr_left fun run _ => holds_renderRun leaf run
      have should : BoolQuery.holds leaf (renderRuns (first :: second :: rest)) =
          partHolds "should" (truths leaf ((first :: second :: rest).map renderRun)) :=
        Bool.and_true _
      rw [should, listed]
      simp [partHolds]

end Criteria

end DocMapper
