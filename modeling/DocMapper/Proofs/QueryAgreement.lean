import DocMapper.Proofs.ClauseMeaning
import Mathlib.Data.List.Forall2
/-!
Chains and the queries they are written as. Queries that are the same have the same clauses in
the same parts of the same runs, and a clause tells what is asked. Yet a chain is not always true
where its query is: a denial of a field that a document has not got is refused, while the query,
which denies a clause that does not hold, lets the document pass.
-/

namespace DocMapper

namespace Json

theorem sameItems_iff_forall₂ {a b : List Json} :
    sameItems a b = true ↔ List.Forall₂ (fun v w => v.same w = true) a b := by
  induction a generalizing b with
  | nil => cases b <;> simp [sameItems]
  | cons value rest ih =>
      cases b with
      | nil => simp [sameItems]
      | cons other more => simp [sameItems, ih]

end Json

theorem map_eq_of_forall₂ {α β γ δ : Type} {related : α → β → Prop} {f : α → γ} {g : β → γ} {p : α → δ}
    {q : β → δ} {xs : List α} {ys : List β} (all : List.Forall₂ related xs ys) (gaps : xs.map f = ys.map g)
    (agree : ∀ x ∈ xs, ∀ y ∈ ys, related x y → f x = g y → p x = q y) : xs.map p = ys.map q := by
  induction all with
  | nil => rfl
  | @cons x y xs ys here rest ih =>
      simp only [List.map_cons, List.cons.injEq] at gaps ⊢
      constructor
      · exact agree x List.mem_cons_self y List.mem_cons_self here gaps.1
      · apply ih gaps.2
        intro x member y member'
        exact agree x (List.mem_cons_of_mem _ member) y (List.mem_cons_of_mem _ member')

namespace Criteria

section Runs

variable {r s : List Node}

def part (run : List Node) (o : Occur) : List (String × Json) :=
  if clausesAt run o = [] then [] else [(o.key, .array (clausesAt run o))]

theorem occurMembers_eq (run : List Node) :
    occurMembers run = part run .must ++ part run .mustNot ++ part run .filter := by
  cases must : clausesAt run .must <;> cases mustNot : clausesAt run .mustNot <;>
    cases filter : clausesAt run .filter <;>
    simp [occurMembers, part, must, mustNot, filter]

theorem find?_reverse_part (run : List Node) (o : Occur) (key : String) :
    Dict.find? key (part run o).reverse =
      if clausesAt run o ≠ [] ∧ o.key = key then some (.array (clausesAt run o)) else none := by
  by_cases empty : clausesAt run o = [] <;> simp [part, empty, Dict.find?]

theorem find?_occurMembers (run : List Node) (o : Occur) :
    (Json.ofPairs (occurMembers run)).get? o.key =
      if clausesAt run o = [] then none else some (.array (clausesAt run o)) := by
  simp only [Json.ofPairs, Json.get?, Dict.find?_ofPairs, occurMembers_eq, List.reverse_append,
    Dict.find?_append, find?_reverse_part]
  by_cases empty : clausesAt run o = [] <;> cases o <;> simp [Occur.key, empty]

theorem find?_should (run : List Node) : (Json.ofPairs (occurMembers run)).get? "should" = none := by
  simp only [Json.ofPairs, Json.get?, Dict.find?_ofPairs, occurMembers_eq, List.reverse_append,
    Dict.find?_append, find?_reverse_part]
  simp [Occur.key]

theorem clauses_same (same : (renderRun r).same (renderRun s) = true) (o : Occur) :
    List.Forall₂ (fun v w => v.same w = true) (clausesAt r o) (clausesAt s o) := by
  have related := Json.same_get? (single_same same).2 o.key
  rw [find?_occurMembers, find?_occurMembers] at related
  split at related
  · next none =>
      split at related
      · next none' =>
          rw [none, none']
          exact .nil
      · cases related
  · split at related
    · cases related
    · cases related
      exact Json.sameItems_iff_forall₂.mp (by assumption)

theorem nodes_same (same : (renderRun r).same (renderRun s) = true) (o : Occur) :
    List.Forall₂ (fun n m => (clause n).same (clause m) = true)
      (r.filter fun n => occur n = o) (s.filter fun n => occur n = o) := by
  have clauses := clauses_same same o
  rwa [clausesAt, clausesAt, List.forall₂_map_left_iff, List.forall₂_map_right_iff] at clauses

end Runs

theorem runs_same_of_lists {runs runs' : List (List Node)}
    (same : (renderRuns runs).same (renderRuns runs') = true) :
    List.Forall₂ (fun r s => (renderRun r).same (renderRun s) = true) runs runs' := by
  -- Several runs stand under `should`, which a single run does not have.
  have lone : ∀ (run first second : List Node) (rest : List (List Node)),
      ¬(renderRuns [run]).same (renderRuns (first :: second :: rest)) = true := by
    intro run first second rest alike
    have should := Json.same_get? (single_same alike).2 "should"
    rw [find?_should] at should
    cases should
  match runs, runs' with
  | [], [] => exact .nil
  | [], [run] => exact absurd (single_same same).1 (by decide)
  | [], _ :: _ :: _ => exact absurd (single_same same).1 (by decide)
  | [run], [] => exact absurd (single_same same).1 (by decide)
  | _ :: _ :: _, [] => exact absurd (single_same same).1 (by decide)
  | [run], [run'] => exact .cons same .nil
  | [run], first :: second :: rest => exact absurd same (lone run first second rest)
  | first :: second :: rest, [run] => exact absurd (Json.same_symm same) (lone run first second rest)
  | first :: second :: rest, first' :: second' :: rest' =>
      have inner := (single_same same).2
      simp only [Json.same, Json.sameMembers, Bool.and_eq_true] at inner
      have lists := Json.sameItems_iff_forall₂.mp inner.2.1.2
      rwa [List.forall₂_map_left_iff, List.forall₂_map_right_iff] at lists

/-- The value a condition looks at: that of its field, when it is there and not null. -/
def reached? (n : Node) (document : Json) : Option Json :=
  match n.field.lookup document with
  | none | some .null => none
  | some actual => some actual

/-- Whether a document has what a node's clause asks for, or lacks what it forbids. -/
def queryHolds (n : Node) (document : Json) : Bool :=
  (reached? n document).any (fun actual => (Asked.ofCondition n.condition).holds actual) !=
    decide (occur n = .mustNot)

/-- A denial of a field that the document has not got. -/
def deniesMissing (n : Node) (document : Json) : Bool :=
  n.condition.isDenial && (reached? n document).isNone

theorem occur_mustNot (n : Node) : decide (occur n = .mustNot) = (n.negated != n.condition.isDenial) := by
  rw [occur]
  cases n.negated != n.condition.isDenial with
  | true => rfl
  | false => cases n.condition.isFilter <;> rfl

theorem nodeHolds_eq (n : Node) (document : Json) :
    nodeHolds n document = (queryHolds n document != deniesMissing n document) := by
  have raw : nodeHolds n document = ((reached? n document).any (fieldHolds n.condition) != n.negated) := by
    rw [nodeHolds, reached?]
    cases n.field.lookup document with
    | none => rfl
    | some actual => cases actual <;> rfl
  -- Without a value a condition is false, also a denial, so that one comes out the other way.
  rw [raw, queryHolds, deniesMissing, occur_mustNot]
  cases reached? n document with
  | none => cases n.negated <;> cases n.condition.isDenial <;> rfl
  | some actual =>
      simp only [Option.any_some, fieldHolds_eq]
      cases (Asked.ofCondition n.condition).holds actual <;> cases n.negated <;>
        cases n.condition.isDenial <;> rfl

/-- A denial is written as the refusal of what it denies. The two agree on the documents that have
the field. -/
theorem denial_agrees_iff (field : FieldPath) (values : List Json) (negated : Bool) (boost : Option Float32)
    (joint : Joint) (document : Json) :
    let denial : Node := ⟨field, .noneOf values, negated, boost, joint⟩
    let refusal : Node := ⟨field, .anyOf values, !negated, boost, joint⟩
    renderRun [denial] = renderRun [refusal] ∧
      (nodeHolds denial document = nodeHolds refusal document ↔ (reached? denial document).isSome = true) := by
  intro denial refusal
  have written : renderRun [denial] = renderRun [refusal] := by cases negated <;> rfl
  have queries : queryHolds denial document = queryHolds refusal document := by cases negated <;> rfl
  have missing : deniesMissing refusal document = false := rfl
  have missing' : deniesMissing denial document = (reached? denial document).isNone := rfl
  refine ⟨written, ?_⟩
  rw [nodeHolds_eq, nodeHolds_eq, queries, missing, missing']
  cases reached? denial document <;> simp

def Legible (n : Node) : Prop :=
  (Asked.ofCondition n.condition).Legible n.field.text

theorem queryHolds_congr {n m : Node} (same : (clause n).same (clause m) = true) (parts : occur n = occur m)
    (first : Legible n) (second : Legible m) (document : Json) :
    queryHolds n document = queryHolds m document := by
  rw [clause_eq, clause_eq] at same
  obtain ⟨queries, bodies⟩ := single_same same
  obtain ⟨texts, agree⟩ := Asked.holds_congr queries bodies first second
  have fields : n.field = m.field := by
    rw [← FieldPath.mk.injEq] at texts
    exact texts
  have reached : reached? n document = reached? m document := by
    rw [reached?, reached?, fields]
  rw [queryHolds, queryHolds, reached, parts, funext agree]

theorem nodeHolds_agree_iff {n m : Node} (same : (clause n).same (clause m) = true) (parts : occur n = occur m)
    (first : Legible n) (second : Legible m) (document : Json) :
    nodeHolds n document = nodeHolds m document ↔ deniesMissing n document = deniesMissing m document := by
  rw [nodeHolds_eq, nodeHolds_eq, queryHolds_congr same parts first second document]
  exact Bool.xor_right_inj

/-- Which of the nodes of a part deny a field that the document has not got. -/
def missedIn (run : List Node) (document : Json) (o : Occur) : List Bool :=
  (run.filter fun n => occur n = o).map fun n => deniesMissing n document

def parts : List Occur :=
  [.must, .mustNot, .filter]

/-- The same, for every part of every run of a chain. -/
def missed (c : Criteria) (document : Json) : List (List (List Bool)) :=
  c.runs.map fun run => parts.map (missedIn run document)

theorem all_by_part (run : List Node) (check : Node → Bool) :
    run.all check = parts.all fun o => (run.filter fun n => occur n = o).all check := by
  rw [Bool.eq_iff_iff]
  simp only [parts, List.all_eq_true, List.mem_filter, decide_eq_true_eq]
  constructor
  · intro all o _ n member
    exact all n member.1
  · intro all n member
    have part : occur n ∈ [Occur.must, .mustNot, .filter] := by cases occur n <;> simp
    exact all (occur n) part n ⟨member, rfl⟩

theorem runHolds_eq (document : Json) (run : List Node) :
    runHolds document run =
      parts.all fun o => (run.filter fun n => occur n = o).all fun n => nodeHolds n document :=
  all_by_part run _

/-- In a part of two runs that are written alike the nodes that deny a missing field tell which
nodes hold, and the other way round. -/
theorem partHolds_agree_iff {r s : List Node} {o : Occur} {document : Json}
    (same : (renderRun r).same (renderRun s) = true) (first : ∀ n ∈ r, Legible n) (second : ∀ m ∈ s, Legible m) :
    (r.filter fun n => occur n = o).map (fun n => nodeHolds n document) =
        (s.filter fun m => occur m = o).map (fun m => nodeHolds m document) ↔
      missedIn r document o = missedIn s document o := by
  have agree : ∀ n ∈ r.filter (fun n => occur n = o), ∀ m ∈ s.filter (fun m => occur m = o),
      (clause n).same (clause m) = true →
      (nodeHolds n document = nodeHolds m document ↔ deniesMissing n document = deniesMissing m document) := by
    intro n kept m kept' alike
    obtain ⟨member, here⟩ := List.mem_filter.mp kept
    obtain ⟨member', there⟩ := List.mem_filter.mp kept'
    have parts : occur n = occur m := (of_decide_eq_true here).trans (of_decide_eq_true there).symm
    exact nodeHolds_agree_iff alike parts (first n member) (second m member') document
  constructor
  · intro answers
    apply map_eq_of_forall₂ (nodes_same same o) answers
    exact fun n kept m kept' alike => (agree n kept m kept' alike).mp
  · intro gaps
    apply map_eq_of_forall₂ (nodes_same same o) gaps
    exact fun n kept m kept' alike => (agree n kept m kept' alike).mpr

section Matching

variable {r s : List Node} {document : Json} (same : (renderRun r).same (renderRun s) = true)
  (first : ∀ n ∈ r, Legible n) (second : ∀ m ∈ s, Legible m)

include same first second in
theorem runHolds_congr (gaps : parts.map (missedIn r document) = parts.map (missedIn s document)) :
    runHolds document r = runHolds document s := by
  rw [runHolds_eq, runHolds_eq, Bool.eq_iff_iff, List.all_eq_true, List.all_eq_true]
  apply forall₂_congr
  intro o member
  have answers := (partHolds_agree_iff same first second).mpr (List.map_inj_left.mp gaps o member)
  have agree := congrArg (fun answers => answers.all id) answers
  simp only [List.all_map, Function.id_comp] at agree
  rw [agree]

include same first second in
/-- Where both runs match, the nodes that deny a missing field stand in the same places: they are
just those whose queries fail. -/
theorem gaps_of_runHolds (matched : runHolds document r = true) (matched' : runHolds document s = true) :
    parts.map (missedIn r document) = parts.map (missedIn s document) := by
  apply List.map_inj_left.mpr
  intro o member
  have everyNode : ∀ run, runHolds document run = true →
      (run.filter fun n => occur n = o).map (fun n => nodeHolds n document) =
        List.replicate (run.filter fun n => occur n = o).length true := by
    intro run holds
    rw [runHolds_eq, List.all_eq_true] at holds
    exact List.map_eq_replicate_iff.mpr (List.all_eq_true.mp (holds o member))
  apply (partHolds_agree_iff same first second).mp
  rw [everyNode r matched, everyNode s matched', (nodes_same same o).length_eq]

include same first second in
theorem runHolds_iff_of_runHolds (matched : runHolds document r = true) :
    runHolds document s = true ↔ parts.map (missedIn r document) = parts.map (missedIn s document) := by
  constructor
  · exact gaps_of_runHolds same first second matched
  · intro gaps
    rw [← runHolds_congr same first second gaps, matched]

end Matching

theorem mem_of_mem_runs {c : Criteria} {run : List Node} {n : Node} (member : run ∈ c.runs) (inside : n ∈ run) :
    n ∈ c.nodes := by
  rw [← flatten_runsOf c.nodes]
  exact List.mem_flatten.mpr ⟨run, member, inside⟩

theorem isEmpty_runs (c : Criteria) : c.runs.isEmpty = c.nodes.isEmpty := by
  rw [Bool.eq_iff_iff, List.isEmpty_iff, List.isEmpty_iff]
  constructor
  · intro none
    rw [← flatten_runsOf c.nodes, ← Criteria.runs, none, List.flatten_nil]
  · intro none
    rw [Criteria.runs, none, runsOf]

theorem holds_congr {a b : Criteria} (same : a.render.same b.render = true)
    (first : ∀ n ∈ a.nodes, Legible n) (second : ∀ m ∈ b.nodes, Legible m) {document : Json}
    (gaps : missed a document = missed b document) : a.holds document = b.holds document := by
  have runs := runs_same_of_lists same
  have answers := map_eq_of_forall₂ runs gaps fun r member s member' alike gap =>
    runHolds_congr alike (fun n inside => first n (mem_of_mem_runs member inside))
      (fun m inside => second m (mem_of_mem_runs member' inside)) gap
  have empty : a.runs.isEmpty = b.runs.isEmpty := by
    rw [Bool.eq_iff_iff, List.isEmpty_iff_length_eq_zero, List.isEmpty_iff_length_eq_zero, runs.length_eq]
  have found : a.runs.any (runHolds document) = b.runs.any (runHolds document) := by
    simpa using congrArg (fun answers => answers.any id) answers
  rw [holds, holds, ← isEmpty_runs, ← isEmpty_runs, empty, found]

/-- Chains that are written alike agree on a document if the same of their nodes deny fields it
has not got. They have as many runs, and where a run of one matches the document, the run in the
same place of the other does so only then. -/
theorem holds_of_same_render {a b : Criteria} (same : a.render.same b.render = true)
    (legible : ∀ n ∈ a.nodes ++ b.nodes, Legible n) (document : Json) :
    (missed a document = missed b document → a.holds document = b.holds document) ∧
      a.runs.length = b.runs.length ∧
      ∀ r s, (r, s) ∈ a.runs.zip b.runs → runHolds document r = true →
        (runHolds document s = true ↔ parts.map (missedIn r document) = parts.map (missedIn s document)) := by
  have first : ∀ n ∈ a.nodes, Legible n := fun n member => legible n (List.mem_append_left _ member)
  have second : ∀ m ∈ b.nodes, Legible m := fun m member => legible m (List.mem_append_right _ member)
  have runs := runs_same_of_lists same
  refine ⟨holds_congr same first second, runs.length_eq, ?_⟩
  intro r s together matched
  obtain ⟨inA, inB⟩ := List.of_mem_zip together
  apply runHolds_iff_of_runHolds (List.forall₂_zip runs together) _ _ matched
  · exact fun n inside => first n (mem_of_mem_runs inA inside)
  · exact fun m inside => second m (mem_of_mem_runs inB inside)

section Spam

def spamDenied : Criteria :=
  ⟨[.ofCondition ⟨"tags"⟩ (.noneOf [.string "spam"]) .and]⟩

def spamRefused : Criteria :=
  ⟨[{ Node.ofCondition ⟨"tags"⟩ (.anyOf [.string "spam"]) .and with negated := true }]⟩

theorem spam_told_apart_untagged :
    spamRefused.render.same spamDenied.render = true ∧
      spamRefused.holds (.object [("tags", .string "rust")]) =
        spamDenied.holds (.object [("tags", .string "rust")]) ∧
      runHolds (.object []) spamRefused.nodes = true ∧ ¬runHolds (.object []) spamDenied.nodes = true := by
  have same : spamRefused.render.same spamDenied.render = true := by rfl
  have legible : ∀ n ∈ spamRefused.nodes ++ spamDenied.nodes, Legible n := by
    intro n member
    rcases List.mem_cons.mp member with rfl | rest
    · trivial
    · obtain rfl := List.mem_singleton.mp rest
      trivial
  have tagged := holds_of_same_render same legible (.object [("tags", .string "rust")])
  have untagged := holds_of_same_render same legible (.object [])
  have matched : runHolds (.object []) spamRefused.nodes = true := by decide +kernel
  refine ⟨same, tagged.1 (by rfl), matched, ?_⟩
  intro alsoMatched
  have gaps := (untagged.2.2 _ _ (List.mem_singleton.mpr rfl) matched).mp alsoMatched
  exact absurd gaps (by decide +kernel)

theorem alike_not_agreeing :
    ¬∀ a b : Criteria, a.render.same b.render = true → ∀ document, a.holds document = b.holds document := by
  intro agree
  have untagged := agree spamDenied spamRefused (by rfl) (.object [])
  exact absurd untagged (by decide +kernel)

end Spam

end Criteria

end DocMapper
