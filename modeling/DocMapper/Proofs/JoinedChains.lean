import DocMapper.Criteria.Evaluate
import DocMapper.Proofs.CompiledQueries
/-!
Chains that are joined. The runs of a chain are the one way to cut it before each node but the
first that joins with `or`, so joining with `or` puts the runs of two chains one after another,
and joining with `and` makes one run of the two that meet. All that a join changes of a node is
how the first one of the second chain joins, which the meaning of that chain does not depend on.
-/

namespace DocMapper.Criteria

variable {joint : Joint} {n : Node} {xs ys run last first : List Node} {rs ss rest : List (List Node)}

/-- Nodes whose first one joins as given. -/
def joining (joint : Joint) (nodes : List Node) : List Node :=
  nodes.modifyHead fun n => { n with joint }

/-- A chain but for how its first node joins. -/
def opened (joint : Joint) (c : Criteria) : Criteria :=
  ⟨joining joint c.nodes⟩

/-- Runs but for how the first node of them all joins. -/
def reopened (joint : Joint) (runs : List (List Node)) : List (List Node) :=
  runs.modifyHead (joining joint)

/-- Nodes cut into runs: within a run they join with `and`, and every later run opens with `or`. -/
inductive IsRuns : List Node → List (List Node) → Prop where
  | nil : IsRuns [] []
  | cons {n : Node} {block tail : List Node} {runs : List (List Node)} (joined : ∀ m ∈ block, m.joint = .and)
      (opens : ∀ m ∈ tail.head?, m.joint = .or) (cut : IsRuns tail runs) :
      IsRuns (n :: block ++ tail) ((n :: block) :: runs)

/-! ## The one way to cut -/

theorem IsRuns.eq (cut : IsRuns xs rs) : runsOf xs = rs := by
  induction cut with
  | nil => rfl
  | cons joined opens _ ih => rw [runsOf_append joined opens, ih]

theorem IsRuns.filled (cut : IsRuns xs rs) : ∀ run ∈ rs, run ≠ [] := by
  induction cut with
  | nil => simp
  | cons _ _ _ ih => simpa using ih

theorem IsRuns.eq_nil_iff (cut : IsRuns xs rs) : rs = [] ↔ xs = [] := by
  cases cut <;> simp

theorem exists_isRuns (nodes : List Node) : ∃ runs, IsRuns nodes runs := by
  induction nodes with
  | nil => exact ⟨[], .nil⟩
  | cons n more ih =>
      obtain ⟨runs, cut⟩ := ih
      cases cut with
      | nil => exact ⟨[[n]], @IsRuns.cons n [] [] [] (by simp) (by simp) .nil⟩
      | @cons next block tail runs joined opens cut =>
          cases joins : next.joint with
          | or =>
              refine ⟨[n] :: (next :: block) :: runs, ?_⟩
              exact @IsRuns.cons n [] _ _ (by simp) (by simpa using joins) (.cons joined opens cut)
          | and =>
              refine ⟨(n :: next :: block) :: runs, ?_⟩
              exact @IsRuns.cons n (next :: block) _ _ (by simpa using ⟨joins, joined⟩) opens cut

theorem isRuns_runsOf (nodes : List Node) : IsRuns nodes (runsOf nodes) := by
  obtain ⟨runs, cut⟩ := exists_isRuns nodes
  rwa [cut.eq]

/-! ## Joined runs -/

theorem IsRuns.append (front : IsRuns xs rs) (back : IsRuns ys ss) (opens : ∀ m ∈ ys.head?, m.joint = .or) :
    IsRuns (xs ++ ys) (rs ++ ss) := by
  induction front with
  | nil => exact back
  | @cons n block tail runs joined later _ ih =>
      rw [List.append_assoc]
      refine .cons joined ?_ ih
      cases tail with
      | nil => exact opens
      | cons m more => exact later

/-- The last run of one list goes on with the first of another that joins it with `and`. -/
theorem IsRuns.meet (front : IsRuns xs (rs ++ [last])) (back : IsRuns ys (first :: rest))
    (joins : ∀ m ∈ ys.head?, m.joint = .and) : IsRuns (xs ++ ys) (rs ++ (last ++ first) :: rest) := by
  -- The last run in front and the first one behind become one, the others stay.
  induction rs generalizing xs with
  | nil =>
      cases front with
      | cons joined _ none =>
          cases none
          cases back with
          | @cons m block tail runs others opens cut =>
              rw [List.append_nil, List.cons_append, ← List.append_assoc]
              refine .cons ?_ opens cut
              intro k member
              rcases List.mem_append.mp member with inside | behind
              · exact joined k inside
              · rcases List.mem_cons.mp behind with rfl | other
                · exact joins k rfl
                · exact others k other
  | cons run rs ih =>
      cases front with
      | @cons n block tail runs joined opens cut =>
          rw [List.append_assoc]
          refine .cons joined ?_ (ih cut)
          cases tail with
          | nil => exact absurd (cut.eq_nil_iff.mpr rfl) (by simp)
          | cons m more => exact opens

theorem IsRuns.reopened (cut : IsRuns xs rs) (joint : Joint) : IsRuns (joining joint xs) (reopened joint rs) := by
  cases cut with
  | nil => exact .nil
  | cons joined opens cut => exact .cons joined opens cut

theorem runs_opened (joint : Joint) (c : Criteria) : (c.opened joint).runs = reopened joint c.runs :=
  ((isRuns_runsOf c.nodes).reopened joint).eq

theorem append_eq (a b : Criteria) (joint : Joint) : a.append joint b = ⟨a.nodes ++ joining joint b.nodes⟩ := by
  rw [append]
  cases b.nodes with
  | nil => simp [joining]
  | cons n rest => rfl

theorem joint_of_joining (joint : Joint) (nodes : List Node) : ∀ m ∈ (joining joint nodes).head?, m.joint = joint := by
  cases nodes <;> simp [joining]

theorem runs_orElse (a b : Criteria) : (a.orElse b).runs = a.runs ++ reopened .or b.runs := by
  rw [orElse, append_eq]
  exact ((isRuns_runsOf a.nodes).append ((isRuns_runsOf b.nodes).reopened .or) (joint_of_joining .or b.nodes)).eq

theorem runs_ne_nil {c : Criteria} (filled : c.nodes ≠ []) : c.runs ≠ [] :=
  mt (isRuns_runsOf c.nodes).eq_nil_iff.mp filled

theorem runs_andAlso {a b : Criteria} (filledA : a.nodes ≠ []) (filledB : b.nodes ≠ []) :
    (a.andAlso b).runs =
      a.runs.dropLast ++ (a.runs.getLastD [] ++ joining .and (b.runs.headD [])) :: b.runs.tail := by
  obtain ⟨earlier, last, cutA⟩ := (List.eq_nil_or_concat a.runs).resolve_left (runs_ne_nil filledA)
  obtain ⟨first, rest, cutB⟩ := List.exists_cons_of_ne_nil (runs_ne_nil filledB)
  rw [List.concat_eq_append] at cutA
  have front := isRuns_runsOf a.nodes
  have back := (isRuns_runsOf b.nodes).reopened .and
  rw [← runs, cutA] at front
  rw [← runs, cutB] at back
  rw [andAlso, append_eq, cutA, cutB, runs]
  simpa using (front.meet back (joint_of_joining .and b.nodes)).eq

/-! ## What joined chains mean -/

theorem runHolds_joining (joint : Joint) (document : Json) (run : List Node) :
    runHolds document (joining joint run) = runHolds document run := by
  cases run <;> rfl

theorem any_reopened (joint : Joint) (document : Json) (runs : List (List Node)) :
    (reopened joint runs).any (runHolds document) = runs.any (runHolds document) := by
  cases runs with
  | nil => rfl
  | cons run others => simp [reopened, runHolds_joining]

theorem holds_of_filled {c : Criteria} (filled : c.nodes ≠ []) (document : Json) :
    c.holds document = c.runs.any (runHolds document) := by
  simp [holds, filled]

theorem holds_orElse {a b : Criteria} (filledA : a.nodes ≠ []) (filledB : b.nodes ≠ []) (document : Json) :
    (a.orElse b).holds document = (a.holds document || b.holds document) := by
  have filled : (a.orElse b).nodes ≠ [] := by simp [orElse, append_eq, filledA]
  rw [holds_of_filled filled, holds_of_filled filledA, holds_of_filled filledB, runs_orElse, List.any_append,
    any_reopened]

theorem holds_opened (joint : Joint) (c : Criteria) (document : Json) :
    (c.opened joint).holds document = c.holds document := by
  have empty : (c.opened joint).nodes.isEmpty = c.nodes.isEmpty := by
    rw [opened]
    cases c.nodes <;> rfl
  rw [holds, holds, runs_opened, any_reopened, empty]

theorem joining_append (joint : Joint) (xs ys : List Node) :
    joining joint (xs ++ joining joint ys) = joining joint xs ++ joining joint ys := by
  cases xs with
  | nil => cases ys <;> rfl
  | cons n rest => rfl

theorem append_assoc (a b c : Criteria) (joint : Joint) :
    (a.append joint b).append joint c = a.append joint (b.append joint c) := by
  simp only [append_eq, joining_append, List.append_assoc]

theorem append_everything (a : Criteria) (joint : Joint) : a.append joint everything = a := rfl

theorem everything_append (b : Criteria) (joint : Joint) : everything.append joint b = b.opened joint :=
  append_eq everything b joint

/-- Any chain falls into runs that are not empty and make it up. Joined with `or`, two chains have
the runs of both, so that a document satisfies one of them or the other; joined with `and`, the
last run of the first chain goes on with the first run of the second. In a row of joins of a kind
it does not matter which is made first, and the empty chain changes nothing but how the first
node joins. -/
theorem joins_follow_runs :
    (∀ c : Criteria, IsRuns c.nodes c.runs ∧ (∀ run ∈ c.runs, run ≠ []) ∧ c.runs.flatten = c.nodes) ∧
    (∀ a b : Criteria, a.nodes ≠ [] → b.nodes ≠ [] →
      (a.orElse b).runs = a.runs ++ reopened .or b.runs ∧
      (∀ document, (a.orElse b).holds document = true ↔ a.holds document = true ∨ b.holds document = true) ∧
      (a.andAlso b).runs =
        a.runs.dropLast ++ (a.runs.getLastD [] ++ joining .and (b.runs.headD [])) :: b.runs.tail) ∧
    (∀ a b c : Criteria, (a.orElse b).orElse c = a.orElse (b.orElse c) ∧
      (a.andAlso b).andAlso c = a.andAlso (b.andAlso c)) ∧
    ∀ a : Criteria, (a.orElse everything = a ∧ everything.orElse a = a.opened .or) ∧
      (a.andAlso everything = a ∧ everything.andAlso a = a.opened .and) ∧
      ∀ joint, (a.opened joint).runs = reopened joint a.runs ∧
        ∀ document, (a.opened joint).holds document = a.holds document := by
  refine ⟨fun c => ?_, fun a b filledA filledB => ⟨runs_orElse a b, fun document => ?_, ?_⟩, fun a b c => ?_, fun a => ?_⟩
  · exact ⟨isRuns_runsOf c.nodes, (isRuns_runsOf c.nodes).filled, flatten_runsOf c.nodes⟩
  · rw [holds_orElse filledA filledB, Bool.or_eq_true]
  · exact runs_andAlso filledA filledB
  · exact ⟨append_assoc a b c .or, append_assoc a b c .and⟩
  · refine ⟨⟨append_everything a .or, everything_append a .or⟩, ⟨append_everything a .and, everything_append a .and⟩, ?_⟩
    exact fun joint => ⟨runs_opened joint a, holds_opened joint a⟩

section Books

def asks (field text : String) (joint : Joint) : Node :=
  .ofCondition ⟨field⟩ (.equals (.string text)) joint

/-- Books by an author, or with a word in the title. -/
def byAuthorOrTitle : Criteria :=
  ⟨[asks "author" "Ada" .and, asks "title" "Engines" .or]⟩

/-- A chain whose first node says `or`, which is not looked at until the chain is joined. -/
def inEnglishOrOld : Criteria :=
  ⟨[asks "language" "en" .or, asks "kind" "essay" .and, asks "year" "1843" .or]⟩

theorem authors_and_languages_meet : byAuthorOrTitle.nodes ≠ [] ∧ inEnglishOrOld.nodes ≠ [] ∧
    (byAuthorOrTitle.andAlso inEnglishOrOld).runs = [[asks "author" "Ada" .and],
      [asks "title" "Engines" .or, asks "language" "en" .and, asks "kind" "essay" .and],
      [asks "year" "1843" .or]] ∧
    ∀ document, (byAuthorOrTitle.orElse inEnglishOrOld).holds document = true ↔
      byAuthorOrTitle.holds document = true ∨ inEnglishOrOld.holds document = true := by
  have filledA : byAuthorOrTitle.nodes ≠ [] := List.cons_ne_nil _ _
  have filledB : inEnglishOrOld.nodes ≠ [] := List.cons_ne_nil _ _
  obtain ⟨-, matching, meeting⟩ := joins_follow_runs.2.1 byAuthorOrTitle inEnglishOrOld filledA filledB
  exact ⟨filledA, filledB, meeting.trans rfl, matching⟩

end Books

end DocMapper.Criteria
