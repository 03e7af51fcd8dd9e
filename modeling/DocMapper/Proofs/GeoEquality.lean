import DocMapper.DocumentType.Build
import DocMapper.Proofs.CompiledQueries
/-!
Equality on points. An engine cannot ask whether a point is another one, so a part that asks a
geo field for equality, plain or denied, becomes a circle of one metre. Every other condition has
the operator of its keyword. That leaves the two keywords that bring a truth value of their own:
on a geo field, too, these ask for equality with it.
-/

namespace DocMapper.Query

variable {resolve : Resolver} {part : Part} {keyword : Keyword} {segment arguments : List Argument} {asked : Condition}
  {denied : Bool}

/-- Compared with an argument, for equality. -/
def ComparesArgument (keyword : Keyword) : Prop :=
  keyword = .is ∨ keyword = .isNot

/-- Compared with a truth value that the keyword itself says. -/
def ComparesTruth (keyword : Keyword) : Prop :=
  keyword = .isTrue ∨ keyword = .isFalse

/-- What is asked of a point: equality with a truth value that the keyword says, a circle around the
one argument in place of equality with it, and otherwise no equality. -/
structure AskedOfPoint (keyword : Keyword) (segment : List Argument) (asked : Condition) (denied : Bool) : Prop where
  equals : asked.operator = .equals ↔ ComparesTruth keyword
  circle : ComparesArgument keyword → (∃ argument center, segment = [argument] ∧ argument.Locates center ∧
    asked = .within center exactPointRadius) ∧ (denied = true ↔ keyword = .isNot)

theorem Nearby.operator (nearby : Nearby segment asked) : asked.operator = .within ∨ asked.operator = .boundedBy := by
  cases nearby with
  | box | corners => exact .inr rfl
  | circle => exact .inl rfl

theorem Builds.askedOfPoint (built : Builds .geoPoint keyword segment asked denied) :
    AskedOfPoint keyword segment asked denied := by
  cases built with
  | is plain | isNot plain => exact absurd rfl plain
  | isAt _ located | isNotAt _ located =>
      exact ⟨by simp [Condition.operator, ComparesTruth], fun _ => ⟨⟨_, _, rfl, located, rfl⟩, by simp⟩⟩
  | isTrue | isFalse => exact ⟨by simp [Condition.operator, ComparesTruth], by simp [ComparesArgument]⟩
  | near nearby | within nearby =>
      refine ⟨iff_of_false ?_ (by simp [ComparesTruth]), by simp [ComparesArgument]⟩
      rcases nearby.operator with circle | box
      · simp [circle]
      · simp [box]
  -- The other keywords have an operator of their own, and it is not equality.
  | _ => exact ⟨by simp [Condition.operator, ComparesTruth], by simp [ComparesArgument]⟩

/-- How a part, its node and the arguments it took belong together: the part is read as a property,
with a keyword, the node is on that property, and of a point it asks what the keyword asks of a point. -/
def NodeOfPart (resolve : Resolver) (part : Part) (made : Node × List Argument) : Prop :=
  ∃ property keyword, Reading resolve part property keyword ∧ made.1.field = property.path ∧
    (property.type = .geoPoint → AskedOfPoint keyword made.2 made.1.condition made.1.negated)

theorem Makes.nodeOfPart {made : Node × List Argument} (makes : Makes resolve part made) :
    NodeOfPart resolve part made := by
  obtain ⟨property, keyword, reading, -, field, -, -, built, -⟩ := makes
  refine ⟨property, keyword, reading, field, fun geo => ?_⟩
  rw [geo] at built
  exact built.askedOfPoint

section Methods

variable {method : String} {query : CompiledQuery}

/-- Whatever a method name compiles to, each part of the name has a node and the arguments it is made
of, and a node on a geo field asks for equality exactly if its part does so with a truth value of its own. -/
theorem points_equal_truths_only (compiled : compileMethod resolve method arguments = .ok query) :
    ∃ name, MethodName.parse method = .ok name ∧ ∃ pieces : List (Node × List Argument),
      pieces.map Prod.fst = query.criteria.nodes ∧ (pieces.map Prod.snd).flatten = arguments ∧
      List.Forall₂ (NodeOfPart resolve) name.parts pieces := by
  obtain ⟨name, parsed, compiled⟩ := bind_eq_ok.mp compiled
  obtain ⟨pieces, nodes, split, -, each⟩ := segments_of_nodes (nodes_of_compile compiled)
  rw [jointedParts_parts] at each
  exact ⟨name, parsed, pieces, nodes, by simp [split], each.imp fun _ _ makes => makes.nodeOfPart⟩

end Methods

section Places

/-- Places, each at a spot. -/
def placesConfig : TypeConfig where
  name := "Place"
  indexName := none
  aliasName := none
  timePattern := none
  timeField := none
  rollover := none
  settings := .none
  relation := none
  fields := [⟨"spot", none, .geoPoint, none, []⟩]

def places : DocumentType where
  name := "Place"
  indexName := "place"
  aliasName := none
  addressing := .fixed "place"
  relation := .none
  settings := .none
  fields := [⟨"spot", "spot", ⟨"spot"⟩, .geoPoint, none, []⟩]
  roles := []
  rolloverSchedule := none

/-- Places that are not at a point, or are said to be true: one argument for two geo nodes. -/
theorem spot_denied_or_true :
    ∃ name query, MethodName.parse "findBySpotIsNotOrSpotIsTrue" = .ok name ∧
      compileMethod places.resolve "findBySpotIsNotOrSpotIsTrue" [.point ⟨0, 0⟩] = .ok query ∧
      query.criteria.nodes.map Node.condition = [.within ⟨0, 0⟩ exactPointRadius, .equals (.bool true)] ∧
      ∃ pieces : List (Node × List Argument), pieces.map Prod.fst = query.criteria.nodes ∧
        (pieces.map Prod.snd).flatten = [.point ⟨0, 0⟩] ∧
        List.Forall₂ (NodeOfPart places.resolve) name.parts pieces := by
  have compiled := show compileMethod places.resolve "findBySpotIsNotOrSpotIsTrue" [.point ⟨0, 0⟩] = .ok _ from rfl
  obtain ⟨name, parsed, each⟩ := points_equal_truths_only compiled
  exact ⟨name, _, parsed, compiled, rfl, each⟩

/-- Places are built, and their spot is a geo field that a query asks for equality. -/
theorem spot_equals_true :
    DocumentType.build .empty placesConfig = .ok places ∧ places.resolve "Spot" = some ⟨⟨"spot"⟩, .geoPoint⟩ ∧
      ∃ query, compileMethod places.resolve "findBySpotTrue" [] = .ok query ∧
        query.criteria.nodes = [Node.ofCondition ⟨"spot"⟩ (.equals (.bool true)) .and] :=
  ⟨rfl, rfl, _, rfl, rfl⟩

end Places

end DocMapper.Query
