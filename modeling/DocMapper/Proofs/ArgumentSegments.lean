import DocMapper.Proofs.BuiltSeries
import DocMapper.Query.Compile
import Mathlib.Data.List.Forall2
/-!
Which arguments the nodes of a query are made of, and what is made of them. `Builds` says for each
keyword which arguments belong to it and which condition it builds of them. A part asks for a
condition if and only if its keyword builds that of the arguments in front, whatever follows them,
and it fails for lack of a query only where the keyword has none. So parts that follow each other
take segments that follow each other.
-/

namespace DocMapper

namespace Argument

/-- A text, or a number or a truth value as it is written. -/
inductive Spells : Argument → String → Prop where
  | text (text : String) : Spells (.value (.string text)) text
  | number (n : Number) : Spells (.value (.number n)) (Json.numberText n)
  | truth (b : Bool) : Spells (.value (.bool b)) (if b then "true" else "false")

/-- A collection; a value that is neither null nor a collection is one of itself alone. -/
inductive Lists : Argument → List Json → Prop where
  | list (items : List Json) : Lists (.list items) items
  | array (items : List Json) : Lists (.value (.array items)) items
  | lone {value : Json} (given : value ≠ .null) (single : ∀ items, value ≠ .array items) :
      Lists (.value value) [value]

/-- A point, or a value that says one. -/
inductive Locates : Argument → GeoPoint → Prop where
  | point (p : GeoPoint) : Locates (.point p) p
  | value {value : Json} {p : GeoPoint} (read : GeoPoint.ofJson? value = some p) : Locates (.value value) p

/-- A distance, or a text that says one. -/
inductive Measures : Argument → Distance → Prop where
  | distance (d : Distance) : Measures (.distance d) d
  | text {text : String} {d : Distance} (read : Distance.parse text = .ok d) : Measures (.value (.string text)) d

variable {argument : Argument} {token : String}

theorem scalar_eq_ok_iff {value : Json} : argument.scalar token = .ok value ↔ argument = .value value := by
  cases argument <;> simp [scalar]

theorem text_eq_ok_iff {text : String} : argument.text token = .ok text ↔ argument.Spells text := by
  constructor
  · intro read
    rw [Argument.text.eq_def] at read
    split at read
    · cases read
      exact .text _
    · cases read
      exact .number _
    · next b =>
        cases read
        cases b
        · exact .truth false
        · exact .truth true
    · cases read
  · rintro (text | n | b)
    · rfl
    · rfl
    · cases b <;> rfl

theorem values_eq_ok_iff {items : List Json} : argument.values token = .ok items ↔ argument.Lists items := by
  constructor
  · intro read
    rw [values.eq_def] at read
    split at read
    · cases read
      exact .list _
    · cases read
      exact .array _
    · cases read
    · -- Neither a list nor an array nor null: a list of one.
      next value notArray notNull =>
        cases read
        exact .lone (fun same => notNull (same ▸ rfl)) (fun items same => notArray items (same ▸ rfl))
    · cases read
  · intro lists
    cases lists with
    | list | array => rfl
    | @lone value given single =>
        cases value with
        | null => exact absurd rfl given
        | array items => exact absurd rfl (single items)
        | _ => rfl

theorem pointOf_eq_ok_iff {p : GeoPoint} : argument.pointOf token = .ok p ↔ argument.Locates p := by
  constructor
  · intro read
    rw [pointOf.eq_def] at read
    split at read
    · cases read
      exact .point _
    · split at read
      · next said =>
          cases read
          exact .value said
      · cases read
    · cases read
  · rintro (p | read)
    · rfl
    · simp [pointOf, read]

end Argument

namespace Query

variable {resolve : Resolver} {part : Part} {joint : Joint} {property : ResolvedProperty} {keyword : Keyword}
  {type : FieldType} {token : String} {arguments segment rest : List Argument} {asked : Condition} {negated isGeo : Bool}

/-- How a part is read: by its property if this is known, else whole and asked for equality. -/
inductive Reading (resolve : Resolver) (part : Part) : ResolvedProperty → Keyword → Prop where
  | property {found : ResolvedProperty} (known : resolve part.property = some found) :
      Reading resolve part found part.keyword
  | whole {found : ResolvedProperty} (unknown : resolve part.property = none) (more : part.keyword ≠ .is)
      (known : resolve part.raw = some found) : Reading resolve part found .is

theorem resolvePart_eq_ok_iff :
    resolvePart resolve part = .ok (property, keyword) ↔ Reading resolve part property keyword := by
  rw [resolvePart]
  constructor
  · intro read
    cases known : resolve part.property with
    | some found =>
        rw [known] at read
        cases read
        exact .property known
    | none =>
        rw [known] at read
        by_cases plain : part.keyword = .is
        · simp [plain] at read
        · simp only [if_neg plain] at read
          cases whole : resolve part.raw with
          | none => simp [whole] at read
          | some found =>
              simp only [whole, Except.ok.injEq, Prod.mk.injEq] at read
              obtain ⟨rfl, rfl⟩ := read
              exact .whole known plain whole
  · rintro (known | ⟨unknown, more, known⟩)
    · simp [known]
    · simp [unknown, more, known]

theorem resolvePart_error {e : DerivationError} (failed : resolvePart resolve part = .error e) :
    e = .missingProperty part.raw part.property := by
  rw [resolvePart] at failed
  split at failed
  · cases failed
  · split at failed <;> cases failed
    rfl

/-- How many arguments belong to a keyword, seeing which come first: a box stands alone. -/
def segmentLength (keyword : Keyword) (segment : List Argument) : Nat :=
  if keyword = .near ∨ keyword = .within then
    match segment with
    | .box _ :: _ => 1
    | _ => 2
  else keyword.arity

/-- What two arguments, or a box alone, say of where a place is to be. -/
inductive Nearby : List Argument → Condition → Prop where
  | box (box : GeoBox) : Nearby [.box box] (.boundedBy box)
  | circle {first second : Argument} {center : GeoPoint} {radius : Distance} (located : first.Locates center)
      (measured : second.Measures radius) : Nearby [first, second] (.within center radius)
  | corners {first second : Argument} {p q : GeoPoint} (located : first.Locates p)
      (unmeasured : ∀ radius, ¬second.Measures radius) (opposite : second.Locates q) :
      Nearby [first, second] (.boundedBy ⟨p, q⟩)

/-- What a keyword builds, on a field of some type, of the arguments that belong to it: a condition,
and whether this is denied. -/
inductive Builds (type : FieldType) : Keyword → List Argument → Condition → Bool → Prop where
  | isTrue : Builds type .isTrue [] (.equals (.bool true)) false
  | isFalse : Builds type .isFalse [] (.equals (.bool false)) false
  | is (plain : type ≠ .geoPoint) (value : Json) : Builds type .is [.value value] (.equals value) false
  | isNot (plain : type ≠ .geoPoint) (value : Json) : Builds type .isNot [.value value] (.equals value) true
  | isAt (geo : type = .geoPoint) {a : Argument} {p : GeoPoint} (located : a.Locates p) :
      Builds type .is [a] (.within p exactPointRadius) false
  | isNotAt (geo : type = .geoPoint) {a : Argument} {p : GeoPoint} (located : a.Locates p) :
      Builds type .isNot [a] (.within p exactPointRadius) true
  | between (low high : Json) : Builds type .between [.value low, .value high]
      (.between (if low = .null then none else some low) (if high = .null then none else some high)) false
  | lessThan (value : Json) : Builds type .lessThan [.value value] (.less value) false
  | lessThanEqual (value : Json) : Builds type .lessThanEqual [.value value] (.lessEqual value) false
  | greaterThan (value : Json) : Builds type .greaterThan [.value value] (.greater value) false
  | greaterThanEqual (value : Json) : Builds type .greaterThanEqual [.value value] (.greaterEqual value) false
  | before (value : Json) : Builds type .before [.value value] (.lessEqual value) false
  | after (value : Json) : Builds type .after [.value value] (.greaterEqual value) false
  | like {a : Argument} {text : String} (spelled : a.Spells text) : Builds type .like [a] (.startsWith text) false
  | notLike {a : Argument} {text : String} (spelled : a.Spells text) : Builds type .notLike [a] (.startsWith text) true
  | startingWith {a : Argument} {text : String} (spelled : a.Spells text) :
      Builds type .startingWith [a] (.startsWith text) false
  | endingWith {a : Argument} {text : String} (spelled : a.Spells text) :
      Builds type .endingWith [a] (.endsWith text) false
  | containing {a : Argument} {text : String} (spelled : a.Spells text) :
      Builds type .containing [a] (.contains text) false
  | notContaining {a : Argument} {text : String} (spelled : a.Spells text) :
      Builds type .notContaining [a] (.contains text) true
  | isIn {a : Argument} {items : List Json} (listed : a.Lists items) : Builds type .isIn [a] (.anyOf items) false
  | isNotIn {a : Argument} {items : List Json} (listed : a.Lists items) : Builds type .isNotIn [a] (.noneOf items) false
  | regex {a : Argument} {text : String} (spelled : a.Spells text) : Builds type .regex [a] (.expression text) false
  | fuzzy {a : Argument} {text : String} (spelled : a.Spells text) : Builds type .fuzzy [a] (.fuzzy text) false
  | near {segment : List Argument} {asked : Condition} (nearby : Nearby segment asked) :
      Builds type .near segment asked false
  | within {segment : List Argument} {asked : Condition} (nearby : Nearby segment asked) :
      Builds type .within segment asked false

theorem Nearby.length (nearby : Nearby segment asked) : segment.length = segmentLength .near segment := by
  cases nearby with
  | box => rfl
  | circle located | corners located => cases located <;> rfl

theorem Builds.length (built : Builds type keyword segment asked negated) :
    segment.length = segmentLength keyword segment := by
  cases built with
  | near nearby | within nearby => exact nearby.length
  | _ => rfl

theorem Builds.supported (built : Builds type keyword segment asked negated) : keyword.isSupported = true := by
  cases built <;> rfl

section Readers

variable {α : Type} {read : String → Argument → Except DerivationError α} {condition : α → Condition}

theorem onArgument_eq_ok_iff : onArgument token arguments read condition = .ok (asked, rest) ↔
    ∃ argument value, arguments = argument :: rest ∧ read token argument = .ok value ∧ asked = condition value := by
  constructor
  · intro done
    obtain ⟨⟨argument, others⟩, next, done⟩ := bind_eq_ok.mp done
    obtain ⟨value, made, done⟩ := bind_eq_ok.mp done
    cases done
    cases arguments with
    | nil => cases next
    | cons first more =>
        cases next
        exact ⟨_, value, rfl, made, rfl⟩
  · rintro ⟨argument, value, rfl, made, rfl⟩
    simp [onArgument, Argument.next, bind, Except.bind, made, pure, Except.pure]

end Readers

theorem bound_eq (value : Json) : bound value = if value = .null then none else some value := by
  cases value <;> rfl

theorem between_eq_ok_iff : conditionOf token .between .between isGeo arguments = .ok (asked, rest) ↔
    ∃ low high, arguments = .value low :: .value high :: rest ∧ asked = .between (bound low) (bound high) := by
  constructor
  · intro done
    obtain ⟨⟨bounds, others⟩, taken, done⟩ := bind_eq_ok.mp done
    rw [Argument.take] at taken
    split at taken
    · cases taken
    · next enough =>
        cases taken
        match arguments, enough with
        | first :: second :: more, _ =>
            obtain ⟨low, lower, done⟩ := bind_eq_ok.mp done
            obtain ⟨high, upper, done⟩ := bind_eq_ok.mp done
            cases done
            cases Argument.scalar_eq_ok_iff.mp lower
            cases Argument.scalar_eq_ok_iff.mp upper
            exact ⟨low, high, rfl, rfl⟩
  · rintro ⟨low, high, rfl, rfl⟩
    have both : Argument.take token 2 (.value low :: .value high :: rest) = .ok ([.value low, .value high], rest) := by
      simp [Argument.take]
    simp [conditionOf, both, Argument.scalar, bind, Except.bind, pure, Except.pure]

/-- What the second of two arguments makes of a point: a circle around it, or a box to another
corner. -/
def around (center : GeoPoint) (token : String) (second : Argument) : Except DerivationError Condition :=
  let corner := (second.pointOf token).map fun p => .boundedBy ⟨center, p⟩
  match second with
  | .distance radius => .ok (.within center radius)
  | .value (.string raw) =>
      match Distance.parse raw with
      | .ok radius => .ok (.within center radius)
      | .error _ => corner
  | _ => corner

section Around

variable {first second : Argument} {center : GeoPoint}

theorem nearby_pointless {e : DerivationError} (notBox : ∀ box, first ≠ .box box)
    (failed : first.pointOf token = .error e) (more : List Argument) : nearby token (first :: more) = .error e := by
  cases first with
  | box box => exact absurd rfl (notBox box)
  | value | point | distance | list => simp [nearby, Argument.next, bind, Except.bind, failed]

theorem around_measured {radius : Distance} (measured : second.Measures radius) :
    around center token second = .ok (.within center radius) := by
  cases measured with
  | distance => rfl
  | text read => simp [around, read]

theorem around_unmeasured (unmeasured : ∀ radius, ¬second.Measures radius) :
    around center token second = (second.pointOf token).map fun p => .boundedBy ⟨center, p⟩ := by
  unfold around
  split
  · exact absurd (.distance _) (unmeasured _)
  · split
    · next read => exact absurd (.text read) (unmeasured _)
    · rfl
  · rfl

theorem around_eq_ok_iff : around center token second = .ok asked ↔
    (∃ radius, second.Measures radius ∧ asked = .within center radius) ∨
      (∀ radius, ¬second.Measures radius) ∧ ∃ q, second.Locates q ∧ asked = .boundedBy ⟨center, q⟩ := by
  -- An argument that measures a distance is never taken for the other corner.
  by_cases measured : ∃ radius, second.Measures radius
  · obtain ⟨radius, measured⟩ := measured
    have same : around center token second = .ok (.within center radius) := around_measured measured
    constructor
    · intro made
      cases same.symm.trans made
      exact .inl ⟨radius, measured, rfl⟩
    · rintro (⟨other, measured, rfl⟩ | ⟨unmeasured, -⟩)
      · exact around_measured measured
      · exact absurd measured (unmeasured radius)
  · have unmeasured := not_exists.mp measured
    rw [around_unmeasured unmeasured]
    constructor
    · intro made
      cases read : second.pointOf token with
      | error e => simp [read, Except.map] at made
      | ok q =>
          rw [read] at made
          cases made
          exact .inr ⟨unmeasured, q, Argument.pointOf_eq_ok_iff.mp read, rfl⟩
    · rintro (⟨radius, other, -⟩ | ⟨-, q, opposite, rfl⟩)
      · exact absurd other (unmeasured radius)
      · rw [Argument.pointOf_eq_ok_iff.mpr opposite]
        rfl

variable (point : first.pointOf token = .ok center)

include point

theorem nearby_point : nearby token [first] = .error (.arityMismatch token 1 0) := by
  cases first with
  | box box => cases point
  | value | point | distance | list => simp [nearby, Argument.next, bind, Except.bind, point]

theorem nearby_pair (second : Argument) (rest : List Argument) :
    nearby token (first :: second :: rest) = (around center token second).map fun condition => (condition, rest) := by
  cases first with
  | box box => cases point
  | value | point | distance | list =>
      simp only [nearby, around, Argument.next, bind, Except.bind, point, pure, Except.pure]
      cases corner : second.pointOf token <;> grind [Except.map]

theorem nearby_pair_eq_ok {more : List Argument} : nearby token (first :: second :: more) = .ok (asked, rest) ↔
    around center token second = .ok asked ∧ more = rest := by
  rw [nearby_pair point]
  cases around center token second <;> simp [Except.map]

end Around

theorem nearby_eq_ok_iff : nearby token arguments = .ok (asked, rest) ↔
    ∃ segment, arguments = segment ++ rest ∧ Nearby segment asked := by
  constructor
  · intro done
    cases arguments with
    | nil => cases done
    | cons first more =>
        -- A box stands alone; all else locates a point and needs a second argument.
        by_cases boxed : ∃ box, first = .box box
        · obtain ⟨box, rfl⟩ := boxed
          cases done
          exact ⟨[.box box], rfl, .box box⟩
        have notBox : ∀ box, first ≠ .box box := fun box same => boxed ⟨box, same⟩
        cases point : first.pointOf token with
        | error e => exact nomatch (nearby_pointless notBox point more).symm.trans done
        | ok center =>
            have located := Argument.pointOf_eq_ok_iff.mp point
            cases more with
            | nil => exact nomatch (nearby_point point).symm.trans done
            | cons second more =>
                obtain ⟨made, rfl⟩ := (nearby_pair_eq_ok point).mp done
                rcases around_eq_ok_iff.mp made with ⟨radius, measured, rfl⟩ | ⟨unmeasured, q, opposite, rfl⟩
                · exact ⟨[first, second], rfl, .circle located measured⟩
                · exact ⟨[first, second], rfl, .corners located unmeasured opposite⟩
  · rintro ⟨segment, rfl, near⟩
    cases near with
    | box => rfl
    | circle located measured =>
        exact (nearby_pair_eq_ok (Argument.pointOf_eq_ok_iff.mpr located)).mpr
          ⟨around_measured measured, rfl⟩
    | corners located unmeasured opposite =>
        exact (nearby_pair_eq_ok (Argument.pointOf_eq_ok_iff.mpr located)).mpr
          ⟨around_eq_ok_iff.mpr (.inr ⟨unmeasured, _, opposite, rfl⟩), rfl⟩

theorem condition_place (place : keyword = .near ∨ keyword = .within) :
    condition token keyword isGeo arguments =
      (nearby token arguments).map fun (condition, rest) => ((condition, false), rest) := by
  rcases place with rfl | rfl <;> rfl

theorem condition_operated {operator : Operator} {denied : Bool} (named : keyword.operator? = some (operator, denied)) :
    condition token keyword isGeo arguments =
      (conditionOf token keyword operator isGeo arguments).map fun (condition, rest) => ((condition, denied), rest) := by
  have supported : keyword.isSupported = true := by cases keyword <;> simp_all [Keyword.operator?, Keyword.isSupported]
  have place : ¬(keyword = .near ∨ keyword = .within) := by
    rintro (rfl | rfl) <;> cases named
  simp [condition, supported, place, named]

theorem condition_unsupported (unsupported : keyword.isSupported = false) :
    condition token keyword isGeo arguments = .error (noQuery token keyword) := by
  simp [condition, unsupported]

theorem denied_eq_ok_iff {result : Except DerivationError (Condition × List Argument)} {denied : Bool} :
    (result.map fun (condition, rest) => ((condition, denied), rest)) = .ok ((asked, negated), rest) ↔
      result = .ok (asked, rest) ∧ denied = negated := by
  cases result with
  | error e => simp [Except.map]
  | ok found =>
      simp only [Except.map, Except.ok.injEq, Prod.ext_iff]
      tauto

theorem condition_eq_ok_iff : condition token keyword type.isGeo arguments = .ok ((asked, negated), rest) ↔
    ∃ segment, arguments = segment ++ rest ∧ Builds type keyword segment asked negated := by
  -- One case for each way to read arguments, whichever keywords share it.
  cases keyword
  case isTrue | isFalse =>
    rw [condition_operated rfl, denied_eq_ok_iff]
    constructor
    · rintro ⟨done, rfl⟩
      cases done
      exact ⟨[], rfl, by constructor⟩
    · rintro ⟨segment, rfl, built⟩
      cases built
      exact ⟨rfl, rfl⟩
  case lessThan | lessThanEqual | before | greaterThan | greaterThanEqual | after =>
    rw [condition_operated rfl, denied_eq_ok_iff]
    simp only [conditionOf, onArgument_eq_ok_iff, Argument.scalar_eq_ok_iff]
    constructor
    · rintro ⟨⟨argument, value, rfl, rfl, rfl⟩, rfl⟩
      exact ⟨[.value value], rfl, by constructor⟩
    · rintro ⟨segment, rfl, built⟩
      cases built
      exact ⟨⟨_, _, rfl, rfl, rfl⟩, rfl⟩
  case like | notLike | startingWith | endingWith | containing | notContaining | regex | fuzzy =>
    rw [condition_operated rfl, denied_eq_ok_iff]
    simp only [conditionOf, onArgument_eq_ok_iff, Argument.text_eq_ok_iff]
    constructor
    · rintro ⟨⟨argument, text, rfl, spelled, rfl⟩, rfl⟩
      exact ⟨[argument], rfl, by constructor; exact spelled⟩
    · rintro ⟨segment, rfl, built⟩
      cases built
      exact ⟨⟨_, _, rfl, ‹_›, rfl⟩, rfl⟩
  case isIn | isNotIn =>
    rw [condition_operated rfl, denied_eq_ok_iff]
    simp only [conditionOf, onArgument_eq_ok_iff, Argument.values_eq_ok_iff]
    constructor
    · rintro ⟨⟨argument, items, rfl, listed, rfl⟩, rfl⟩
      exact ⟨[argument], rfl, by constructor; exact listed⟩
    · rintro ⟨segment, rfl, built⟩
      cases built
      exact ⟨⟨_, _, rfl, ‹_›, rfl⟩, rfl⟩
  case between =>
    rw [condition_operated rfl, denied_eq_ok_iff, between_eq_ok_iff]
    simp only [bound_eq]
    constructor
    · rintro ⟨⟨low, high, rfl, rfl⟩, rfl⟩
      exact ⟨[.value low, .value high], rfl, .between low high⟩
    · rintro ⟨segment, rfl, built⟩
      cases built
      exact ⟨⟨_, _, rfl, rfl⟩, rfl⟩
  case is | isNot =>
    rw [condition_operated rfl, denied_eq_ok_iff]
    -- Equality alone asks for the type: of a point it is a circle.
    by_cases geo : type = .geoPoint
    · have placed : type.isGeo = true := by simp [FieldType.isGeo, geo]
      simp only [conditionOf, placed, ↓reduceIte, onArgument_eq_ok_iff, Argument.pointOf_eq_ok_iff]
      constructor
      · rintro ⟨⟨argument, p, rfl, located, rfl⟩, rfl⟩
        exact ⟨[argument], rfl, by constructor; exacts [geo, located]⟩
      · rintro ⟨segment, rfl, built⟩
        cases built
        · contradiction
        · exact ⟨⟨_, _, rfl, ‹_›, rfl⟩, rfl⟩
    · have plain : type.isGeo = false := by simp [FieldType.isGeo, geo]
      simp only [conditionOf, plain, Bool.false_eq_true, ↓reduceIte, onArgument_eq_ok_iff, Argument.scalar_eq_ok_iff]
      constructor
      · rintro ⟨⟨argument, value, rfl, rfl, rfl⟩, rfl⟩
        exact ⟨[.value value], rfl, by constructor; exact geo⟩
      · rintro ⟨segment, rfl, built⟩
        cases built
        · exact ⟨⟨_, _, rfl, rfl, rfl⟩, rfl⟩
        · contradiction
  case near | within =>
    rw [condition_place (by simp), denied_eq_ok_iff, nearby_eq_ok_iff]
    constructor
    · rintro ⟨⟨segment, rfl, near⟩, rfl⟩
      exact ⟨segment, rfl, by constructor; exact near⟩
    · rintro ⟨segment, rfl, built⟩
      cases built
      exact ⟨⟨segment, rfl, ‹_›⟩, rfl⟩
  case present | isNull | isNotNull | isEmpty | isNotEmpty =>
    rw [condition_unsupported rfl]
    constructor
    · rintro ⟨⟩
    · rintro ⟨segment, -, built⟩
      cases built

section Failures

variable {α β : Type}

/-- Not the failure of a keyword without a query. -/
def Queryable (result : Except DerivationError α) : Prop :=
  ∀ token keyword, result ≠ .error (.unsupportedPredicate token keyword)

theorem queryable_ok (value : α) : Queryable (.ok value) := by
  rintro token keyword ⟨⟩

theorem Queryable.of_error {e : DerivationError} (failure : Queryable (.error e : Except DerivationError α)) :
    Queryable (.error e : Except DerivationError β) := by
  rintro token keyword ⟨⟩
  exact failure token keyword rfl

theorem Queryable.bind {result : Except DerivationError α} {next : α → Except DerivationError β}
    (first : Queryable result) (later : ∀ value, Queryable (next value)) : Queryable (result.bind next) := by
  cases result with
  | ok value => exact later value
  | error e => exact first.of_error

theorem Queryable.map {result : Except DerivationError α} (first : Queryable result) (f : α → β) :
    Queryable (result.map f) := by
  cases result with
  | ok value => exact queryable_ok (f value)
  | error e => exact first.of_error

theorem queryable_scalar (token : String) (argument : Argument) : Queryable (argument.scalar token) := by
  intro token' keyword
  cases argument <;> simp [Argument.scalar]

theorem queryable_text (token : String) (argument : Argument) : Queryable (argument.text token) := by
  intro token' keyword
  unfold Argument.text
  split <;> simp

theorem queryable_values (token : String) (argument : Argument) : Queryable (argument.values token) := by
  intro token' keyword
  unfold Argument.values
  split <;> simp

theorem queryable_pointOf (token : String) (argument : Argument) : Queryable (argument.pointOf token) := by
  intro token' keyword
  unfold Argument.pointOf
  split
  · simp
  · split <;> simp
  · simp

theorem queryable_arity (token : String) (expected actual : Nat) :
    Queryable (.error (.arityMismatch token expected actual) : Except DerivationError α) := by
  rintro token' keyword ⟨⟩

theorem queryable_onArgument {read : String → Argument → Except DerivationError α}
    (queryable : ∀ argument, Queryable (read token argument)) (condition : α → Condition) (arguments : List Argument) :
    Queryable (onArgument token arguments read condition) := by
  cases arguments with
  | nil => exact queryable_arity token 1 0
  | cons argument rest => exact (queryable argument).bind fun value => queryable_ok (condition value, rest)

theorem queryable_between (token : String) (isGeo : Bool) (arguments : List Argument) :
    Queryable (conditionOf token .between .between isGeo arguments) := by
  rcases arguments with _ | ⟨low, _ | ⟨high, rest⟩⟩
  · exact queryable_arity token 2 0
  · exact queryable_arity token 2 1
  · have both : Argument.take token 2 (low :: high :: rest) = .ok ([low, high], rest) := by
      simp [Argument.take]
    simp only [conditionOf, both]
    exact (queryable_scalar token low).bind fun _ => (queryable_scalar token high).bind fun _ => queryable_ok _

theorem queryable_around (center : GeoPoint) (token : String) (second : Argument) :
    Queryable (around center token second) := by
  by_cases measured : ∃ radius, second.Measures radius
  · obtain ⟨radius, measured⟩ := measured
    rw [around_measured measured]
    exact queryable_ok _
  · rw [around_unmeasured (not_exists.mp measured)]
    exact (queryable_pointOf token second).map _

theorem queryable_nearby (token : String) (arguments : List Argument) : Queryable (nearby token arguments) := by
  cases arguments with
  | nil => exact queryable_arity token 1 0
  | cons first more =>
      by_cases boxed : ∃ box, first = .box box
      · obtain ⟨box, rfl⟩ := boxed
        exact queryable_ok _
      have notBox : ∀ box, first ≠ .box box := fun box same => boxed ⟨box, same⟩
      cases point : first.pointOf token with
      | error e =>
          have failure := queryable_pointOf token first
          rw [point] at failure
          rw [nearby_pointless notBox point]
          exact failure.of_error
      | ok center =>
          cases more with
          | nil =>
              rw [nearby_point point]
              exact queryable_arity token 1 0
          | cons second more =>
              rw [nearby_pair point]
              exact (queryable_around center token second).map _

theorem queryable_conditionOf {operator : Operator} {denied : Bool} (named : keyword.operator? = some (operator, denied))
    (token : String) (isGeo : Bool) (arguments : List Argument) :
    Queryable (conditionOf token keyword operator isGeo arguments) := by
  cases keyword
  case isTrue | isFalse =>
    cases named
    exact queryable_ok _
  case is | isNot =>
    cases named
    cases isGeo with
    | false => exact queryable_onArgument (queryable_scalar token) _ arguments
    | true => exact queryable_onArgument (queryable_pointOf token) _ arguments
  case between =>
    cases named
    exact queryable_between token isGeo arguments
  case lessThan | lessThanEqual | before | greaterThan | greaterThanEqual | after =>
    cases named
    exact queryable_onArgument (queryable_scalar token) _ arguments
  case like | notLike | startingWith | endingWith | containing | notContaining | regex | fuzzy =>
    cases named
    exact queryable_onArgument (queryable_text token) _ arguments
  case isIn | isNotIn =>
    cases named
    exact queryable_onArgument (queryable_values token) _ arguments
  case near | within | present | isNull | isNotNull | isEmpty | isNotEmpty => cases named

theorem queryable_condition (supported : keyword.isSupported = true) (token : String) (isGeo : Bool)
    (arguments : List Argument) : Queryable (condition token keyword isGeo arguments) := by
  by_cases place : keyword = .near ∨ keyword = .within
  · rw [condition_place place]
    exact (queryable_nearby token arguments).map _
  · have operated : ∃ operator denied, keyword.operator? = some (operator, denied) := by
      cases keyword <;> simp_all [Keyword.operator?, Keyword.isSupported]
    obtain ⟨operator, denied, named⟩ := operated
    rw [condition_operated named]
    exact (queryable_conditionOf named token isGeo arguments).map _

end Failures

/-- How a part made a node of a segment: read as it is, with a keyword that has a query, it takes
the segment from the front of any arguments and makes this node, which asks on the part's property
for what the keyword builds of the segment alone. -/
def Makes (resolve : Resolver) (part : Part) (made : Node × List Argument) : Prop :=
  ∃ property keyword, Reading resolve part property keyword ∧ keyword.isSupported = true ∧
    made.1.field = property.path ∧ made.1.boost = none ∧ made.2.length = segmentLength keyword made.2 ∧
    Builds property.type keyword made.2 made.1.condition made.1.negated ∧
    ∀ others, node resolve made.1.joint part (made.2 ++ others) = .ok (made.1, others)

/-- Whether a part is read with a keyword that has no query. -/
def Unsupported (resolve : Resolver) (token name : String) (part : Part) : Prop :=
  ∃ property keyword, Reading resolve part property keyword ∧
    keyword ∈ [.present, .isNull, .isNotNull, .isEmpty, .isNotEmpty] ∧ token = part.raw ∧ name = keyword.name

section Nodes

variable {n : Node} {ns : List Node} {parts : List (Joint × Part)} {name : String}

/-- The node on a property that asks for a condition, or for its denial. -/
def nodeOn (property : ResolvedProperty) (joint : Joint) (asked : Condition × Bool) : Node :=
  { Node.ofCondition property.path asked.1 joint with negated := asked.2 }

theorem node_eq (reading : Reading resolve part property keyword) (joint : Joint) (arguments : List Argument) :
    node resolve joint part arguments =
      (condition part.raw keyword property.type.isGeo arguments).map fun (asked, rest) =>
        (nodeOn property joint asked, rest) := by
  rw [node, resolvePart_eq_ok_iff.mpr reading]
  cases made : condition part.raw keyword property.type.isGeo arguments <;>
    simp [bind, Except.bind, made, pure, Except.pure, Except.map, nodeOn]

theorem node_eq_ok_iff (reading : Reading resolve part property keyword) :
    node resolve joint part arguments = .ok (n, rest) ↔ ∃ segment asked negated, arguments = segment ++ rest ∧
      Builds property.type keyword segment asked negated ∧ n = nodeOn property joint (asked, negated) := by
  rw [node_eq reading]
  constructor
  · intro made
    cases done : condition part.raw keyword property.type.isGeo arguments with
    | error e => simp [done, Except.map] at made
    | ok found =>
        obtain ⟨⟨asked, negated⟩, left⟩ := found
        rw [done] at made
        cases made
        obtain ⟨segment, split, built⟩ := condition_eq_ok_iff.mp done
        exact ⟨segment, asked, negated, split, built, rfl⟩
  · rintro ⟨segment, asked, negated, split, built, rfl⟩
    rw [condition_eq_ok_iff.mpr ⟨segment, split, built⟩]
    rfl

theorem node_unsupported (reading : Reading resolve part property keyword) (unsupported : keyword.isSupported = false)
    (joint : Joint) (arguments : List Argument) :
    node resolve joint part arguments = .error (.unsupportedPredicate part.raw keyword.name) := by
  rw [node_eq reading, condition_unsupported unsupported]
  rfl

theorem makes_of_node (made : node resolve joint part arguments = .ok (n, rest)) :
    ∃ segment, arguments = segment ++ rest ∧ n.joint = joint ∧ Makes resolve part (n, segment) := by
  obtain ⟨⟨property, keyword⟩, read, -⟩ := bind_eq_ok.mp made
  have reading := resolvePart_eq_ok_iff.mp read
  obtain ⟨segment, asked, negated, split, built, rfl⟩ := (node_eq_ok_iff reading).mp made
  refine ⟨segment, split, rfl, property, keyword, reading, built.supported, rfl, rfl, built.length, built, fun others => ?_⟩
  exact (node_eq_ok_iff reading).mpr ⟨segment, asked, negated, rfl, built, rfl⟩

theorem unsupported_of_node (failed : node resolve joint part arguments = .error (.unsupportedPredicate token name)) :
    Unsupported resolve token name part := by
  cases read : resolvePart resolve part with
  | error e =>
      rw [node, read] at failed
      cases resolvePart_error read
      cases failed
  | ok found =>
      obtain ⟨property, keyword⟩ := found
      have reading := resolvePart_eq_ok_iff.mp read
      cases supported : keyword.isSupported with
      | true =>
          have queryable := (queryable_condition supported part.raw property.type.isGeo arguments).map
            fun (asked, rest) => (nodeOn property joint asked, rest)
          rw [node_eq reading] at failed
          exact absurd failed (queryable token name)
      | false =>
          rw [node_unsupported reading supported] at failed
          cases failed
          refine ⟨property, keyword, reading, ?_, rfl, rfl⟩
          cases keyword <;> simp_all [Keyword.isSupported]

theorem segments_of_nodes (made : nodes resolve parts arguments = .ok (ns, rest)) :
    ∃ pieces : List (Node × List Argument), pieces.map Prod.fst = ns ∧
      arguments = (pieces.map Prod.snd).flatten ++ rest ∧ ns.map Node.joint = parts.map Prod.fst ∧
      List.Forall₂ (Makes resolve) (parts.map Prod.snd) pieces := by
  induction parts generalizing arguments ns with
  | nil =>
      cases made
      exact ⟨[], rfl, rfl, rfl, .nil⟩
  | cons head parts ih =>
      obtain ⟨⟨first, after⟩, here, made⟩ := bind_eq_ok.mp made
      obtain ⟨⟨others, left⟩, later, made⟩ := bind_eq_ok.mp made
      cases made
      obtain ⟨segment, rfl, joint, makes⟩ := makes_of_node here
      obtain ⟨pieces, rfl, rfl, joints, each⟩ := ih later
      exact ⟨(first, segment) :: pieces, rfl, by simp, by simp [joint, joints], .cons makes each⟩

theorem unsupported_of_nodes (failed : nodes resolve parts arguments = .error (.unsupportedPredicate token name)) :
    ∃ part ∈ parts.map Prod.snd, Unsupported resolve token name part := by
  induction parts generalizing arguments with
  | nil => cases failed
  | cons head parts ih =>
      rcases bind_eq_error.mp failed with here | ⟨made, -, failed⟩
      · exact ⟨head.2, by simp, unsupported_of_node here⟩
      · rcases bind_eq_error.mp failed with later | ⟨others, -, failed⟩
        · obtain ⟨part, member, unsupported⟩ := ih later
          exact ⟨part, List.mem_cons_of_mem _ member, unsupported⟩
        · cases failed

end Nodes

end Query

end DocMapper
