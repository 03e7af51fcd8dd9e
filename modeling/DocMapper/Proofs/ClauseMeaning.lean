import DocMapper.Proofs.NumberTexts
import DocMapper.Proofs.Sameness
import DocMapper.Proofs.WildcardQueries
import DocMapper.Proofs.DictLaws
/-!
What a clause asks of the field it names. Conditions that are written alike ask alike: a bound
left open is not written, and a denial is written as what it denies. A clause tells what it asks
unless it loses it: the radius around a point of a field named `distance`, and coordinates that
are no finite numbers.
-/

namespace DocMapper.Criteria

inductive Asked where
  | words (text : String)
  | equal (value : Json)
  | search (place : Place) (text : String)
  | expression (pattern : String)
  | fuzzy (text : String)
  | range (bounds : List (String × Json))
  | among (values : List Json)
  | circle (center : GeoPoint) (radius : Distance)
  | box (area : GeoBox)

namespace Asked

def ofCondition : Condition → Asked
  | .equals (.string text) => words text
  | .equals value => equal value
  | .contains text => search .anywhere text
  | .startsWith text => search .atStart text
  | .endsWith text => search .atEnd text
  | .fuzzy text => fuzzy text
  | .expression pattern => expression pattern
  | .between low high => range (rangeBounds low high)
  | .less value => range [("lt", value)]
  | .lessEqual value => range [("lte", value)]
  | .greater value => range [("gt", value)]
  | .greaterEqual value => range [("gte", value)]
  | .anyOf values | .noneOf values => among values
  | .within center radius => circle center radius
  | .boundedBy area => box area

def query : Asked → String
  | words _ => "match"
  | equal _ => "term"
  | search _ _ | expression _ => "query_string"
  | fuzzy _ => "fuzzy"
  | range _ => "range"
  | among _ => "terms"
  | circle _ _ => "geo_distance"
  | box _ => "geo_bounding_box"

def body (field : String) (boost : Option Float32) : Asked → Json
  | words text =>
      single field (withBoost boost [("query", .string text), ("operator", .string "and")])
  | equal value => single field (withBoost boost [("value", value)])
  | search place text => withBoost boost
      [("query", .string (place.query text)), ("fields", .array [.string field]),
        ("analyze_wildcard", .bool true)]
  | expression pattern =>
      withBoost boost [("query", .string pattern), ("fields", .array [.string field])]
  | fuzzy text =>
      single field (withBoost boost [("value", .string text), ("fuzziness", .string "AUTO")])
  | range bounds => single field (withBoost boost bounds)
  | among values => single field (.array values)
  | circle center radius =>
      .ofPairs [("distance", .string radius.format), (field, center.toJson)]
  | box area => single field
      (.ofPairs [("top_left", area.topLeft.toJson), ("bottom_right", area.bottomRight.toJson)])

/-- Whether a value is within the bounds a range query names. -/
def withinBounds (bounds : List (String × Json)) (actual : Json) : Bool :=
  let bound := fun key => Dict.find? key (Dict.ofPairs bounds)
  (bound "gt").all (fun b => actual.compare? b = some .gt) && (bound "gte").all (atLeast actual) &&
    (bound "lt").all (fun b => actual.compare? b = some .lt) && (bound "lte").all (atMost actual)

def holds (actual : Json) : Asked → Bool
  | words text => fieldHolds (.equals (.string text)) actual
  | equal value => fieldHolds (.equals value) actual
  | search place text => fieldHolds (place.condition text) actual
  | expression pattern => fieldHolds (.expression pattern) actual
  | fuzzy text => fieldHolds (.fuzzy text) actual
  | range bounds => anyValue actual (withinBounds bounds)
  | among values => fieldHolds (.anyOf values) actual
  | circle center radius => fieldHolds (.within center radius) actual
  | box area => fieldHolds (.boundedBy area) actual

end Asked

theorem clause_eq (n : Node) : clause n =
    single (Asked.ofCondition n.condition).query ((Asked.ofCondition n.condition).body n.field.text n.boost) := by
  obtain ⟨field, condition, negated, boost, joint⟩ := n
  cases condition with
  | equals value => cases value <;> rfl
  | _ => rfl

theorem anyValue_congr {check check' : Json → Bool} (same : ∀ value, check value = check' value)
    (actual : Json) : anyValue actual check = anyValue actual check' := by
  rw [funext same]

theorem withinBounds_between (low high : Option Json) (actual : Json) :
    Asked.withinBounds (rangeBounds low high) actual = (low.all (atLeast actual) && high.all (atMost actual)) := by
  cases low <;> cases high <;> simp [Asked.withinBounds, rangeBounds, Dict.find?_ofPairs, Dict.find?]

theorem fieldHolds_eq (c : Condition) (actual : Json) :
    fieldHolds c actual = ((Asked.ofCondition c).holds actual != c.isDenial) := by
  -- The five kinds of range differ only in which bounds are written.
  have bounded : ∀ (c : Condition) (bounds : List (String × Json)), c.isDenial = false →
      (∀ value, valueHolds c value = Asked.withinBounds bounds value) →
      anyValue actual (valueHolds c) = (anyValue actual (Asked.withinBounds bounds) != c.isDenial) := by
    intro c bounds affirming agree
    rw [anyValue_congr agree, affirming, Bool.bne_false]
  cases c with
  | equals value => cases value <;> exact (Bool.bne_false _).symm
  | between low high => exact bounded _ _ rfl fun value => (withinBounds_between low high value).symm
  | less bound =>
      refine bounded _ _ rfl fun value => ?_
      simp [valueHolds, Asked.withinBounds, Dict.find?_ofPairs, Dict.find?]
  | lessEqual bound =>
      refine bounded _ _ rfl fun value => ?_
      simp [valueHolds, Asked.withinBounds, Dict.find?_ofPairs, Dict.find?]
  | greater bound =>
      refine bounded _ _ rfl fun value => ?_
      simp [valueHolds, Asked.withinBounds, Dict.find?_ofPairs, Dict.find?]
  | greaterEqual bound =>
      refine bounded _ _ rfl fun value => ?_
      simp [valueHolds, Asked.withinBounds, Dict.find?_ofPairs, Dict.find?]
  | noneOf values => exact (Bool.bne_true _).symm
  | _ => exact (Bool.bne_false _).symm

theorem single_same {key key' : String} {value value' : Json}
    (same : (single key value).same (single key' value') = true) : key = key' ∧ value.same value' = true := by
  simpa [single, Json.same, Json.sameMembers] using same

theorem withBoost_get? (boost : Option Float32) (members : List (String × Json)) {key : String}
    (other : "boost" ≠ key) : (withBoost boost members).get? key = Dict.find? key (Dict.ofPairs members) := by
  cases boost with
  | none => rfl
  | some b => exact (Dict.find?_put _ _ _ _).trans (if_neg other)

section Written

variable {boost boost' : Option Float32} {members members' : List (String × Json)}

theorem same_members (same : (withBoost boost members).same (withBoost boost' members') = true) {key : String}
    (other : "boost" ≠ key) :
    Option.Rel (fun v w => v.same w = true) (Dict.find? key (Dict.ofPairs members))
      (Dict.find? key (Dict.ofPairs members')) := by
  rw [← withBoost_get? boost members other, ← withBoost_get? boost' members' other]
  exact Json.same_get? same key

theorem same_member (same : (withBoost boost members).same (withBoost boost' members') = true) {key : String}
    (other : "boost" ≠ key) {value value' : Json}
    (found : Dict.find? key (Dict.ofPairs members) = some value)
    (found' : Dict.find? key (Dict.ofPairs members') = some value') : value.same value' = true := by
  rw [← withBoost_get? boost members other] at found
  rw [← withBoost_get? boost' members' other] at found'
  exact Json.same_of_get? same found found'

theorem withinBounds_congr (same : (withBoost boost members).same (withBoost boost' members') = true)
    (actual : Json) : Asked.withinBounds members actual = Asked.withinBounds members' actual := by
  have bounds : ∀ (key : String) (check : Json → Bool), "boost" ≠ key →
      (∀ v w, v.same w = true → check v = check w) →
      (Dict.find? key (Dict.ofPairs members)).all check =
        (Dict.find? key (Dict.ofPairs members')).all check := by
    intro key check other agree
    have related := same_members same other
    generalize Dict.find? key (Dict.ofPairs members) = left at related ⊢
    generalize Dict.find? key (Dict.ofPairs members') = right at related ⊢
    cases related with
    | none => rfl
    | some values => exact agree _ _ values
  rw [Asked.withinBounds, Asked.withinBounds]
  simp only
  rw [bounds "gt" _ (by decide) fun v w alike => by rw [compare?_congr alike],
    bounds "gte" _ (by decide) fun v w alike => by rw [atLeast, atLeast, compare?_congr alike],
    bounds "lt" _ (by decide) fun v w alike => by rw [compare?_congr alike],
    bounds "lte" _ (by decide) fun v w alike => by rw [atMost, atMost, compare?_congr alike]]

theorem field_of_fields {f g : String} (same : (withBoost boost members).same (withBoost boost' members') = true)
    (found : Dict.find? "fields" (Dict.ofPairs members) = some (.array [.string f]))
    (found' : Dict.find? "fields" (Dict.ofPairs members') = some (.array [.string g])) : f = g := by
  have lists := same_member same (by decide) found found'
  simpa [Json.same, Json.sameItems] using lists

end Written

section Places

variable {x y : Float} {p q : GeoPoint}

def Finite (p : GeoPoint) : Prop :=
  p.lat.isFinite = true ∧ p.lon.isFinite = true

def Unsigned (p : GeoPoint) : Prop :=
  p.lat ≠ -0 ∧ p.lon ≠ -0

theorem equal_of_written (first : x.isFinite = true) (second : y.isFinite = true)
    (same : (Json.ofDouble x).same (Json.ofDouble y) = true) : (x == y) = true := by
  rw [Json.ofDouble, Json.ofDouble, if_pos first, if_pos second] at same
  exact same

theorem point_same (first : Finite p) (second : Finite q) (same : p.toJson.same q.toJson = true) :
    (p.lat == q.lat) = true ∧ (p.lon == q.lon) = true := by
  simp only [GeoPoint.toJson, Json.same, Json.sameMembers, Bool.and_eq_true] at same
  exact ⟨equal_of_written first.1 second.1 same.1.2, equal_of_written first.2 second.2 same.2.1.2⟩

theorem contains_congr {a b : GeoBox}
    (top : (a.topLeft.lat == b.topLeft.lat) = true ∧ (a.topLeft.lon == b.topLeft.lon) = true)
    (bottom : (a.bottomRight.lat == b.bottomRight.lat) = true ∧
      (a.bottomRight.lon == b.bottomRight.lon) = true) : a.contains = b.contains := by
  funext p
  simp only [GeoBox.contains, le_congr_right top.1, le_congr_left bottom.1, le_congr_left top.2,
    le_congr_right bottom.2]

theorem box_same {a b : GeoBox} (first : Finite a.topLeft ∧ Finite a.bottomRight)
    (second : Finite b.topLeft ∧ Finite b.bottomRight)
    (same : (Json.ofPairs [("top_left", a.topLeft.toJson), ("bottom_right", a.bottomRight.toJson)]).same
      (.ofPairs [("top_left", b.topLeft.toJson), ("bottom_right", b.bottomRight.toJson)]) = true) :
    a.contains = b.contains := by
  have top : ∀ area : GeoBox, (Json.ofPairs [("top_left", area.topLeft.toJson),
      ("bottom_right", area.bottomRight.toJson)]).get? "top_left" = some area.topLeft.toJson := by
    intro area
    simp [Json.ofPairs, Json.get?, Dict.find?_ofPairs, Dict.find?]
  have bottom : ∀ area : GeoBox, (Json.ofPairs [("top_left", area.topLeft.toJson),
      ("bottom_right", area.bottomRight.toJson)]).get? "bottom_right" = some area.bottomRight.toJson := by
    intro area
    simp [Json.ofPairs, Json.get?, Dict.find?_ofPairs, Dict.find?]
  exact contains_congr (point_same first.1 second.1 (Json.same_of_get? same (top a) (top b)))
    (point_same first.2 second.2 (Json.same_of_get? same (bottom a) (bottom b)))

theorem circle_same {f g : String} {r r' : Distance} (first : f ≠ "distance") (second : g ≠ "distance")
    (same : (Json.ofPairs [("distance", .string r.format), (f, p.toJson)]).same
      (.ofPairs [("distance", .string r'.format), (g, q.toJson)]) = true) :
    f = g ∧ r = r' ∧ p.toJson.same q.toJson = true := by
  have found : ∀ {f : String} {r : Distance} {p : GeoPoint}, f ≠ "distance" → ∀ key,
      (Json.ofPairs [("distance", .string r.format), (f, p.toJson)]).get? key =
        if f = key then some p.toJson else if "distance" = key then some (.string r.format) else none := by
    intro f r p other key
    simp [Json.ofPairs, Json.get?, Dict.find?_ofPairs, Dict.find?]
  -- The object on the left has a member `f`; the other one has only `g` and the radius.
  have fields : f = g := by
    have center := Json.same_get? same f
    rw [found first, found second, if_pos rfl, if_neg first.symm] at center
    split at center
    · next same => exact same.symm
    · cases center
  subst g
  refine ⟨rfl, ?_, Json.same_of_get? same ((found first f).trans (if_pos rfl)) ((found second f).trans (if_pos rfl))⟩
  have radius := Json.same_of_get? same ((found first "distance").trans (if_neg first))
    ((found second "distance").trans (if_neg first))
  exact Distance.format_injective (beq_iff_eq.mp radius)

end Places

namespace Asked

/-- The clause of a geo condition keeps all of it. -/
def Legible (field : String) : Asked → Prop
  | circle center _ => field ≠ "distance" ∧ Finite center ∧ Unsigned center
  | box area => Finite area.topLeft ∧ Finite area.bottomRight
  | _ => True

variable {f g : String} {boost boost' : Option Float32}

theorem text_of_same {members members' : List (String × Json)} {key text text' : String}
    (same : (withBoost boost members).same (withBoost boost' members') = true) (other : "boost" ≠ key)
    (found : Dict.find? key (Dict.ofPairs members) = some (.string text))
    (found' : Dict.find? key (Dict.ofPairs members') = some (.string text')) : text = text' :=
  beq_iff_eq.mp (same_member same other found found')

theorem search_congr {place place' : Place} {text text' : String}
    (same : ((search place text).body f boost).same ((search place' text').body g boost') = true) :
    f = g ∧ ∀ actual, (search place text).holds actual = (search place' text').holds actual := by
  have fields : f = g := field_of_fields same (by simp [Dict.find?_ofPairs, Dict.find?])
    (by simp [Dict.find?_ofPairs, Dict.find?])
  have queries : place.query text = place'.query text' :=
    text_of_same same (show "boost" ≠ "query" by decide) (by simp [Dict.find?_ofPairs, Dict.find?])
      (by simp [Dict.find?_ofPairs, Dict.find?])
  exact ⟨fields, Place.fieldHolds_congr queries⟩

/-- Only a search asks for its wildcards to be analyzed. -/
theorem search_unlike_expression {place : Place} {text pattern : String}
    (same : ((search place text).body f boost).same ((expression pattern).body g boost') = true) : False := by
  have related := same_members same (show "boost" ≠ "analyze_wildcard" by decide)
  simp [Dict.find?_ofPairs, Dict.find?] at related

theorem expression_congr {pattern pattern' : String}
    (same : ((expression pattern).body f boost).same ((expression pattern').body g boost') = true) :
    f = g ∧ pattern = pattern' := by
  have fields : f = g := field_of_fields same (by simp [Dict.find?_ofPairs, Dict.find?])
    (by simp [Dict.find?_ofPairs, Dict.find?])
  have patterns : pattern = pattern' :=
    text_of_same same (show "boost" ≠ "query" by decide) (by simp [Dict.find?_ofPairs, Dict.find?])
      (by simp [Dict.find?_ofPairs, Dict.find?])
  exact ⟨fields, patterns⟩

/-- Clauses that are written alike ask the same of the same field. -/
theorem holds_congr {p q : Asked} (query : p.query = q.query)
    (same : (p.body f boost).same (q.body g boost') = true) (first : p.Legible f) (second : q.Legible g) :
    f = g ∧ ∀ actual, p.holds actual = q.holds actual := by
  -- The name of the query tells the kinds apart, but for the two that are query strings.
  cases p with
  | words text =>
      cases q with
      | words text' =>
          obtain ⟨fields, inner⟩ := single_same same
          have texts : text = text' := text_of_same inner (show "boost" ≠ "query" by decide)
            (by simp [Dict.find?_ofPairs, Dict.find?]) (by simp [Dict.find?_ofPairs, Dict.find?])
          exact ⟨fields, fun actual => by rw [texts]⟩
      | _ => exact absurd query (by simp [Asked.query])
  | equal value =>
      cases q with
      | equal value' =>
          obtain ⟨fields, inner⟩ := single_same same
          have values := same_member inner (show "boost" ≠ "value" by decide) rfl rfl
          exact ⟨fields, anyValue_congr (looselyEqual_congr values)⟩
      | _ => exact absurd query (by simp [Asked.query])
  | search place text =>
      cases q with
      | search place' text' => exact search_congr same
      | expression pattern => exact (search_unlike_expression same).elim
      | _ => exact absurd query (by simp [Asked.query])
  | expression pattern =>
      cases q with
      | search place text => exact (search_unlike_expression (Json.same_symm same)).elim
      | expression pattern' =>
          obtain ⟨fields, patterns⟩ := expression_congr same
          exact ⟨fields, fun actual => by rw [patterns]⟩
      | _ => exact absurd query (by simp [Asked.query])
  | fuzzy text =>
      cases q with
      | fuzzy text' =>
          obtain ⟨fields, inner⟩ := single_same same
          have texts : text = text' := text_of_same inner (show "boost" ≠ "value" by decide)
            (by simp [Dict.find?_ofPairs, Dict.find?]) (by simp [Dict.find?_ofPairs, Dict.find?])
          exact ⟨fields, fun actual => by rw [texts]⟩
      | _ => exact absurd query (by simp [Asked.query])
  | range bounds =>
      cases q with
      | range bounds' =>
          obtain ⟨fields, inner⟩ := single_same same
          exact ⟨fields, anyValue_congr (withinBounds_congr inner)⟩
      | _ => exact absurd query (by simp [Asked.query])
  | among values =>
      cases q with
      | among values' =>
          obtain ⟨fields, inner⟩ := single_same same
          exact ⟨fields, anyValue_congr (inSet_congr inner)⟩
      | _ => exact absurd query (by simp [Asked.query])
  | circle center radius =>
      cases q with
      | circle center' radius' =>
          obtain ⟨fields, rfl, centers⟩ := circle_same first.1 second.1 same
          obtain ⟨lat, lon⟩ := point_same first.2.1 second.2.1 centers
          have centers : center = center' := by
            obtain ⟨x, y⟩ := center
            obtain ⟨x', y'⟩ := center'
            have sameLat : x = x' := eq_of_equal lat first.2.2.1 second.2.2.1
            have sameLon : y = y' := eq_of_equal lon first.2.2.2 second.2.2.2
            rw [sameLat, sameLon]
          exact ⟨fields, fun actual => by rw [centers]⟩
      | _ => exact absurd query (by simp [Asked.query])
  | box area =>
      cases q with
      | box area' =>
          obtain ⟨fields, inner⟩ := single_same same
          refine ⟨fields, fun actual => ?_⟩
          show pointHolds actual area.contains = pointHolds actual area'.contains
          rw [box_same first second inner]
      | _ => exact absurd query (by simp [Asked.query])

end Asked

end DocMapper.Criteria
