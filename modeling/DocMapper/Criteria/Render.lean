import DocMapper.Criteria.Basic
/-!
Criteria as an engine query. A run becomes one `bool` query: its conditions go to `must`,
denied ones to `must_not`, and geo conditions, which do not score, to `filter`. Several runs
stand side by side under `should`, of which at least one has to match; the empty chain is
`match_all`.

In a query string the reserved characters of the text are escaped, so the only wildcards
are those the condition puts there.
-/

namespace DocMapper.Criteria

def withBoost (boost : Option Float32) (members : List (String × Json)) : Json :=
  match boost with
  | some b => .object (Dict.put "boost" (.ofDouble b.toFloat) (Dict.ofPairs members))
  | none => .ofPairs members

def single (key : String) (value : Json) : Json :=
  .object [(key, value)]

def isReserved (c : Char) : Bool :=
  "+-=&|><!()\x7b\x7d[]^\"~*?:\\/".toList.contains c

def escapeChars (text : List Char) : List Char :=
  text.flatMap fun c => if isReserved c then ['\\', c] else [c]

def escape (text : String) : String :=
  String.ofList (escapeChars text.toList)

def wildcard (field query : String) (boost : Option Float32) : Json :=
  single "query_string" (withBoost boost
    [("query", .string query), ("fields", .array [.string field]), ("analyze_wildcard", .bool true)])

def rangeBounds (low high : Option Json) : List (String × Json) :=
  (match low with
    | some value => [("gte", value)]
    | none => []) ++
  (match high with
    | some value => [("lte", value)]
    | none => [])

/-- The clause of one node, before it is denied. -/
def clause (n : Node) : Json :=
  let field := n.field.text
  let range (bounds : List (String × Json)) := single "range" (single field (withBoost n.boost bounds))
  match n.condition with
  | .equals (.string text) =>
      single "match" (single field
        (withBoost n.boost [("query", .string text), ("operator", .string "and")]))
  | .equals value => single "term" (single field (withBoost n.boost [("value", value)]))
  | .contains text => wildcard field ("*" ++ escape text ++ "*") n.boost
  | .startsWith text => wildcard field (escape text ++ "*") n.boost
  | .endsWith text => wildcard field ("*" ++ escape text) n.boost
  | .fuzzy text =>
      single "fuzzy" (single field
        (withBoost n.boost [("value", .string text), ("fuzziness", .string "AUTO")]))
  | .expression pattern =>
      single "query_string" (withBoost n.boost
        [("query", .string pattern), ("fields", .array [.string field])])
  | .between low high => range (rangeBounds low high)
  | .less value => range [("lt", value)]
  | .lessEqual value => range [("lte", value)]
  | .greater value => range [("gt", value)]
  | .greaterEqual value => range [("gte", value)]
  | .anyOf values | .noneOf values => single "terms" (single field (.array values))
  | .within center radius =>
      single "geo_distance" (.ofPairs [("distance", .string radius.format), (field, center.toJson)])
  | .boundedBy box =>
      single "geo_bounding_box" (single field (.ofPairs
        [("top_left", box.topLeft.toJson), ("bottom_right", box.bottomRight.toJson)]))

/-- The part of a `bool` query a clause belongs to. -/
inductive Occur where
  | must
  | mustNot
  | filter
deriving DecidableEq, Repr

def Occur.key : Occur → String
  | .must => "must"
  | .mustNot => "must_not"
  | .filter => "filter"

def occur (n : Node) : Occur :=
  if n.negated != n.condition.isDenial then .mustNot
  else if n.condition.isFilter then .filter
  else .must

def clausesAt (run : List Node) (o : Occur) : List Json :=
  (run.filter fun n => occur n = o).map clause

/-- The members of a run's `bool` query; parts without clauses are left out. -/
def occurMembers (run : List Node) : List (String × Json) :=
  [Occur.must, .mustNot, .filter].filterMap fun o =>
    match clausesAt run o with
    | [] => none
    | clauses => some (o.key, .array clauses)

def renderRun (run : List Node) : Json :=
  single "bool" (.ofPairs (occurMembers run))

def renderRuns : List (List Node) → Json
  | [] => single "match_all" (.object [])
  | [run] => renderRun run
  | runs => single "bool" (.object
      [("minimum_should_match", .ofNat 1), ("should", .array (runs.map renderRun))])

def render (c : Criteria) : Json :=
  renderRuns c.runs

def sortClause (key : SortKey) : Json :=
  single key.field.text (single "order" (.string key.direction.word))

def renderSearch (c : Criteria) (sort : List SortKey) (limit : Option Nat) : Json :=
  .ofPairs ([("query", c.render)] ++
    (if sort.isEmpty then [] else [("sort", .array (sort.map sortClause))]) ++
    (match limit with
      | some n => [("size", .ofNat n)]
      | none => []))

end DocMapper.Criteria
