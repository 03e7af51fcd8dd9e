import DocMapper.Cluster.Config
import DocMapper.Criteria.Render
import DocMapper.Engine.Call
import DocMapper.Http.Exchange
import DocMapper.Json.Parser
import DocMapper.Json.Pointer
import DocMapper.Text.Base64
import DocMapper.Time.Calendar
/-!
Calls to a cluster, as exchanges of HTTP. Every call is one request but for the statistics of
an index, whose age takes a second one. A response of any status but success is a fault that
carries the response, save where not being found is an answer.
-/

namespace DocMapper.Cluster

abbrev Talk (α : Type) := ExceptT Fault Http.Exchange α

def lift {α : Type} (result : Except Fault α) : Talk α :=
  .mk (.done result)

/-! ## Requests -/

def addressText (c : ClusterConfig) (path : String) : String :=
  -- The address of a path below that of the cluster, with one slash between them.
  String.ofList (Text.trimEndOf '/' c.url.toList) ++ "/" ++ String.ofList (path.toList.dropWhile (· = '/'))

def address (c : ClusterConfig) (path : String) : Except Fault Url :=
  match Url.parse? (addressText c path) with
  | some url => .ok url
  | none => .error (.badAddress (addressText c path))

def basic (username password : String) : String :=
  "Basic " ++ Base64.encode (username ++ ":" ++ password)

def decoded (text : String) : String :=
  (Percent.decodeText? text.toList).getD text

def authorization (c : ClusterConfig) (url : Url) : Option String :=
  -- The credentials an address holds come first, then an API key, then a user name.
  if url.username ≠ "" || url.password.isSome then
    some (basic (decoded url.username) (decoded (url.password.getD "")))
  else match c.apiKey, c.username with
    | some key, _ => some s!"ApiKey {key}"
    | none, some username => some (basic username (c.password.getD ""))
    | none, none => none

def request (c : ClusterConfig) (method : Http.Method) (url : Url) (body : Option Json) : Http.Request :=
  ⟨method, { url with username := "", password := none }, authorization c url, body⟩

def isSendable (r : Http.Request) : Bool :=
  -- Only addresses of the web can be sent to, and a header holds no control characters.
  (r.url.scheme = "http" || r.url.scheme = "https") && r.url.host.isSome &&
    (r.authorization.getD "").toList.all fun ch => ch = '\t' || 0x20 ≤ ch.toNat && ch.toNat ≠ 0x7f

def send (fault : SendFailure → Fault) (r : Http.Request) : Talk Http.Response :=
  if isSendable r then
    .mk (.ask r fun
      | some response => .done (.ok response)
      | none => .done (.error (fault .unreachable)))
  else lift (.error (fault .unsupported))

/-! ## Responses -/

def expectSuccess (what : String) (r : Http.Response) : Except Fault Http.Response :=
  if r.status.isSuccess then .ok r else .error (.refused what r.status r.body)

def read {α : Type} (kind : ResponseKind) (decode : Json → Option α) (r : Http.Response) : Except Fault α :=
  match (Json.parse? r.body).bind decode with
  | some value => .ok value
  | none => .error (.unreadable kind)

open Json.Decode

def listingOf? (value : Json) : Option (List String) :=
  value.items?.bind fun rows => rows.mapM fun row =>
    (row.record? ["index"]).bind (required? "index" Json.text?)

/-- The index that takes the writes of an alias, where every holder is listed: the first one
with the write flag, or else the only holder. -/
def writerOf (aliasName : String) (value : Json) : Option String :=
  match value.members? with
  | none => none
  | some holders =>
      let flagged (holder : String × Json) : Bool :=
        ((holder.2.pointer? s!"aliases/{aliasName}/is_write_index").bind Json.bool?).getD false
      match List.find? flagged holders, holders with
      | some (index, _), _ => some index
      | none, [(index, _)] => some index
      | none, _ => none

def wasRolled? (value : Json) : Option Bool := do
  let members ← value.record? ["rolled_over", "old_index"]
  let _ ← optional? "old_index" Json.text? members
  withDefault? "rolled_over" false Json.bool? members

def countAt (path : List String) (value : Json) : Nat :=
  ((value.descend? path).bind Json.nat?).getD 0

def wholeNumber? : Json → Option Int
  -- A whole number that may be written as a text.
  | .string text =>
      match text.toList with
      | '-' :: digits => (digitsOf? digits).bind fun n => if n ≤ (1 <<< 63 : Nat) then some (-n) else none
      | '+' :: digits => (digitsOf? digits).bind below
      | digits => (digitsOf? digits).bind below
  | value => value.int?
where
  digitsOf? (digits : List Char) : Option Int :=
    if digits.isEmpty || !digits.all Char.isDigit then none
    else some (digits.foldl (fun n c => 10 * n + (c.toNat - '0'.toNat)) 0 : Nat)
  below (n : Int) : Option Int :=
    if n < (1 <<< 63 : Nat) then some n else none

def createdAt? (value : Json) : Option Instant := do
  -- The instant an index was created at. The response may name the index differently.
  let (_, settings) ← (← value.members?).head?
  Instant.ofMillis? (← wholeNumber? (← settings.descend? ["settings", "index", "creation_date"]))

def replyOf? (value : Json) : Option IndexReply := do
  let members ← value.record? ["_index", "_id", "_version"]
  return {
    index := ← required? "_index" Json.text? members
    id := ← required? "_id" Json.text? members
    version := ← optional? "_version" Json.int? members }

def hitOf? (value : Json) : Option Hit := do
  let members ← value.record? ["_index", "_id", "_score", "_source"]
  return {
    index := ← required? "_index" Json.text? members
    id := ← required? "_id" Json.text? members
    score := ← optional? "_score" Json.double? members
    source := (Dict.find? "_source" members).getD .null }

def hitsOf? (value : Json) : Option (List Hit) := do
  let outer ← value.record? ["hits"]
  let inner ← (← Dict.find? "hits" outer).record? ["hits"]
  withDefault? "hits" [] (fun hits => hits.items?.bind fun items => items.mapM hitOf?) inner

/-! ## Calls -/

def ping (c : ClusterConfig) : Talk Unit := do
  let url ← lift (address c "")
  let response ← send (.clusterOutOfReach c.url) (request c .get url none)
  let _ ← lift (expectSuccess "cluster ping" response)

def tell (c : ClusterConfig) (what : String) (method : Http.Method) (url : Url) (body : Option Json) :
    Talk Http.Response :=
  send (.notSent what) (request c method url body)

def creationDate (c : ClusterConfig) (index : String) : Talk (Option Instant) := do
  let url ← lift (address c s!"{index}/_settings/index.creation_date")
  let response ← tell c "settings" .get url none
  let response ← lift (expectSuccess "settings lookup" response)
  lift (read .settings (fun value => some (createdAt? value)) response)

def createIndex (c : ClusterConfig) (index : String) (body : Json) : Talk Unit := do
  let url ← lift (address c index)
  let response ← tell c "create index" .put url (some body)
  let _ ← lift (expectSuccess s!"creation of index '{index}'" response)

def indexExists (c : ClusterConfig) (index : String) : Talk Bool := do
  let url ← lift (address c index)
  let response ← tell c "index exists" .head url none
  if response.status = .notFound then return false
  else if response.status.isSuccess then return true
  else throw (.unclearExistence index response.status)

def listIndices (c : ClusterConfig) (pattern : String) : Talk (List String) := do
  let url ← lift (address c s!"_cat/indices/{pattern}")
  let response ← tell c "list indices" .get (url.withPairs [("format", "json"), ("h", "index")]) none
  if response.status = .notFound then return []
  let response ← lift (expectSuccess "index listing" response)
  let names ← lift (read .listing listingOf? response)
  return names.mergeSort

def writeIndex (c : ClusterConfig) (aliasName : String) : Talk (Option String) := do
  let url ← lift (address c s!"_alias/{aliasName}")
  let response ← tell c "alias lookup" .get url none
  if response.status = .notFound then return none
  let response ← lift (expectSuccess "alias lookup" response)
  lift (read .aliasHolders (fun value => some (writerOf aliasName value)) response)

def swapActions (s : AliasSwap) : Json :=
  let remove := s.source.map fun source =>
    Json.object [("remove", .object [("alias", .string s.aliasName), ("index", .string source)])]
  let add := Json.object [("add", .object
    [("alias", .string s.aliasName), ("index", .string s.target), ("is_write_index", .bool true)])]
  .object [("actions", .array (remove.toList ++ [add]))]

def swapAlias (c : ClusterConfig) (s : AliasSwap) : Talk Unit := do
  let url ← lift (address c "_aliases")
  let response ← tell c "alias swap" .post url (some (swapActions s))
  let _ ← lift (expectSuccess s!"swap of alias '{s.aliasName}'" response)

def rollover (c : ClusterConfig) (r : RolloverRequest) : Talk Unit := do
  -- A rollover without conditions; that it is due has been decided already.
  let url ← lift (address c s!"{r.aliasName}/_rollover/{r.target}")
  let response ← tell c "rollover" .post url (some r.body)
  let response ← lift (expectSuccess s!"rollover of alias '{r.aliasName}'" response)
  if ← lift (read .rollover wasRolled? response) then return ()
  else throw (.notRolled r.aliasName r.target)

def indexStats (c : ClusterConfig) (now : Instant) (index : String) : Talk IndexStats := do
  let url ← lift (address c s!"{index}/_stats/docs,store")
  let response ← tell c "index stats" .get url none
  let response ← lift (expectSuccess s!"stats lookup for '{index}'" response)
  let stats ← lift (read .stats some response)
  let created ← creationDate c index
  return {
    age := (created.map now.since).getD .zero
    docs := countAt ["_all", "primaries", "docs", "count"] stats
    bytes := countAt ["_all", "primaries", "store", "size_in_bytes"] stats }

def documentPath (index id : String) : String :=
  s!"{index}/_doc/{id}"

def indexDocument (c : ClusterConfig) (r : IndexRequest) : Talk IndexReply := do
  let (method, path) := match r.id with
    | some id => (Http.Method.put, documentPath r.target id)
    | none => (Http.Method.post, s!"{r.target}/_doc")
  let url ← lift (address c path)
  let pairs := (r.routing.map fun routing => ("routing", routing)).toList ++
    (if r.refresh then [("refresh", "true")] else [])
  let response ← tell c "index document" method (url.withPairs pairs) (some r.document)
  let response ← lift (expectSuccess s!"write into '{r.target}'" response)
  lift (read .write replyOf? response)

def search (c : ClusterConfig) (target : String) (r : SearchRequest) : Talk (List Hit) := do
  let url ← lift (address c s!"{target}/_search")
  let response ← tell c "search" .post url (some (r.criteria.renderSearch r.sort r.limit))
  if response.status = .notFound then return []
  let response ← lift (expectSuccess s!"search on '{target}'" response)
  lift (read .search hitsOf? response)

def count (c : ClusterConfig) (target : String) (criteria : Criteria) : Talk Nat := do
  let url ← lift (address c s!"{target}/_count")
  let response ← tell c "count" .post url (some (.object [("query", criteria.render)]))
  if response.status = .notFound then return 0
  let response ← lift (expectSuccess s!"count on '{target}'" response)
  lift (read .count (fun value => some (countAt ["count"] value)) response)

def deleteDocument (c : ClusterConfig) (index id : String) (routing : Option String) : Talk Bool := do
  let url ← lift (address c (documentPath index id))
  let url := match routing with
    | some routing => url.withPairs [("routing", routing)]
    | none => url
  let response ← tell c "delete" .delete url none
  if response.status = .notFound then return false
  let _ ← lift (expectSuccess s!"delete of '{index}/{id}'" response)
  return true

/-- One call, where the present is an instant. -/
def perform (c : ClusterConfig) (now : Instant) : (call : Call) → Http.Exchange (Except Fault call.Reply)
  | .createIndex index body => (createIndex c index body).run
  | .indexExists index => (indexExists c index).run
  | .listIndices pattern => (listIndices c pattern).run
  | .writeIndex aliasName => (writeIndex c aliasName).run
  | .swapAlias s => (swapAlias c s).run
  | .rollover r => (rollover c r).run
  | .indexStats index => (indexStats c now index).run
  | .indexDocument r => (indexDocument c r).run
  | .search target r => (search c target r).run
  | .count target criteria => (count c target criteria).run
  | .deleteDocument index id routing => (deleteDocument c index id routing).run

/-- A program whose calls go to the cluster. -/
def carry {α : Type} (c : ClusterConfig) (now : Instant) (program : Program α) : Http.Exchange α :=
  program.through (perform c now)

end DocMapper.Cluster
