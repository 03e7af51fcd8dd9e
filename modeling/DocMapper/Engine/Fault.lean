import DocMapper.Http.Status
import DocMapper.Text.Escaped
/-!
Why a call to a search engine has no reply, and the sentence each fault is reported with.
-/

namespace DocMapper

inductive SendFailure where
  /-- Requests are not sent to addresses of this kind. -/
  | unsupported
  | unreachable
deriving DecidableEq, Repr

inductive ResponseKind where
  | settings
  | listing
  | aliasHolders
  | rollover
  | stats
  | write
  | search
  | count
deriving DecidableEq, Repr

inductive Fault where
  | indexTaken (index : String)
  | swapTargetMissing (aliasName target : String)
  | aliasNotOn (aliasName index : String)
  | rolloverTargetTaken (aliasName target : String)
  | writesElsewhere (aliasName : String) (current : Option String) (expected : String)
  | noStats (index : String)
  /-- Several indices hold the alias and none of them is the write index. -/
  | noWriteIndex (aliasName : String)
  | wildcardWrite (target : String)
  /-- The engine is up and does not answer calls of one kind for now. -/
  | unavailable (call : String)
  | badAddress (address : String)
  | clusterOutOfReach (url : String) (failure : SendFailure)
  | notSent (request : String) (failure : SendFailure)
  | refused (request : String) (status : Http.Status) (body : String)
  | unclearExistence (index : String) (status : Http.Status)
  | unreadable (response : ResponseKind)
  | notRolled (aliasName target : String)
deriving DecidableEq, Repr

def ResponseKind.complaint : ResponseKind → String
  | .settings => "💀 The settings response was not JSON"
  | .listing => "💀 The _cat/indices response was not the JSON array we were promised"
  | .aliasHolders => "💀 The alias response was not JSON"
  | .rollover => "💀 The rollover response was not JSON"
  | .stats => "💀 The stats response was not JSON"
  | .write => "💀 The write went through but the response was not JSON we understand"
  | .search => "💀 The search response did not have the hits.hits shape"
  | .count => "💀 The count response was not JSON"

def currentIndex : Option String → String
  | some index => s!"Some({Text.escaped index})"
  | none => "None"

def Fault.message : Fault → String
  | .indexTaken index => s!"💀 resource_already_exists_exception: index '{index}' already exists"
  | .swapTargetMissing aliasName target =>
      s!"💀 index_not_found_exception: cannot point '{aliasName}' at missing index '{target}'"
  | .aliasNotOn aliasName index => s!"💀 aliases_not_found_exception: '{aliasName}' is not on index '{index}'"
  | .rolloverTargetTaken aliasName target =>
      s!"💀 resource_already_exists_exception: cannot roll '{aliasName}' over to existing index '{target}'"
  | .writesElsewhere aliasName current expected =>
      s!"💀 illegal_argument_exception: '{aliasName}' writes into {currentIndex current}, not '{expected}'"
  | .noStats index => s!"💀 index_not_found_exception: no stats for missing index '{index}'"
  | .noWriteIndex aliasName => s!"💀 alias '{aliasName}' points at several indices and none of them is the write index"
  | .wildcardWrite target => s!"💀 cannot write into the wildcard '{target}'"
  | .unavailable call => s!"503 during {call}"
  | .badAddress address => s!"💀 '{address}' is not a URL anyone can send a request to"
  | .clusterOutOfReach url _ =>
      s!"💀 Could not reach the cluster at '{url}'. " ++
        "Check the URL, the network, and whether anything is listening."
  | .notSent request _ =>
      s!"💀 The {request} request never made it to the cluster. Check connectivity and timeouts."
  | .refused request status body => s!"💀 The {request} came back {status.format}. The cluster says: {body}"
  | .unclearExistence index status =>
      s!"💀 Asked whether index '{index}' exists, got {status.format}. Neither yes nor no."
  | .unreadable response => response.complaint
  | .notRolled aliasName target =>
      s!"💀 The cluster acknowledged the rollover of '{aliasName}' to '{target}' but did not roll"

end DocMapper
