import DocMapper.Json.Decode
/-!
Where a cluster is and how to get in.
-/

namespace DocMapper

structure ClusterConfig where
  /-- Scheme, host and port, with a path if there is one. -/
  url : String
  username : Option String
  password : Option String
  /-- Preferred where there is also a user name. -/
  apiKey : Option String
  connectTimeoutSecs : Nat
  requestTimeoutSecs : Nat
deriving DecidableEq, Repr

open Json.Decode

namespace ClusterConfig

def default : ClusterConfig := ⟨"http://localhost:9200", none, none, none, 10, 30⟩

def memberNames : List String :=
  ["url", "username", "password", "api_key", "connect_timeout_secs", "request_timeout_secs"]

def ofJson? (value : Json) : Option ClusterConfig := do
  let members ← value.record? memberNames
  return {
    url := ← withDefault? "url" default.url Json.text? members
    username := ← optional? "username" Json.text? members
    password := ← optional? "password" Json.text? members
    apiKey := ← optional? "api_key" Json.text? members
    connectTimeoutSecs := ←
      withDefault? "connect_timeout_secs" default.connectTimeoutSecs (natBelow? (1 <<< 64)) members
    requestTimeoutSecs := ←
      withDefault? "request_timeout_secs" default.requestTimeoutSecs (natBelow? (1 <<< 64)) members }

end ClusterConfig

end DocMapper
