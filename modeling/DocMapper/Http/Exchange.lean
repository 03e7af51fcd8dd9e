import DocMapper.Dialogue
import DocMapper.Http.Status
import DocMapper.Json.Basic
import DocMapper.Url.Basic
/-!
Requests to a server and its responses. An exchange is a dialogue whose questions are
requests; a request that cannot be answered, because nothing listens or the connection ends,
gets no response.
-/

namespace DocMapper.Http

inductive Method where
  | get
  | head
  | put
  | post
  | delete
deriving DecidableEq, Repr

def Method.name : Method → String
  | .get => "GET"
  | .head => "HEAD"
  | .put => "PUT"
  | .post => "POST"
  | .delete => "DELETE"

structure Request where
  method : Method
  url : Url
  authorization : Option String
  /-- What is sent along, as JSON. -/
  body : Option Json

def Request.contentType (r : Request) : Option String :=
  r.body.map fun _ => "application/json"

structure Response where
  status : Status
  body : String
deriving DecidableEq, Repr

abbrev Exchange := Dialogue fun _ : Request => Option Response

/-- What an exchange comes to when nobody answers. -/
def unanswered {α : Type} (e : Exchange α) : α :=
  (e.conduct (fun _ (_ : Unit) => (none, ())) ()).1

end DocMapper.Http
