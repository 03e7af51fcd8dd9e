import DocMapper.Cluster.Client
import DocMapper.Proofs.CarriedSegments
/-!
Where the calls that name a document send their requests. A request addresses a document if
its path is that of the cluster followed by the index, `_doc` and a segment that reads back as
the id. An id goes into the path as it is, so the request addresses the document exactly if
the path can carry the id: an id with a slash, a question mark or dots names something else.
-/

namespace DocMapper.Cluster

variable {α : Type} {c : ClusterConfig}

/-- A call that sends one request, and whose result is up to the response alone. -/
def Asks (exchange : Http.Exchange α) (sent : Http.Request) : Prop :=
  ∃ result : Option Http.Response → α, exchange = .ask sent fun response => .done (result response)

/-- Addresses that differ in their queries at most, as far as a server sees. -/
structure SameResource (url other : Url) : Prop where
  scheme : url.scheme = other.scheme
  host : url.host = other.host
  port : url.port = other.port
  path : url.path = other.path

theorem SameResource.symm {url other : Url} (same : SameResource url other) : SameResource other url :=
  ⟨same.scheme.symm, same.host.symm, same.port.symm, same.path.symm⟩

theorem SameResource.trans {url middle other : Url} (first : SameResource url middle)
    (second : SameResource middle other) : SameResource url other :=
  ⟨first.scheme.trans second.scheme, first.host.trans second.host, first.port.trans second.port,
    first.path.trans second.path⟩

/-- What an address is for a document of an index, below that of the cluster. -/
structure Addresses (base : Url) (index id : String) (url : Url) : Prop where
  scheme : url.scheme = base.scheme
  host : url.host = base.host
  port : url.port = base.port
  path : ∃ segments target last, base.path = .segments segments ∧
    url.path = .segments (segments.dropLast ++ [target, "_doc", last]) ∧
    Percent.decodeText? target.toList = some index ∧ Percent.decodeText? last.toList = some id

/-- What it takes for the path of a document to lead to it. -/
structure Reachable (base : Url) (index id : String) : Prop where
  bare : base.query = none ∧ base.fragment = none
  named : index ≠ ""
  indexCarried : Url.Carried index.toList
  idCarried : Url.Carried id.toList
  idSolid : Url.EndsSolid id.toList

/-! ## Addresses -/

theorem addressText_eq (c : ClusterConfig) (path : String) : addressText c path =
    String.ofList (Text.trimEndOf '/' c.url.toList ++ '/' :: path.toList.dropWhile (· = '/')) := by
  apply String.toList_injective
  simp [addressText]

theorem toList_documentPath (index id : String) :
    (documentPath index id).toList = index.toList ++ '/' :: "_doc".toList ++ '/' :: id.toList := by
  simp [documentPath, toString]

theorem dropWhile_documentPath {index : String} (free : ∀ ch ∈ index.toList, ch ∉ Url.pathMarks) (id : String) :
    (documentPath index id).toList.dropWhile (· = '/') =
      (if index = "" then "_doc".toList else index.toList ++ '/' :: "_doc".toList) ++ '/' :: id.toList := by
  rw [toList_documentPath]
  by_cases unnamed : index = ""
  · rw [unnamed]
    rfl
  · rw [if_neg unnamed]
    cases letters : index.toList with
    | nil => exact absurd (String.toList_eq_nil_iff.mp letters) unnamed
    | cons first rest =>
        have noSlash : first ≠ '/' := by
          rintro rfl
          cases (Url.not_mem_pathMarks_iff.mp (free '/' (letters ▸ List.mem_cons_self))).1
        simp [noSlash]

/-- The segments of a document's path, where an empty name of an index is lost among the slashes. -/
theorem endSegments_documentPath {index : String} (free : ∀ ch ∈ index.toList, ch ∉ Url.pathMarks) (id : String) :
    Url.endSegments ((documentPath index id).toList.dropWhile (· = '/')) =
      (if index = "" then [] else [index.toList.filter Url.counts]) ++ "_doc".toList :: Url.endSegments id.toList := by
  have plain : Url.isMarked "_doc".toList = false := rfl
  rw [dropWhile_documentPath free]
  by_cases unnamed : index = ""
  · rw [if_pos unnamed, if_pos unnamed, Url.endSegments_append plain]
    rfl
  · have clear (ch : Char) (there : ch ∈ index.toList.filter Url.counts) : Url.isSlash true ch = false :=
      (Url.not_mem_pathMarks_iff.mp (free ch (List.mem_of_mem_filter there))).1
    have unmarked : Url.isMarked (index.toList ++ '/' :: "_doc".toList) = false := by
      have named := Url.isMarked_of_free free
      simp only [Url.isMarked, Bool.or_eq_false_iff] at named
      simpa [Url.isMarked] using named
    have counted : (index.toList ++ '/' :: "_doc".toList).filter Url.counts =
        index.toList.filter Url.counts ++ '/' :: "_doc".toList := List.filter_append ..
    rw [if_neg unnamed, if_neg unnamed, Url.endSegments_append unmarked, counted, Url.cutPath_append,
      Url.cutPath_of_no_slash clear, List.append_assoc]
    rfl

/-- The folder that the path of a document begins with, in reverse. -/
def documentFolder (folder : List String) (index : String) : List String :=
  "_doc" :: if index = "" then folder else Url.step folder (index.toList.filter Url.counts)

theorem follow_documentPath {index : String} (free : ∀ ch ∈ index.toList, ch ∉ Url.pathMarks) (id : String)
    (folder : List String) :
    Url.follow folder (Url.endSegments ((documentPath index id).toList.dropWhile (· = '/'))) =
      Url.follow (documentFolder folder index) (Url.endSegments id.toList) := by
  have any : Url.endSegments id.toList ≠ [] := Url.cutPath_ne_nil true _
  rw [endSegments_documentPath free, List.append_cons, Url.follow_append any, List.foldl_append]
  by_cases unnamed : index = ""
  · rw [documentFolder, if_pos unnamed, if_pos unnamed]
    rfl
  · rw [documentFolder, if_neg unnamed, if_neg unnamed]
    rfl

theorem carried_of_documentFolder {index : String} (free : ∀ ch ∈ index.toList, ch ∉ Url.pathMarks)
    {folder : List String} {target : String} (ends : documentFolder folder index = "_doc" :: target :: folder)
    (read : Percent.decodeText? target.toList = some index) : index ≠ "" ∧ Url.Carried index.toList := by
  have below := (List.cons.inj ends).2
  by_cases unnamed : index = ""
  · rw [if_pos unnamed] at below
    have lengths := congrArg List.length below
    simp at lengths
  · rw [if_neg unnamed] at below
    obtain ⟨notHere, notUp, rfl⟩ := Url.step_eq_cons below
    have within : (index.toList.filter Url.counts).Sublist index.toList := List.filter_sublist
    obtain ⟨whole, unescaped⟩ :=
      Percent.eq_of_decode (Url.decodeText?_encodeSegment.mp read) (Percent.bytes_length_le within)
    rw [whole] at notHere notUp unescaped
    exact ⟨unnamed, free, List.filter_eq_self.mp whole, notHere, notUp, unescaped⟩

theorem documentFolder_of_carried {index : String} (named : index ≠ "") (carried : Url.Carried index.toList)
    (folder : List String) :
    documentFolder folder index = "_doc" :: Url.encodeSegment index.toList :: folder := by
  have counted : index.toList.filter Url.counts = index.toList := List.filter_eq_self.mpr carried.unbroken
  rw [documentFolder, if_neg named, counted, Url.step, carried.notUp, carried.notHere]
  rfl

/-- Where nothing ends the path of the cluster, the index and the id decide. -/
theorem addresses_iff {index : String} (free : ∀ ch ∈ index.toList, ch ∉ Url.pathMarks) {id : String}
    {base url : Url} (bare : base.query = none ∧ base.fragment = none) (site : url.SameSite base) {folder : List String}
    (above : base.path = .segments (folder.reverse ++ [""]))
    (path : url.path = .segments (Url.follow (documentFolder folder index) (Url.endSegments id.toList)).reverse) :
    Addresses base index id url ↔ Reachable base index id := by
  constructor
  · intro addresses
    obtain ⟨segments, target, last, here, there, readTarget, readLast⟩ := addresses.path
    obtain rfl := UrlPath.segments.inj (above.symm.trans here)
    have ends := UrlPath.segments.inj (path.symm.trans there)
    rw [List.dropLast_concat, ← List.reverse_inj, List.reverse_reverse] at ends
    simp only [List.reverse_append, List.reverse_reverse, List.reverse_cons, List.reverse_nil, List.nil_append,
      List.cons_append] at ends
    obtain ⟨idCarried, idSolid⟩ := Url.carried_of_read ends readLast
    rw [Url.follow_of_carried idCarried idSolid] at ends
    obtain ⟨named, indexCarried⟩ := carried_of_documentFolder free (List.cons.inj ends).2 readTarget
    exact ⟨bare, named, indexCarried, idCarried, idSolid⟩
  · intro reachable
    refine ⟨site.scheme, site.host, site.port, _, _, _, above, ?_, Url.read_of_carried reachable.indexCarried,
      Url.read_of_carried reachable.idCarried⟩
    rw [path, Url.follow_of_carried reachable.idCarried reachable.idSolid,
      documentFolder_of_carried reachable.named reachable.indexCarried, List.dropLast_concat]
    simp

theorem Addresses.of_same {base url other : Url} {index id : String} (addresses : Addresses base index id url)
    (same : SameResource other url) : Addresses base index id other where
  scheme := same.scheme.trans addresses.scheme
  host := same.host.trans addresses.host
  port := same.port.trans addresses.port
  path := same.path ▸ addresses.path

theorem address_eq_ok_iff {path : String} {url : Url} :
    address c path = .ok url ↔ Url.parse? (addressText c path) = some url := by
  rw [address]
  cases Url.parse? (addressText c path) <;> simp

theorem not_addresses_of_same_path {base url : Url} {index id : String} (same : url.path = base.path) :
    ¬Addresses base index id url := by
  intro addresses
  obtain ⟨segments, target, last, here, there, -⟩ := addresses.path
  rw [same, here] at there
  have lengths := congrArg List.length (UrlPath.segments.inj there)
  simp at lengths
  omega

theorem document_address {base : Url} (found : address c "" = .ok base)
    (web : base.scheme = "http" ∨ base.scheme = "https") {index : String}
    (free : ∀ ch ∈ index.toList, ch ∉ Url.pathMarks) (id : String) :
    ∃ url, address c (documentPath index id) = .ok url ∧ url.SameSite base ∧
      (Addresses base index id url ↔ Reachable base index id) := by
  rw [address_eq_ok_iff, addressText_eq] at found
  rcases Url.parse?_below found web with ⟨ended, leads⟩ | ⟨bare, folder, above, leads⟩
  · obtain ⟨url, parsed, site, path⟩ := leads ((documentPath index id).toList.dropWhile (· = '/'))
    refine ⟨url, address_eq_ok_iff.mpr (addressText_eq c _ ▸ parsed), site, ?_⟩
    exact iff_of_false (not_addresses_of_same_path path) fun reachable => ended reachable.bare
  · obtain ⟨url, parsed, site, path⟩ := leads ((documentPath index id).toList.dropWhile (· = '/'))
    refine ⟨url, address_eq_ok_iff.mpr (addressText_eq c _ ▸ parsed), site, ?_⟩
    beta_reduce at path
    rw [follow_documentPath free] at path
    exact addresses_iff free bare site above path

theorem Addresses.document_unique {base url url' : Url} {index index' id id' : String}
    (first : Addresses base index id url) (second : Addresses base index' id' url') (same : SameResource url url') :
    index = index' ∧ id = id' := by
  obtain ⟨segments, target, last, here, there, readTarget, readLast⟩ := first.path
  obtain ⟨segments', target', last', here', there', readTarget', readLast'⟩ := second.path
  obtain rfl := UrlPath.segments.inj (here.symm.trans here')
  have ends := UrlPath.segments.inj (there.symm.trans (same.path.trans there'))
  obtain ⟨rfl, -, rfl⟩ : target = target' ∧ "_doc" = "_doc" ∧ last = last' := by simpa using ends
  exact ⟨Option.some.inj (readTarget.symm.trans readTarget'), Option.some.inj (readLast.symm.trans readLast')⟩

/-! ## Requests -/

theorem isSendable_eq {url base : Url} (site : url.SameSite base) (method : Http.Method) (body : Option Json) :
    isSendable (request c method url body) = isSendable (request c .get base none) := by
  simp [isSendable, request, authorization, site.scheme, site.host, site.username, site.password]

theorem web_of_sendable {base : Url} (sendable : isSendable (request c .get base none) = true) :
    base.scheme = "http" ∨ base.scheme = "https" := by
  simp only [isSendable, request, Bool.and_eq_true, Bool.or_eq_true] at sendable
  exact sendable.1.1.imp of_decide_eq_true of_decide_eq_true

theorem asks_tell {what : String} {method : Http.Method} {url : Url} {body : Option Json}
    {answer : Http.Response → Talk α} (sendable : isSendable (request c method url body) = true)
    (answered : ∀ response, ∃ result, (answer response).run = .done result) :
    Asks (tell c what method url body >>= answer).run (request c method url body) := by
  choose result answered using answered
  refine ⟨fun reply => reply.elim (.error (.notSent what .unreachable)) result, ?_⟩
  rw [tell, send, if_pos sendable]
  refine congrArg (Dialogue.ask _) (funext fun response => ?_)
  cases response with
  | none => rfl
  | some response => exact answered response

theorem lift_bind {β : Type} (a : α) (f : α → Talk β) : lift (.ok a) >>= f = f a := rfl

theorem asks_indexDocument {r : IndexRequest} {id : String} {url base : Url} (given : r.id = some id)
    (found : address c (documentPath r.target id) = .ok url) (site : url.SameSite base)
    (sendable : isSendable (request c .get base none) = true) :
    ∃ sent, Asks (indexDocument c r).run sent ∧ SameResource sent.url url := by
  rw [indexDocument, given]
  dsimp only
  rw [found, lift_bind]
  refine ⟨_, asks_tell ?_ ?_, ⟨rfl, rfl, rfl, rfl⟩⟩
  · exact (isSendable_eq (site.withPairs _) _ _).trans sendable
  · intro response
    cases expectSuccess s!"write into '{r.target}'" response <;> exact ⟨_, rfl⟩

theorem asks_deleteDocument {index id : String} {url base : Url} (found : address c (documentPath index id) = .ok url)
    (site : url.SameSite base) (sendable : isSendable (request c .get base none) = true) (routing : Option String) :
    ∃ sent, Asks (deleteDocument c index id routing).run sent ∧ SameResource sent.url url := by
  have told (other : Url) (site : other.SameSite base) :
      Asks (ExceptT.run (tell c "delete" .delete other none >>= fun response => do
        if response.status = .notFound then return false
        let _ ← lift (expectSuccess s!"delete of '{index}/{id}'" response)
        return true)) (request c .delete other none) := by
    refine asks_tell ((isSendable_eq site _ _).trans sendable) fun response => ?_
    by_cases missing : response.status = .notFound
    · rw [if_pos missing]
      exact ⟨_, rfl⟩
    · rw [if_neg missing]
      cases expectSuccess s!"delete of '{index}/{id}'" response <;> exact ⟨_, rfl⟩
  rw [deleteDocument, found, lift_bind]
  cases routing with
  | none => exact ⟨_, told url site, ⟨rfl, rfl, rfl, rfl⟩⟩
  | some routing => exact ⟨_, told _ (site.withPairs _), ⟨rfl, rfl, rfl, rfl⟩⟩

/-- A document that is written with an id, or deleted, is the one its request addresses exactly
if the path can carry the name of the index and the id, and never shares its address with another. -/
theorem document_addressed_iff {base : Url} (found : address c "" = .ok base)
    (sendable : isSendable (request c .get base none) = true) {index : String}
    (free : ∀ ch ∈ index.toList, ch ∉ Url.pathMarks) (id : String) :
    (∀ r : IndexRequest, r.target = index → r.id = some id →
      ∃ sent, Asks (indexDocument c r).run sent ∧ (Addresses base index id sent.url ↔ Reachable base index id)) ∧
    (∀ routing, ∃ sent, Asks (deleteDocument c index id routing).run sent ∧
      (Addresses base index id sent.url ↔ Reachable base index id)) ∧
    ∀ index' id' url url', Addresses base index id url → Addresses base index' id' url' → SameResource url url' →
      index = index' ∧ id = id' := by
  obtain ⟨url, parsed, site, addresses⟩ := document_address found (web_of_sendable sendable) free id
  have unchanged {sent : Http.Request} (same : SameResource sent.url url) :
      Addresses base index id sent.url ↔ Reachable base index id :=
    ⟨fun there => addresses.mp (there.of_same same.symm), fun carried => (addresses.mpr carried).of_same same⟩
  refine ⟨?_, ?_, fun index' id' url url' first second same => first.document_unique second same⟩
  · rintro r rfl given
    obtain ⟨sent, asks, same⟩ := asks_indexDocument given parsed site sendable
    exact ⟨sent, asks, unchanged same⟩
  · intro routing
    obtain ⟨sent, asks, same⟩ := asks_deleteDocument parsed site sendable routing
    exact ⟨sent, asks, unchanged same⟩

/-- The address of the cluster where nothing is configured. -/
def localBase : Url where
  scheme := "http"
  username := ""
  password := none
  host := some "localhost"
  port := some 9200
  path := .segments [""]
  query := none
  fragment := none

def firstUser : Url :=
  { localBase with path := .segments ["users", "_doc", "1"] }

/-- A blank and a percent sign that begins no escape are carried. -/
theorem spaced_id_addressed : address ClusterConfig.default "" = .ok localBase ∧
    ∃ sent, Asks (deleteDocument ClusterConfig.default "notes" "50% off" none).run sent ∧
      Addresses localBase "notes" "50% off" sent.url := by
  have found : address ClusterConfig.default "" = .ok localBase := by rfl
  have free : ∀ ch ∈ "notes".toList, ch ∉ Url.pathMarks := by simp [Url.pathMarks]
  have index : Url.Carried "notes".toList := ⟨free, by simp [Url.counts], rfl, rfl, rfl⟩
  have id : Url.Carried "50% off".toList := ⟨by simp [Url.pathMarks], by simp [Url.counts], rfl, rfl, rfl⟩
  have solid : Url.EndsSolid "50% off".toList := by simp [Url.EndsSolid, Url.isBlankEnd]
  obtain ⟨-, deleted, -⟩ := document_addressed_iff found rfl free "50% off"
  obtain ⟨sent, asks, addressed⟩ := deleted none
  exact ⟨found, sent, asks, addressed.mpr ⟨⟨rfl, rfl⟩, by decide, index, id, solid⟩⟩

/-- Deleting a note can delete a user: the dots in the id take the index away again. -/
theorem climbing_id_addresses_user : address ClusterConfig.default "" = .ok localBase ∧
    ∃ note user, Asks (deleteDocument ClusterConfig.default "notes" "../../users/_doc/1" none).run note ∧
      Asks (deleteDocument ClusterConfig.default "users" "1" none).run user ∧ SameResource note.url user.url ∧
      ¬Addresses localBase "notes" "../../users/_doc/1" note.url := by
  have found : address ClusterConfig.default "" = .ok localBase := by rfl
  have site : firstUser.SameSite localBase := ⟨rfl, rfl, rfl, rfl, rfl⟩
  have climbs : address ClusterConfig.default (documentPath "notes" "../../users/_doc/1") = .ok firstUser := by rfl
  have direct : address ClusterConfig.default (documentPath "users" "1") = .ok firstUser := by rfl
  obtain ⟨note, asksNote, sameNote⟩ := asks_deleteDocument climbs site rfl none
  obtain ⟨user, asksUser, sameUser⟩ := asks_deleteDocument direct site rfl none
  refine ⟨found, note, user, asksNote, asksUser, sameNote.trans sameUser.symm, fun addresses => ?_⟩
  obtain ⟨segments, target, last, here, there, -, read⟩ := addresses.path
  obtain rfl := UrlPath.segments.inj here
  have ends := UrlPath.segments.inj (there.symm.trans sameNote.path)
  obtain ⟨-, rfl⟩ : target = "users" ∧ last = "1" := by simpa using ends
  have bytes := Percent.decodeText?_eq_some_iff.mp read
  exact absurd (congrArg List.length bytes) (by decide)

end DocMapper.Cluster
