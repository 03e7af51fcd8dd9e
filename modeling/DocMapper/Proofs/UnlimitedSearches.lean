import DocMapper.Proofs.BootstrapReading
import DocMapper.Proofs.DocumentAddresses
import DocMapper.Proofs.MatchingDocuments
import DocMapper.Proofs.NameReading
/-!
Searches without a limit, at a cluster that shows ten hits where a search names no size. Such a
search finds the first ten of the matching documents however many there are, while counting them
finds them all, and so does a search of the engine in memory. What is deleted by a query without
a limit is what its search finds.
-/

namespace DocMapper

theorem Dialogue.conduct_through_bind {Q R : Type} {Answer : Q → Type} {Other : R → Type} {α β σ : Type}
    (carry : (q : Q) → Dialogue Other (Answer q)) (answer : (r : R) → σ → Other r × σ) (d : Dialogue Answer α)
    (f : α → Dialogue Answer β) (s : σ) :
    ((d.bind f).through carry).conduct answer s =
      ((f ((d.through carry).conduct answer s).1).through carry).conduct answer ((d.through carry).conduct answer s).2 := by
  induction d generalizing s with
  | done result => rfl
  | ask question next ih => simp [through, conduct_bind, ih]

namespace Cluster

variable {σ α β ε : Type} {c : ClusterConfig} {target : String} {url base : Url} {criteria : Criteria}
  {sort : List SortKey} {limit : Option Nat} {s s' s'' : σ} {now : Instant}
  {answer : Http.Request → σ → Option Http.Response × σ}

/-! ## What is asked for -/

theorem renderSearch_size (criteria : Criteria) (sort : List SortKey) (limit : Option Nat) :
    (criteria.renderSearch sort limit).get? "size" = limit.map Json.ofNat := by
  rw [Criteria.renderSearch.eq_def, Json.ofPairs, Json.get?, Dict.find?_ofPairs]
  cases limit <;> cases sort <;> rfl

/-! ## What is answered -/

/-- A hit as a search shows it, perhaps with more about it. -/
structure ShowsHit (shown : Json) (hit : Hit) : Prop where
  index : shown.get? "_index" = some (.string hit.index)
  id : shown.get? "_id" = some (.string hit.id)
  score : (shown.get? "_score").getD .null = .null ∧ hit.score = none ∨
    ∃ n, shown.get? "_score" = some (.number n) ∧ hit.score = some n.toDouble
  source : (shown.get? "_source").getD .null = hit.source

/-- The hits of a search as a response shows them. -/
structure ShowsHits (shown : Json) (hits : List Hit) : Prop where
  listed : ∃ inner items, shown.get? "hits" = some inner ∧ inner.get? "hits" = some (.array items) ∧
    List.Forall₂ ShowsHit items hits

theorem members_of_get? {value found : Json} {key : String} (there : value.get? key = some found) :
    ∃ members, value = .object members ∧ Dict.find? key members = some found := by
  cases value with
  | object members => exact ⟨members, rfl, there⟩
  | _ => cases there

theorem hitOf?_shown {shown : Json} {hit : Hit} (shows : ShowsHit shown hit) : hitOf? shown = some hit := by
  obtain ⟨members, rfl, index⟩ := members_of_get? shows.index
  have id : Dict.find? "_id" members = some (.string hit.id) := shows.id
  have source : (Dict.find? "_source" members).getD .null = hit.source := shows.source
  have score : Json.Decode.optional? "_score" Json.double? members = some hit.score := by
    rw [Json.Decode.optional?]
    rcases shows.score with ⟨unscored, none⟩ | ⟨n, number, some⟩
    · rw [none]
      change (Dict.find? "_score" members).getD .null = .null at unscored
      cases found : Dict.find? "_score" members with
      | none => rfl
      | some value =>
          rw [found] at unscored
          cases unscored
          rfl
    · rw [some, show Dict.find? "_score" members = _ from number]
      rfl
  simp [hitOf?, Json.record?, Json.Decode.required?, Json.text?, index, id, score, source]

theorem hitsOf?_shown {shown : Json} {hits : List Hit} (shows : ShowsHits shown hits) : hitsOf? shown = some hits := by
  obtain ⟨inner, items, outer, listed, each⟩ := shows.listed
  obtain ⟨above, rfl, wrapped⟩ := members_of_get? outer
  obtain ⟨below, rfl, kept⟩ := members_of_get? listed
  have read : items.mapM hitOf? = some hits := mapM_eq_some_iff.mpr (each.imp fun _ _ => hitOf?_shown)
  simp [hitsOf?, Json.record?, Json.Decode.withDefault?, Json.items?, wrapped, kept, read]

/-- A search engine behind HTTP, and the hits that it has for a query in the order of a sort clause. -/
structure Server (σ : Type) where
  answer : Http.Request → σ → Option Http.Response × σ
  matching : σ → Json → Option Json → List Hit

/-- How many hits a search asks for; ten where it does not say. -/
def pageSize (body : Json) : Nat :=
  ((body.get? "size").bind Json.nat?).getD 10

/-- A search shows the first hits of its query, as many as it asks for, and a count tells how many
there are. -/
structure Server.Documented (e : Server σ) (c : ClusterConfig) (target : String) : Prop where
  searches : ∀ url (criteria : Criteria) (sort : List SortKey) (limit : Option Nat) (s : σ),
    address c s!"{target}/_search" = .ok url → ∃ response shown,
      e.answer (request c .post url (some (criteria.renderSearch sort limit))) s = (some response, s) ∧
      response.status.isSuccess = true ∧ Json.parse? response.body = some shown ∧
      ShowsHits shown ((e.matching s criteria.render ((criteria.renderSearch sort limit).get? "sort")).take
        (pageSize (criteria.renderSearch sort limit)))
  counts : ∀ url (criteria : Criteria) (s : σ), address c s!"{target}/_count" = .ok url → ∃ response shown,
    e.answer (request c .post url (some (.object [("query", criteria.render)]))) s = (some response, s) ∧
    response.status.isSuccess = true ∧ Json.parse? response.body = some shown ∧
    shown.get? "count" = some (.ofNat (e.matching s criteria.render none).length)
  sorted : ∀ (s : σ) query clause, (e.matching s query (some clause)).length = (e.matching s query none).length

/-! ## Calls -/

theorem ne_notFound {status : Http.Status} (success : status.isSuccess = true) : status ≠ .notFound := by
  rintro rfl
  cases success

theorem conduct_tell {what : String} {method : Http.Method} {body : Option Json} {next : Http.Response → Talk α}
    {response : Http.Response} (sendable : isSendable (request c method url body) = true)
    (answered : answer (request c method url body) s = (some response, s')) :
    (tell c what method url body >>= next).run.conduct answer s = (next response).run.conduct answer s' := by
  rw [tell, send, if_pos sendable]
  refine (Dialogue.conduct_ask ..).trans ?_
  rw [answered]
  rfl

theorem address_below (found : address c "" = .ok base) (sendable : isSendable (request c .get base none) = true)
    (path : String) : ∃ url, address c path = .ok url ∧
      ∀ method body, isSendable (request c method url body) = true := by
  rw [address_eq_ok_iff, addressText_eq] at found
  obtain ⟨url, parsed, site⟩ : ∃ url, address c path = .ok url ∧ url.SameSite base := by
    simp only [address_eq_ok_iff, addressText_eq]
    rcases Url.parse?_below found (web_of_sendable sendable) with ⟨-, leads⟩ | ⟨-, _, -, leads⟩
    · obtain ⟨url, parsed, site, -⟩ := leads (path.toList.dropWhile (· = '/'))
      exact ⟨url, parsed, site⟩
    · obtain ⟨url, parsed, site, -⟩ := leads (path.toList.dropWhile (· = '/'))
      exact ⟨url, parsed, site⟩
  exact ⟨url, parsed, fun method body => (isSendable_eq site method body).trans sendable⟩

theorem read_parsed {kind : ResponseKind} {decode : Json → Option α} {response : Http.Response} {shown : Json} {a : α}
    (parsed : Json.parse? response.body = some shown) (decoded : decode shown = some a) :
    read kind decode response = .ok a := by
  rw [read, parsed, Option.bind_some, decoded]

theorem conduct_search {e : Server σ} (documented : e.Documented c target) (found : address c "" = .ok base)
    (sendable : isSendable (request c .get base none) = true) (criteria : Criteria) (sort : List SortKey)
    (limit : Option Nat) (s : σ) :
    (search c target ⟨criteria, sort, limit⟩).run.conduct e.answer s =
      (.ok ((e.matching s criteria.render ((criteria.renderSearch sort limit).get? "sort")).take (limit.getD 10)), s) := by
  obtain ⟨url, parsed, sends⟩ := address_below found sendable s!"{target}/_search"
  obtain ⟨response, shown, answered, success, text, shows⟩ := documented.searches url criteria sort limit s parsed
  have size : pageSize (criteria.renderSearch sort limit) = limit.getD 10 := by
    rw [pageSize, renderSearch_size]
    cases limit <;> rfl
  rw [size] at shows
  rw [search, parsed, lift_bind]
  refine (conduct_tell (sends _ _) answered).trans ?_
  rw [if_neg (ne_notFound success), expectSuccess, if_pos success, lift_bind, read_parsed text (hitsOf?_shown shows)]
  rfl

theorem conduct_count {e : Server σ} (documented : e.Documented c target) (found : address c "" = .ok base)
    (sendable : isSendable (request c .get base none) = true) (criteria : Criteria) (s : σ) :
    (count c target criteria).run.conduct e.answer s = (.ok (e.matching s criteria.render none).length, s) := by
  obtain ⟨url, parsed, sends⟩ := address_below found sendable s!"{target}/_count"
  obtain ⟨response, shown, answered, success, text, shows⟩ := documented.counts url criteria s parsed
  obtain ⟨members, rfl, counted⟩ := members_of_get? shows
  have number : countAt ["count"] (.object members) = (e.matching s criteria.render none).length := by
    simp [countAt, Json.descend?, counted, Json.ofNat, Json.nat?, Number.nat?]
  have decoded : read .count (fun value => some (countAt ["count"] value)) response =
      .ok (e.matching s criteria.render none).length := read_parsed text (congrArg some number)
  rw [count, parsed, lift_bind]
  refine (conduct_tell (sends _ _) answered).trans ?_
  rw [if_neg (ne_notFound success), expectSuccess, if_pos success, lift_bind, decoded]
  rfl

/-! ## Programs -/

/-- What an attempt comes to whose calls go to the cluster. -/
def run (c : ClusterConfig) (now : Instant) (answer : Http.Request → σ → Option Http.Response × σ)
    (attempt : Attempt ε α) (s : σ) : Except ε α × σ :=
  (carry c now attempt.run).conduct answer s

theorem run_bind (first : Attempt ε α) (next : α → Attempt ε β) (s : σ) :
    run c now answer (first >>= next) s =
      match run c now answer first s with
      | (.ok a, s') => run c now answer (next a) s'
      | (.error e, s') => (.error e, s') := by
  refine (Dialogue.conduct_through_bind ..).trans ?_
  simp only [run, carry, ExceptT.run]
  rcases Dialogue.conduct answer (Dialogue.through (perform c now) first) s with ⟨failure | result, s'⟩ <;> rfl

theorem run_call {fault : Fault → ε} (q : Call) (s : σ) :
    run c now answer (q.attempt fault) s =
      (((perform c now q).conduct answer s).1.mapError fault, ((perform c now q).conduct answer s).2) := by
  refine (Dialogue.conduct_bind ..).trans ?_
  cases (perform c now q).conduct answer s with
  | mk result s' => cases result <;> rfl

theorem run_delete {e : Server σ} {r : Repository} {name method : String} {t : DocumentType}
    {arguments : List Argument} {hits : List Hit} (known : r.find name = .ok t)
    (compiled : r.compile name method arguments = .ok ⟨.delete, criteria, sort, limit⟩)
    (searched : (search c (Routing.readTarget t) ⟨criteria, sort, limit⟩).run.conduct e.answer s = (.ok hits, s))
    (now : Instant) :
    run c now e.answer (r.execute name method arguments) s =
      ((run c now e.answer (Repository.deleteHits t hits) s).1.map .deleted,
        (run c now e.answer (Repository.deleteHits t hits) s).2) := by
  have deletes : run c now e.answer (r.delete name ⟨criteria, sort, limit⟩) s =
      run c now e.answer (Repository.deleteHits t hits) s := by
    rw [Repository.delete, known]
    change run c now e.answer (Repository.call (.search (Routing.readTarget t) ⟨criteria, sort, limit⟩) >>=
      Repository.deleteHits t) s = _
    rw [run_bind, Repository.call, run_call, perform, searched]
    rfl
  have executes : run c now e.answer (r.execute name method arguments) s =
      run c now e.answer (r.delete name ⟨criteria, sort, limit⟩ >>= fun n => pure (.deleted n)) s := by
    rw [Repository.execute, compiled]
    rfl
  rw [executes, run_bind, deletes]
  rcases run c now e.answer (Repository.deleteHits t hits) s with ⟨failure | n, s'⟩ <;> rfl

theorem ok_of_deleted {result : Except ε Nat} {n : Nat} (deleted : result.map QueryResult.deleted = .ok (.deleted n)) :
    result = .ok n := by
  cases result with
  | error failure => cases deleted
  | ok k =>
      cases deleted
      rfl

theorem deleted_le {t : DocumentType} {hits : List Hit} {k : Nat}
    (ran : run c now answer (Repository.deleteHits t hits) s = (.ok k, s')) : k ≤ hits.length := by
  induction hits generalizing s k with
  | nil =>
      cases ran
      exact Nat.le_refl _
  | cons hit rest ih =>
      rw [Repository.deleteHits, run_bind] at ran
      split at ran
      · next gone s₁ _ =>
          rw [run_bind] at ran
          split at ran
          · next others s₂ deleted =>
              cases ran
              have fewer := ih deleted
              have one : gone.toNat ≤ 1 := Bool.toNat_le gone
              rw [List.length_cons]
              omega
          · cases ran
      · cases ran

/-- A search without a limit shows the first ten of the matching documents, so it shows as many
as a count tells of just if these are at most ten; in memory it always does. A query that deletes
without a limit deletes what the search shows, and so ten documents at most. -/
theorem unlimited_searches_take_ten {e : Server σ} (documented : e.Documented c target)
    (found : address c "" = .ok base) (sendable : isSendable (request c .get base none) = true)
    (criteria : Criteria) (sort : List SortKey) (s : σ) :
    ∃ hits, hits = (e.matching s criteria.render ((criteria.renderSearch sort none).get? "sort")).take 10 ∧
      (search c target ⟨criteria, sort, none⟩).run.conduct e.answer s = (.ok hits, s) ∧
      (count c target criteria).run.conduct e.answer s = (.ok (e.matching s criteria.render none).length, s) ∧
      (hits.length = (e.matching s criteria.render none).length ↔ (e.matching s criteria.render none).length ≤ 10) ∧
      (∀ m : Memory, (m.search target ⟨criteria, sort, none⟩).length = m.count target criteria) ∧
      ∀ (r : Repository) (name : String) (t : DocumentType) (method : String) (arguments : List Argument) (now : Instant),
        r.find name = .ok t → Routing.readTarget t = target →
        r.compile name method arguments = .ok ⟨.delete, criteria, sort, none⟩ →
        run c now e.answer (r.execute name method arguments) s =
            ((run c now e.answer (Repository.deleteHits t hits) s).1.map .deleted,
              (run c now e.answer (Repository.deleteHits t hits) s).2) ∧
          ∀ n s', run c now e.answer (r.execute name method arguments) s = (.ok (.deleted n), s') → n ≤ 10 := by
  -- A sort clause changes the order of the matches, never their number.
  have sorted : (e.matching s criteria.render ((criteria.renderSearch sort none).get? "sort")).length =
      (e.matching s criteria.render none).length := by
    cases clause : (criteria.renderSearch sort none).get? "sort" with
    | none => rfl
    | some order => exact documented.sorted s criteria.render order
  have searched := conduct_search documented found sendable criteria sort none s
  refine ⟨_, rfl, searched, conduct_count documented found sendable criteria s, ?_, ?_, ?_⟩
  · rw [List.length_take, sorted]
    omega
  · exact fun m => (m.count_eq target criteria sort).symm
  · rintro r name t method arguments now known rfl compiled
    have executed := run_delete known compiled searched now
    refine ⟨executed, fun n s' ended => ?_⟩
    rw [executed] at ended
    obtain ⟨deleted, -⟩ := Prod.mk.inj ended
    have few := deleted_le (Prod.ext (ok_of_deleted deleted) rfl)
    exact few.trans (List.length_take_le ..)

section Eleven

/-- The identities of eleven notes. -/
def letters : List Char :=
  "abcdefghijk".toList

def noteHit (letter : Char) : Hit :=
  ⟨"notes", String.ofList [letter], none, .null⟩

def shownNote (letter : Char) : Json :=
  .object [("_id", .string (String.ofList [letter])), ("_index", .string "notes")]

def noteText (letter : Char) : List Char :=
  "\x7b\"_id\":\"".toList ++ letter :: "\",\"_index\":\"notes\"\x7d".toList

def page (size : Nat) : Json :=
  .object [("hits", .object [("hits", .array ((letters.take size).map shownNote))])]

def pageText (size : Nat) : List Char :=
  "\x7b\"hits\":\x7b\"hits\":[".toList ++ ",".toList.intercalate ((letters.take size).map noteText) ++
    "]\x7d\x7d".toList

/-- A server with eleven notes, which are all found whatever is searched for. -/
def elevenNotes : Server Unit where
  answer request s :=
    let text := if request.url.path = .segments ["notes-read", "_count"] then "\x7b\"count\":11\x7d"
      else String.ofList (pageText (min 11 (pageSize (request.body.getD .null))))
    (some ⟨⟨200⟩, text⟩, s)
  matching _ _ _ := letters.map noteHit

theorem parse?_pageText : ∀ size ≤ 11, Json.parse? (String.ofList (pageText size)) = some (page size) := by
  -- A string is not taken apart here, only the characters it is made of.
  simp only [Json.parse?, String.toList_ofList]
  decide +kernel

theorem page_shows (size : Nat) : ShowsHits (page (min 11 size)) ((letters.map noteHit).take size) := by
  have count : letters.length = 11 := by decide
  have same : letters.take size = letters.take (min 11 size) := by
    rw [List.take_eq_take_iff, count]
    omega
  refine ⟨_, _, rfl, rfl, ?_⟩
  rw [← List.map_take, same]
  refine List.forall₂_map_left_iff.mpr (List.forall₂_map_right_iff.mpr (List.forall₂_same.mpr fun letter _ => ?_))
  exact ⟨rfl, rfl, .inl ⟨rfl, rfl⟩, rfl⟩

theorem elevenNotes_documented : elevenNotes.Documented ClusterConfig.default "notes-read" where
  searches := by
    intro url criteria sort limit s parsed
    have address : address ClusterConfig.default s!"notes-read/_search" =
        .ok { localBase with path := .segments ["notes-read", "_search"] } := by rfl
    cases address.symm.trans parsed
    refine ⟨⟨⟨200⟩, String.ofList (pageText (min 11 (pageSize (criteria.renderSearch sort limit))))⟩, _, ?_, rfl,
      parse?_pageText _ (Nat.min_le_left ..), page_shows _⟩
    simp [elevenNotes, request]
  counts := by
    intro url criteria s parsed
    have address : address ClusterConfig.default s!"notes-read/_count" =
        .ok { localBase with path := .segments ["notes-read", "_count"] } := by rfl
    cases address.symm.trans parsed
    have read : Json.parse? "\x7b\"count\":11\x7d" = some (.object [("count", .ofNat 11)]) := by decide +kernel
    refine ⟨⟨⟨200⟩, "\x7b\"count\":11\x7d"⟩, _, ?_, rfl, read, rfl⟩
    simp [elevenNotes, request]
  sorted := fun _ _ _ => rfl

/-- Ten of eleven notes are found, and a program that deletes all notes has deleted ten. -/
theorem ten_of_eleven_notes : ∃ hits, hits.length = 10 ∧
    (search ClusterConfig.default "notes-read" ⟨.everything, [], none⟩).run.conduct elevenNotes.answer () = (.ok hits, ()) ∧
    (count ClusterConfig.default "notes-read" .everything).run.conduct elevenNotes.answer () = (.ok 11, ()) ∧
    ∀ now, run ClusterConfig.default now elevenNotes.answer (Repository.noteProgram.execute "Note" "deleteAll" []) () =
      (.ok (.deleted 10), ()) := by
  have found : address ClusterConfig.default "" = .ok localBase := by rfl
  have known : Repository.noteProgram.find "Note" = .ok Repository.notes := by rfl
  have compiled : Repository.noteProgram.compile "Note" "deleteAll" [] = .ok ⟨.delete, .everything, [], none⟩ := by rfl
  obtain ⟨hits, first, searched, counted, -, -, deletes⟩ :=
    unlimited_searches_take_ten elevenNotes_documented found rfl .everything [] ()
  refine ⟨hits, ?_, searched, counted, fun now => ?_⟩
  · rw [first]
    decide
  · rw [(deletes _ _ _ _ _ now known rfl compiled).1, first]
    rfl

/-- The eleventh note is counted and not found. -/
theorem eleventh_note_missed :
    ¬∀ (σ : Type) (e : Server σ) (c : ClusterConfig) (target : String) (base : Url), e.Documented c target →
      address c "" = .ok base → isSendable (request c .get base none) = true →
      ∀ (criteria : Criteria) (sort : List SortKey) (s : σ) (hits : List Hit),
        (search c target ⟨criteria, sort, none⟩).run.conduct e.answer s = (.ok hits, s) →
        (count c target criteria).run.conduct e.answer s = (.ok hits.length, s) := by
  intro same
  have found : address ClusterConfig.default "" = .ok localBase := by rfl
  have searched := conduct_search elevenNotes_documented found rfl .everything [] none ()
  have counted := conduct_count elevenNotes_documented found rfl .everything ()
  have agreed := same Unit elevenNotes _ _ _ elevenNotes_documented found rfl .everything [] () _ searched
  rw [counted] at agreed
  have lengths := Except.ok.inj (Prod.mk.inj agreed).1
  exact absurd lengths (by decide)

end Eleven

end Cluster

end DocMapper
