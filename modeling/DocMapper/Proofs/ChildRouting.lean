import DocMapper.Proofs.CarriedRecords
import DocMapper.Proofs.RepeatedBootstraps
/-!
Children and the shards that their calls name. A child goes to the shard that the value at its
routing field picks, and names as its parent that value or else the identity of its parent. So a
child without the value names its parent and no shard, unless that field is the one with the
identity. A call that deletes a child reads the routing field once more, in the document as it was
written; there the join field has taken the place of whatever the record had under its name.
-/

namespace DocMapper

namespace Dialogue

variable {Q : Type} {Answer : Q → Type} {α β σ : Type} {answer : (q : Q) → σ → Answer q × σ}

/-- The questions that are asked of whoever answers them, in order. -/
def asked (answer : (q : Q) → σ → Answer q × σ) : Dialogue Answer α → σ → List Q
  | .done _, _ => []
  | .ask q next, s => q :: asked answer (next (answer q s).1) (answer q s).2

theorem asked_bind (d : Dialogue Answer α) (f : α → Dialogue Answer β) (s : σ) :
    (d.bind f).asked answer s =
      d.asked answer s ++ (f (d.conduct answer s).1).asked answer (d.conduct answer s).2 := by
  induction d generalizing s with
  | done a => rfl
  | ask q next ih => rw [ask_bind, asked, asked, conduct_ask, ih, List.cons_append]

end Dialogue

section Attempts

variable {ε α β σ : Type} {fault : Fault → ε} {answer : (c : Call) → σ → Except Fault c.Reply × σ}

theorem asked_attempt (c : Call) (next : c.Reply → Attempt ε α) (s : σ) :
    (c.attempt fault >>= next).run.asked answer s =
      c :: (goOn fault next (answer c s).1).asked answer (answer c s).2 := by
  rw [run_attempt_bind, Dialogue.asked]

theorem asked_bind_pure (a : Attempt ε α) (f : α → β) (s : σ) :
    (a >>= fun x => pure (f x)).run.asked answer s = a.run.asked answer s := by
  refine (Dialogue.asked_bind a _ s).trans ?_
  rw [ExceptT.run]
  rcases Dialogue.conduct answer a s with ⟨failure | result, after⟩ <;> exact List.append_nil _

end Attempts

namespace DocumentType

variable {t : DocumentType} {parent : String} {routing : FieldPath} {mapped : Json} {p : String}

/-- A document names a parent in its join field. -/
def NamesParent (document : Json) (p : String) : Prop :=
  (document.get? joinField).bind (·.get? "parent") = some (.string p)

/-- What a path reads in the join field of a child. -/
def joinedText (t : DocumentType) (parent : Option String) : List String → Option String
  | ["name"] => some (Text.lower t.name)
  | ["parent"] => parent
  | _ => none

theorem routingOf_child (child : t.relation = .childOf parent routing) (document : Json) :
    t.routingOf document = (routing.lookup document).bind scalarText := by
  rw [routingOf, child]

theorem withJoin_child (child : t.relation = .childOf parent routing) (members : Dict Json) :
    Repository.withJoin t (.object members) = .object (Dict.put joinField
      (.object [("name", .string (Text.lower t.name)), ("parent", .ofText (Repository.parentOf t (.object members)))])
      members) := by
  simp only [Repository.withJoin, joinValue, child]

theorem namesParent_withJoin_iff (child : t.relation = .childOf parent routing) :
    NamesParent (Repository.withJoin t mapped) p ↔
      (∃ members, mapped = .object members) ∧ Repository.parentOf t mapped = some p := by
  cases mapped with
  | object members =>
      rw [withJoin_child child, NamesParent, Json.get?, Dict.find?_put_same]
      change some (Json.ofText _) = some (.string p) ↔ _
      cases Repository.parentOf t (.object members) <;> simp [Json.ofText]
  | _ => simp [NamesParent, Repository.withJoin, Json.get?]

theorem parentOf_eq (t : DocumentType) (mapped : Json) :
    Repository.parentOf t mapped = (t.routingOf mapped).or (t.parentIdOf mapped) := by
  rw [Repository.parentOf]
  cases t.routingOf mapped <;> rfl

theorem lookup_joined (t : DocumentType) (parent : Option String) (rest : List String) :
    (FieldPath.lookupAlong rest
      (.object [("name", .string (Text.lower t.name)), ("parent", .ofText parent)])).bind scalarText =
      joinedText t parent rest := by
  cases rest with
  | nil => rfl
  | cons key more =>
      by_cases name : key = "name"
      · subst name
        cases more <;> rfl
      by_cases above : key = "parent"
      · subst above
        cases more <;> cases parent <;> rfl
      have absent : joinedText t parent (key :: more) = none := by
        rw [joinedText.eq_def]
        split <;> simp_all
      rw [absent]
      simp [FieldPath.lookupAlong, Dict.find?, Ne.symm name, Ne.symm above]

/-- What the routing field reads in a document it reads there with the join field, too. -/
def StaysRouted (t : DocumentType) (routing : FieldPath) (mapped : Json) : Prop :=
  routing.segments.head? = some joinField → ∀ members, mapped = .object members →
    joinedText t (Repository.parentOf t mapped) routing.segments.tail = t.routingOf mapped

theorem routingOf_withJoin_iff (child : t.relation = .childOf parent routing) (mapped : Json) :
    t.routingOf (Repository.withJoin t mapped) = t.routingOf mapped ↔ StaysRouted t routing mapped := by
  cases mapped with
  | object members =>
      rw [withJoin_child child, routingOf_child child, FieldPath.lookup]
      cases path : routing.segments with
      | nil => exact absurd path (FieldPath.segments_ne_nil routing)
      | cons key rest =>
          rw [FieldPath.lookupAlong, Dict.find?_put]
          by_cases inside : joinField = key
          · rw [if_pos inside, Option.bind_some, lookup_joined]
            simp [StaysRouted, path, inside]
          · rw [if_neg inside]
            simp [StaysRouted, path, Ne.symm inside, routingOf_child child, FieldPath.lookup, FieldPath.lookupAlong]
  | _ => simp [Repository.withJoin, StaysRouted]

end DocumentType

namespace Repository

open DocumentType

variable {r : Repository} {name method : String} {t : DocumentType} {now : Instant} {arguments : List Argument} {σ : Type}
  {answer : (c : Call) → σ → Except Fault c.Reply × σ} {s : σ} {index id : String} {shard : Option String}

/-! ## Calls -/

theorem asked_during {α : Type} (c : Call) (activity : Activity) (next : c.Reply → Attempt Failure α) (s : σ) :
    ((call c).during activity >>= next).run.asked answer s =
      c :: (goOn (fun f => (Failure.of (.engine f)).during activity) next (answer c s).1).asked answer (answer c s).2 := by
  rw [during_attempt, asked_attempt]

theorem asked_save (found : r.find name = .ok t) (record : Json) :
    (r.save now name record).run.asked answer s =
      match r.document t record with
      | .ok mapped => [.indexDocument (indexRequest t now mapped)]
      | .error _ => [] := by
  rw [save, found, lift_ok_bind]
  cases r.document t record with
  | error e => rfl
  | ok mapped =>
      refine (asked_during ..).trans ?_
      cases (answer (.indexDocument (indexRequest t now mapped)) s).1 <;> rfl

/-- The call that deletes a hit. -/
def deletion (t : DocumentType) (hit : Hit) : Call :=
  .deleteDocument hit.index hit.id (t.routingOf hit.source)

theorem asked_deleteHits (t : DocumentType) (hits : List Hit) (s : σ) :
    (deleteHits t hits).run.asked answer s <+: hits.map (deletion t) := by
  induction hits generalizing s with
  | nil => exact List.nil_prefix
  | cons hit rest ih =>
      rw [deleteHits, call, asked_attempt, List.map_cons]
      refine List.cons_prefix_cons.mpr ⟨rfl, ?_⟩
      cases (answer (.deleteDocument hit.index hit.id (t.routingOf hit.source)) s).1 with
      | error fault => exact List.nil_prefix
      | ok gone => exact (asked_bind_pure ..).symm ▸ ih _

theorem asked_search (found : r.find name = .ok t) (request : SearchRequest) :
    (r.search name request).run.asked answer s = [.search (Routing.readTarget t) request] := by
  rw [search, found, lift_ok_bind]
  refine (asked_during ..).trans ?_
  cases (answer (.search (Routing.readTarget t) request) s).1 <;> rfl

theorem asked_count (found : r.find name = .ok t) (criteria : Criteria) :
    (r.count name criteria).run.asked answer s = [.count (Routing.readTarget t) criteria] := by
  rw [count, found, lift_ok_bind, ← asked_bind_pure _ id]
  refine (asked_during ..).trans ?_
  cases (answer (.count (Routing.readTarget t) criteria) s).1 <;> rfl

/-- A query deletes hits of its search, by calls that name the shard their routing field picks. -/
theorem asked_execute (found : r.find name = .ok t)
    (asked : .deleteDocument index id shard ∈ (r.execute name method arguments).run.asked answer s) :
    ∃ request hits hit, (answer (.search (Routing.readTarget t) request) s).1 = .ok hits ∧ hit ∈ hits ∧
      hit.index = index ∧ hit.id = id ∧ t.routingOf hit.source = shard := by
  rw [execute] at asked
  cases compiled : r.compile name method arguments with
  | error e =>
      rw [compiled, lift_error_bind] at asked
      cases asked
  | ok query =>
      obtain ⟨subject, criteria, sort, limit⟩ := query
      rw [compiled, lift_ok_bind] at asked
      -- Only a delete asks for deletions, and only once its search was answered.
      cases subject with
      | find =>
          rw [asked_bind_pure, asked_search found, List.mem_singleton] at asked
          cases asked
      | count | exist =>
          rw [asked_bind_pure, asked_count found, List.mem_singleton] at asked
          cases asked
      | delete =>
          rw [asked_bind_pure, delete, found, lift_ok_bind, call, asked_attempt] at asked
          rcases List.mem_cons.mp asked with search | later
          · cases search
          · cases answered : (answer (.search (Routing.readTarget t) ⟨criteria, sort, limit⟩) s).1 with
            | error fault =>
                rw [answered] at later
                cases later
            | ok hits =>
                rw [answered] at later
                obtain ⟨hit, listed, same⟩ := List.mem_map.mp ((asked_deleteHits t hits _).subset later)
                cases same
                exact ⟨_, hits, hit, answered, listed, rfl, rfl, rfl⟩

/-! ## Shards of children -/

variable {env : Environment} {config : TypeConfig} {parent : String} {routing : FieldPath} {record : Json}
  {request : IndexRequest}

/-- Where no routing field is described, the field with the parent's identity is one. -/
theorem parentIdOf_of_undescribed (built : build env config = .ok t) (child : t.relation = .childOf parent routing)
    {raw : String} (undescribed : config.relation = some (.childOf raw none)) (document : Json) :
    t.parentIdOf document = t.routingOf document := by
  obtain ⟨bound, steps⟩ := build_steps built
  have related := steps.relation
  rw [undescribed, child] at related
  cases given : t.roles.lookup .parentId with
  | none =>
      simp only [relationOf, given] at related
      cases related
  | some path =>
      simp only [relationOf, given] at related
      cases related
      rw [parentIdOf, roleValue, roleField, given, routingOf_child child]
      rfl

/-- A child that names its parent goes to the shard of that name just if it has a value at the
routing field; otherwise it names the parent by its identity, and no shard. A call that deletes it
names the shard that it was written to just if the routing field reads that in the join field too,
should it lead there. -/
theorem child_routed_iff (built : build env config = .ok t) (found : r.find name = .ok t)
    (child : t.relation = .childOf parent routing)
    (sent : .indexDocument request ∈ (r.save now name record).run.asked answer s) :
    ∃ mapped, r.document t record = .ok mapped ∧
      (∀ p, NamesParent request.document p →
        (request.routing = some p ↔ ((routing.lookup mapped).bind scalarText).isSome) ∧
        (request.routing ≠ some p → request.routing = none ∧ t.parentIdOf mapped = some p) ∧
        ∀ raw, config.relation = some (.childOf raw none) → request.routing = some p) ∧
      ∀ later method arguments index id shard,
        .deleteDocument index id shard ∈ (r.execute name method arguments).run.asked answer later →
        ∃ search hits hit, (answer (.search (Routing.readTarget t) search) later).1 = .ok hits ∧ hit ∈ hits ∧
          hit.index = index ∧ hit.id = id ∧ t.routingOf hit.source = shard ∧
          (hit.source = request.document → (shard = request.routing ↔ StaysRouted t routing mapped)) := by
  rw [asked_save found] at sent
  cases mapping : r.document t record with
  | error e =>
      rw [mapping] at sent
      cases sent
  | ok mapped =>
      rw [mapping, List.mem_singleton] at sent
      cases sent
      refine ⟨mapped, rfl, fun p names => ?_, fun later method arguments index id shard asked => ?_⟩
      · have named := ((namesParent_withJoin_iff child).mp names).2
        rw [parentOf_eq] at named
        change (t.routingOf mapped = some p ↔ _) ∧ (t.routingOf mapped ≠ some p → t.routingOf mapped = none ∧ _) ∧
          ∀ raw, _ → t.routingOf mapped = some p
        rw [← routingOf_child child]
        -- The join falls back to the id of the parent, the request does not.
        cases routed : t.routingOf mapped with
        | some shard =>
            rw [routed] at named
            cases named
            simp
        | none =>
            rw [routed, Option.none_or] at named
            refine ⟨by simp, fun _ => ⟨rfl, named⟩, fun raw undescribed => ?_⟩
            rw [← routed, ← named, parentIdOf_of_undescribed built child undescribed]
      · obtain ⟨search, hits, hit, answered, listed, sameIndex, sameId, rfl⟩ := asked_execute found asked
        refine ⟨search, hits, hit, answered, listed, sameIndex, sameId, rfl, fun source => ?_⟩
        rw [source]
        exact routingOf_withJoin_iff child mapped

section Replies

/-- The engine with a reply in it. -/
def replied : Memory :=
  (Memory.run ⟨0, 0⟩ (replyProgram.save ⟨0, 0⟩ "Reply" (.object replyMembers)).run Memory.empty).2

theorem asked_deleteAll : (replyProgram.execute "Reply" "deleteAll" []).run.asked (Memory.answer ⟨0, 0⟩) replied =
    [.search "replies" ⟨.everything, [], none⟩, .deleteDocument "replies" "7" (some "1")] := by
  rfl

/-- A reply goes to the shard of its post, and is deleted there as long as it is stored. -/
theorem reply_routed : ∃ request,
    .indexDocument request ∈ (replyProgram.save ⟨0, 0⟩ "Reply" (.object replyMembers)).run.asked (Memory.answer ⟨0, 0⟩)
      Memory.empty ∧
    NamesParent request.document "1" ∧ request.routing = some "1" ∧
    .deleteDocument "replies" "7" (some "1") ∈
      (replyProgram.execute "Reply" "deleteAll" []).run.asked (Memory.answer ⟨0, 0⟩) replied ∧
    ∀ (later : Memory) method arguments shard, later.Keyed → later.document? "replies" "7" = some request.document →
      .deleteDocument "replies" "7" shard ∈
        (replyProgram.execute "Reply" method arguments).run.asked (Memory.answer ⟨0, 0⟩) later →
      shard = some "1" := by
  let mapped := replies.toEngine (.object replyMembers)
  have built : build .empty repliesConfig = .ok replies := rfl
  have found : replyProgram.find "Reply" = .ok replies := rfl
  have sent : .indexDocument (indexRequest replies ⟨0, 0⟩ mapped) ∈
      (replyProgram.save ⟨0, 0⟩ "Reply" (.object replyMembers)).run.asked (Memory.answer ⟨0, 0⟩) Memory.empty := by
    rw [asked_save found]
    exact List.mem_singleton_self _
  obtain ⟨_, -, named, deleted⟩ := child_routed_iff built found rfl sent
  have names : NamesParent (indexRequest replies ⟨0, 0⟩ mapped).document "1" := by rfl
  have routed := (named "1" names).2.2 "Post" rfl
  refine ⟨_, sent, names, routed, ?_, fun later method arguments shard keyed stored asked => ?_⟩
  · rw [asked_deleteAll]
    exact List.mem_cons_of_mem _ (List.mem_singleton_self _)
  · obtain ⟨search, hits, hit, answered, listed, sameIndex, sameId, -, back⟩ := deleted _ _ _ _ _ _ asked
    cases answered
    have source := Memory.document?_of_mem_search keyed listed
    rw [sameIndex, sameId, stored] at source
    rw [← routed]
    refine (back (Option.some.inj source).symm).mpr fun inside => ?_
    exact absurd inside (by decide)

/-- Replies that are spread over the shards by a field of their own. -/
def spreadConfig : TypeConfig :=
  { repliesConfig with
    relation := some (.childOf "Post" (some "shard"))
    fields := [⟨"post", none, .keyword, some .parentId, []⟩, ⟨"shard", none, .keyword, none, []⟩] }

def spread : DocumentType :=
  { replies with
    relation := .childOf "Post" ⟨"shard"⟩
    fields := [
      ⟨"post", "post", ⟨"post"⟩, .keyword, some .parentId, []⟩,
      ⟨"shard", "shard", ⟨"shard"⟩, .keyword, none, []⟩]
    roles := [(.parentId, ⟨"post"⟩)] }

def spreadProgram : Repository :=
  { replyProgram with registry := Registry.ofConfigs .empty [spreadConfig] }

/-- A reply without the field names its post and goes to no shard. -/
theorem reply_sent_without_shard :
    ¬∀ (env : Environment) (config : TypeConfig) (t : DocumentType) (r : Repository) (name parent : String)
        (routing : FieldPath), build env config = .ok t → r.find name = .ok t → t.relation = .childOf parent routing →
      ∀ (now : Instant) (record : Json) (request : IndexRequest) (m : Memory),
        .indexDocument request ∈ (r.save now name record).run.asked (Memory.answer now) m →
        (∀ p, NamesParent request.document p → request.routing = some p) ∧
          ∀ (later : Memory) method arguments index id shard, later.Keyed →
            later.document? index id = some request.document →
            .deleteDocument index id shard ∈ (r.execute name method arguments).run.asked (Memory.answer now) later →
            shard = request.routing := by
  intro every
  let mapped : Json := .object [("post", .string "1")]
  have found : spreadProgram.find "Reply" = .ok spread := rfl
  have sent : .indexDocument (indexRequest spread ⟨0, 0⟩ mapped) ∈
      (spreadProgram.save ⟨0, 0⟩ "Reply" mapped).run.asked (Memory.answer ⟨0, 0⟩) Memory.empty := by
    rw [asked_save found]
    exact List.mem_singleton_self _
  have names : NamesParent (indexRequest spread ⟨0, 0⟩ mapped).document "1" := by rfl
  have routed := (every .empty spreadConfig spread spreadProgram "Reply" "Post" ⟨"shard"⟩ rfl found rfl _ _ _ _ sent).1
    "1" names
  cases routed

end Replies

end Repository

end DocMapper
