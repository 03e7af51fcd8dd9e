import DocMapper.Proofs.BootstrapReading
import DocMapper.Proofs.MatchingDocuments
import DocMapper.Proofs.PathWrites
/-!
What of a record comes through a save and a later search. What the engine knows of a document is
written into the fields with roles, and every other member comes back as it was, unless it is
stored as the join field. That field is taken away from what is read of any type, whether or not
the type has a relation: a member with its name is stored and never comes back.
-/

namespace DocMapper

open DocumentType (joinField)

namespace Json

variable {before after : Json} {left right : Dict Json} {places : List String → Prop} {key : String}

theorem SameBut.exists_object (same : SameBut places (.object left) after) (proper : ¬places []) :
    ∃ right, after = .object right := by
  cases same with
  | same => exact ⟨left, rfl⟩
  | filled here => exact absurd here proper
  | object => exact ⟨_, rfl⟩

theorem SameBut.member (same : SameBut places (.object left) (.object right)) (proper : ¬places []) {old : Json}
    (found : Dict.find? key left = some old) :
    ∃ new, Dict.find? key right = some new ∧ SameBut (fun rest => places (key :: rest)) old new := by
  cases same with
  | same => exact ⟨old, found, .same⟩
  | filled here => exact absurd here proper
  | object kept fresh values =>
      obtain ⟨new, there⟩ := Dict.has_eq_true_iff.mp (kept key (Dict.has_eq_true_iff.mpr ⟨old, found⟩))
      exact ⟨new, there, values key old new found there⟩

end Json

namespace DocumentType

variable {env : Environment} {config : TypeConfig} {t : DocumentType} {members : Dict Json} {document : Json}
  {roles : List Role} {fills : List (Role × Json)}

/-- A document with values in some of its fields with roles, as far as it has room for them. -/
def filledIn (t : DocumentType) (fills : List (Role × Json)) (document : Json) : Json :=
  fills.foldl (fun document fill => t.withRole fill.1 fill.2 document) document

/-- Where a document has the values of some roles. -/
def RolePlace (t : DocumentType) (roles : List Role) (place : List String) : Prop :=
  ∃ role ∈ roles, ∃ path, t.roleField role = some path ∧ path.segments = place

theorem not_rolePlace_nil : ¬t.RolePlace roles [] := by
  rintro ⟨role, -, path, -, none⟩
  exact path.segments_ne_nil none

theorem sameBut_withRole {role : Role} (listed : role ∈ roles) (value document : Json) :
    Json.SameBut (t.RolePlace roles) document (t.withRole role value document) := by
  rw [withRole]
  cases assigned : t.assignRole? role value document with
  | none => exact .same
  | some changed =>
      obtain ⟨path, given, written⟩ := Option.bind_eq_some_iff.mp assigned
      exact (Json.sameBut_assignAlong? written).mono fun place same => ⟨role, listed, path, given, same.symm⟩

theorem sameBut_filledIn (within : ∀ fill ∈ fills, fill.1 ∈ roles) (document : Json) :
    Json.SameBut (t.RolePlace roles) document (t.filledIn fills document) := by
  induction fills generalizing document with
  | nil => exact .same
  | cons fill rest ih =>
      have first := sameBut_withRole (t := t) (within fill List.mem_cons_self) fill.2 document
      exact first.trans (ih (fun other listed => within other (List.mem_cons_of_mem fill listed)) _)

theorem ordered_withRole (ordered : document.Ordered) {value : Json} (added : value.Ordered) (role : Role) :
    (t.withRole role value document).Ordered := by
  rw [withRole]
  cases assigned : t.assignRole? role value document with
  | none => exact ordered
  | some changed =>
      obtain ⟨path, -, written⟩ := Option.bind_eq_some_iff.mp assigned
      exact ordered.assignAlong? added written

theorem ordered_filledIn (ordered : document.Ordered) (added : ∀ fill ∈ fills, fill.2.Ordered) :
    (t.filledIn fills document).Ordered := by
  induction fills generalizing document with
  | nil => exact ordered
  | cons fill rest ih =>
      have first := ordered_withRole (t := t) ordered (added fill List.mem_cons_self) fill.1
      exact ih first fun other listed => added other (List.mem_cons_of_mem fill listed)

/-- The name that a member of a record is stored under. -/
def storedKey (t : DocumentType) (key : String) : String :=
  renamedKey .toEngine t.fields key

/-- A record has every member of another one that is not stored as the join field, with the same
value up to where some roles are. -/
def Carries (t : DocumentType) (roles : List Role) (record result : Json) : Prop :=
  ∀ key value, record.get? key = some value → t.storedKey key ≠ joinField → ∃ new, result.get? key = some new ∧
    Json.SameBut (fun rest => Renamed .fromEngine t.fields (t.RolePlace roles) (key :: rest)) value new

/-- Outside the join field, the steps to the field with a role return. -/
def StepsClear (t : DocumentType) (role : Role) : Prop :=
  ∀ path, t.roleField role = some path → path.segments.head? ≠ some joinField →
    StepsReturn .fromEngine t.fields path.segments

def bare : Json → Json
  | .object members => .object (Dict.remove joinField members)
  | document => document

theorem ordered_joinValue {parent : Option String} {join : Json} (given : t.joinValue parent = some join) :
    join.Ordered := by
  rw [joinValue] at given
  split at given
  · cases given
  · cases given
    exact .string _
  · cases given
    have before : "name" < "parent" := by decide
    refine .object (by simpa [Dict.Ordered] using before) fun entry listed => ?_
    simp only [List.mem_cons, List.not_mem_nil, or_false] at listed
    obtain rfl | rfl := listed
    · exact .string _
    · cases parent with
      | none => exact .null
      | some id => exact .string id

theorem withJoin_object (t : DocumentType) {stored : Dict Json} (ordered : (Json.object stored).Ordered) :
    ∃ joined, Repository.withJoin t (.object stored) = .object joined ∧
      Dict.remove joinField joined = Dict.remove joinField stored ∧ (Json.object joined).Ordered := by
  cases related : t.joinValue (Repository.parentOf t (.object stored)) with
  | none => exact ⟨stored, by simp only [Repository.withJoin, related], rfl, ordered⟩
  | some join =>
      refine ⟨Dict.put joinField join stored, by simp only [Repository.withJoin, related],
        Dict.remove_put joinField join stored, ordered.put joinField (ordered_joinValue related)⟩

theorem allReturn_stored (built : build env config = .ok t) {record : Json} (ordered : record.Ordered)
    (back : t.fromEngine (t.toEngine record) = record) : AllReturn .fromEngine t.fields (t.toEngine record) :=
  (rename_back_iff (build_differ built) (ordered_rename .toEngine t.fields ordered)).mp (congrArg t.toEngine back)

/-- The steps to an identity that is there to be read return. -/
theorem stepsClear_identity (built : build env config = .ok t) (ordered : (Json.object members).Ordered)
    (back : t.fromEngine (t.toEngine (.object members)) = .object members) {id : String}
    (identified : t.identityOf (Repository.withJoin t (t.toEngine (.object members))) = some id) :
    t.StepsClear .identity := by
  intro path given outside
  have all := allReturn_stored built ordered back
  have stored_ordered := ordered_rename .toEngine t.fields ordered
  rw [toEngine, rename_object] at all identified
  rw [rename_object] at stored_ordered
  obtain ⟨joined, is, same, -⟩ := withJoin_object t stored_ordered
  obtain ⟨value, looked, -⟩ := Option.bind_eq_some_iff.mp identified
  rw [roleValue, given, Option.bind_some, is, FieldPath.lookup] at looked
  -- The id was read there, so the path leads through keys that come back.
  cases segments : path.segments with
  | nil => trivial
  | cons key rest =>
      rw [segments] at looked outside
      have other : key ≠ joinField := by simpa using outside
      have apart : FieldPath.lookupAlong (key :: rest) (.object (Dict.remove joinField joined)) = some value := by
        rw [FieldPath.lookupAlong] at looked ⊢
        rwa [Dict.find?_remove, if_neg other]
      rw [same] at apart
      exact (all.remove joinField).steps apart

/-- A record that comes back is carried by what is read of it, with some roles filled in. -/
theorem carries_filledIn (built : build env config = .ok t) (ordered : (Json.object members).Ordered)
    (back : t.fromEngine (t.toEngine (.object members)) = .object members)
    (clear : ∀ role ∈ roles, t.StepsClear role) (within : ∀ fill ∈ fills, fill.1 ∈ roles)
    (added : ∀ fill ∈ fills, fill.2.Ordered) :
    t.Carries roles (.object members)
      (t.fromEngine (bare (t.filledIn fills (Repository.withJoin t (t.toEngine (.object members)))))) := by
  have all := allReturn_stored built ordered back
  have stored_ordered := ordered_rename .toEngine t.fields ordered
  rw [toEngine, rename_object] at back all ⊢
  rw [rename_object] at stored_ordered
  generalize Dict.ofPairs (members.map (renameMember .toEngine t.fields)) = stored at back all stored_ordered ⊢
  obtain ⟨joined, is, same, joined_ordered⟩ := withJoin_object t stored_ordered
  have filled := sameBut_filledIn (t := t) within (.object joined)
  obtain ⟨result, ends⟩ := filled.exists_object not_rolePlace_nil
  have result_ordered := ordered_filledIn (t := t) joined_ordered added
  rw [ends] at filled result_ordered
  have read := filled.remove joinField
  rw [same] at read
  -- What is filled in lies at the places of the roles, and it stays there under other names.
  have renamed := sameBut_rename read (stored_ordered.remove joinField)
    (result_ordered.remove joinField) (all.remove joinField) ?steps
  case steps =>
    rintro _ ⟨⟨role, listed, path, given, rfl⟩, outside⟩
    exact clear role listed path given outside
  rw [rename_object, rename_object] at renamed
  intro key value there own
  rw [← back, fromEngine, rename_object] at there
  have kept := find?_renamed_remove stored_ordered.keys all there own
  obtain ⟨new, given, alike⟩ := renamed.member (not_renamed_nil fun place => not_rolePlace_nil place.1) kept
  refine ⟨new, ?_, alike.mono ?_⟩
  · rw [is, ends, bare, fromEngine, rename_object]
    exact given
  · rintro rest ⟨place, ⟨listed, -⟩, same⟩
    exact ⟨place, listed, same⟩

end DocumentType

namespace Memory

variable {m changed : Memory} {now : Instant} {target id : String} {hit : Hit}

theorem writeTarget_eq_ok {name : String} (goes : m.writeTarget target = .ok name) :
    name = target ∨ Dict.has target m.indices = false ∧ m.writeIndex? target = some name := by
  rw [writeTarget] at goes
  split at goes
  · cases goes
    exact .inl rfl
  · next unnamed =>
      split at goes
      · next index writes =>
          cases goes
          exact .inr ⟨Bool.eq_false_iff.mpr unnamed, writes⟩
      · split at goes
        · cases goes
        · split at goes <;> cases goes
          exact .inl rfl

theorem indexDocument_identified {r : IndexRequest} {reply : IndexReply}
    (done : m.indexDocument now r = .ok (reply, changed)) (given : r.id = some id) : reply.id = id := by
  have same := congrArg Prod.fst (indexDocument_identity done)
  rw [given] at same
  exact same

theorem document?_of_mem_search (keyed : m.Keyed) {request : SearchRequest} (found : hit ∈ m.search target request) :
    m.document? hit.index hit.id = some hit.source := by
  obtain ⟨criteria, sort, limit⟩ := request
  have unlimited : hit ∈ m.search target ⟨criteria, sort, none⟩ := by
    cases limit with
    | none => exact found
    | some limit => exact List.mem_of_mem_take found
  obtain ⟨-, stored, there, -, same⟩ := (mem_search keyed).mp unlimited
  obtain ⟨index, named, kept⟩ := Option.bind_eq_some_iff.mp there
  rw [document?, named, Option.bind_some, kept, same]
  rfl

end Memory

namespace Repository

variable {env : Environment} {config : TypeConfig} {r : Repository} {name index id : String} {t : DocumentType}
  {members : Dict Json} {m : Memory} {now : Instant}

theorem record_renaming (renames : r.mapper = .renaming) (t : DocumentType) (document : Json) :
    r.record t document = .ok (t.fromEngine (DocumentType.bare document)) := by
  change (r.mapper.fromEngine t (DocumentType.bare document)).mapError _ = _
  rw [renames]
  rfl

/-- What is filled in of a document, beside where it is stored a value that is only there at times. -/
def placeFills (index id : String) (role : Role) (value : Option Json) : List (Role × Json) :=
  (.identity, .string id) :: (value.map fun value => (role, value)).toList ++ [(.indexName, .string index)]

theorem forall_placeFills {fits : Role × Json → Prop} {role : Role} {value : Option Json}
    (identity : fits (.identity, .string id)) (indexName : fits (.indexName, .string index))
    (given : ∀ known, value = some known → fits (role, known)) :
    ∀ fill ∈ placeFills index id role value, fits fill := by
  cases value with
  | none => simpa [placeFills] using ⟨identity, indexName⟩
  | some value => simpa [placeFills] using ⟨identity, given value rfl, indexName⟩

theorem written_eq (t : DocumentType) (reply : IndexReply) (document : Json) :
    written t reply document =
      t.filledIn (placeFills reply.index reply.id .version (reply.version.map .ofInt)) document := by
  rw [written]
  cases reply.version <;> rfl

theorem found_eq (t : DocumentType) (hit : Hit) :
    found t hit = t.filledIn (placeFills hit.index hit.id .score (hit.score.map .ofDouble)) hit.source := by
  rw [found]
  cases hit.score <;> rfl

theorem carries_placed (built : DocumentType.build env config = .ok t) (ordered : (Json.object members).Ordered)
    (back : t.fromEngine (t.toEngine (.object members)) = .object members) {role : Role}
    (clear : ∀ filled ∈ [.identity, role, .indexName], t.StepsClear filled) {value : Option Json}
    (added : ∀ known, value = some known → known.Ordered) :
    t.Carries [.identity, role, .indexName] (.object members) (t.fromEngine (DocumentType.bare
      (t.filledIn (placeFills index id role value) (withJoin t (t.toEngine (.object members)))))) := by
  apply DocumentType.carries_filledIn built ordered back clear
  · exact forall_placeFills (by simp) (by simp) (by simp)
  · exact forall_placeFills (.string id) (.string index) added

theorem carries_saved (built : DocumentType.build env config = .ok t) (ordered : (Json.object members).Ordered)
    (back : t.fromEngine (t.toEngine (.object members)) = .object members)
    (clear : ∀ filled ∈ [.identity, .version, .indexName], t.StepsClear filled) (reply : IndexReply) :
    t.Carries [.identity, .version, .indexName] (.object members) (t.fromEngine (DocumentType.bare
      (written t reply (withJoin t (t.toEngine (.object members)))))) := by
  rw [written_eq]
  apply carries_placed built ordered back clear
  intro value given
  obtain ⟨version, -, rfl⟩ := Option.map_eq_some_iff.mp given
  exact .number _

theorem carries_found (built : DocumentType.build env config = .ok t) (ordered : (Json.object members).Ordered)
    (back : t.fromEngine (t.toEngine (.object members)) = .object members)
    (clear : ∀ filled ∈ [.identity, .score, .indexName], t.StepsClear filled) {hit : Hit}
    (source : hit.source = withJoin t (t.toEngine (.object members))) :
    t.Carries [.identity, .score, .indexName] (.object members) (renamedHit t hit) := by
  change t.Carries _ _ (t.fromEngine (DocumentType.bare (found t hit)))
  rw [found_eq, source]
  apply carries_placed built ordered back clear
  intro value given
  obtain ⟨score, -, rfl⟩ := Option.map_eq_some_iff.mp given
  rw [Json.ofDouble]
  split
  · exact .number _
  · exact .null

theorem readTarget_unaliased (only : t.addressing = .fixed index) (unaliased : t.aliasName = none) :
    Routing.readTarget t = index := by
  rw [readTarget_fixed only, unaliased, Option.getD_none]

theorem reaches_written (plain : PlainNames t) (only : t.addressing = .fixed index) (unaliased : t.aliasName = none)
    (ordered : m.Ordered) {place : String} (goes : m.writeTarget index = .ok place) {request : IndexRequest}
    {reply : IndexReply} {after : Memory} (target : request.target = index)
    (done : m.indexDocument now request = .ok (reply, after)) : Reaches after t place := by
  have landed : reply.index = place := by
    have granted := (Memory.indexDocument_granted done).1
    rw [target, goes] at granted
    exact (Except.ok.inj granted).symm
  have literal := plain.onlyIndex only
  have there : Dict.has place after.indices = true := by simp [Memory.indexDocument_has done, landed]
  rw [Reaches, readTarget_unaliased only unaliased,
    Memory.mem_keys_readTargets (Memory.indexDocument_ordered ordered done) literal.2 (plain.tidy index only)]
  refine ⟨there, ?_⟩
  -- The name is that of the index, or an alias that reads resolve as writes do.
  rcases Memory.writeTarget_eq_ok goes with same | ⟨unnamed, writes⟩
  · exact .inl same
  · by_cases same : place = index
    · exact .inl same
    · obtain ⟨isWrite, held⟩ := Memory.mem_holders_of_writeIndex? writes
      refine .inr ⟨?_, ?_⟩
      · simp [Memory.indexDocument_has done, landed, unnamed, same]
      · rw [if_neg literal.1]
        exact ⟨isWrite, (Memory.indexDocument_flag? done ..).trans ((Memory.mem_holders_iff ordered).mp held)⟩

/-- A record that is saved comes back carried, and so it does from every search that finds it. -/
theorem saved_records_carried (built : DocumentType.build env config = .ok t) (known : r.find name = .ok t)
    (renames : r.mapper = .renaming) (only : t.addressing = .fixed index) (unaliased : t.aliasName = none)
    (ordered : (Json.object members).Ordered)
    (own : ∀ level inner, DocumentType.Reaches .toEngine t.fields (.object members) level inner →
      ∀ key ∈ Dict.keys inner, (∀ f ∈ level, f.name ≠ key) → ∀ f ∈ level, f.engineName ≠ key)
    (clear : ∀ role ∈ [Role.version, .score, .indexName], t.StepsClear role)
    (identified : t.identityOf (withJoin t (t.toEngine (.object members))) = some id)
    (keyed : m.Keyed) (now : Instant) :
    (∀ fault, m.writeTarget index = .error fault → Memory.run now (r.save now name (.object members)).run m =
      (.error (.during (.saving name index) (.of (.engine fault))), m)) ∧
    ∀ place, m.writeTarget index = .ok place → ∃ result document after,
      Memory.run now (r.save now name (.object members)).run m = (.ok result, after) ∧
      t.Carries [.identity, .version, .indexName] (.object members) result ∧
      after.Keyed ∧ after.document? place id = some document ∧
      (PlainNames t → ∃ hit ∈ after.search index Memory.searchAll, hit.place = (place, id)) ∧
      ∀ later : Memory, later.Keyed → later.document? place id = some document → ∀ now request,
        Memory.run now (r.search name request).run later =
          (.ok ((later.search index request).map (renamedHit t)), later) ∧
        ∀ hit ∈ later.search index request, hit.place = (place, id) →
          t.Carries [.identity, .score, .indexName] (.object members) (renamedHit t hit) := by
  have back := DocumentType.fromEngine_toEngine built ordered own
  have identity := DocumentType.stepsClear_identity built ordered back identified
  have mapping : r.document t (.object members) = .ok (t.toEngine (.object members)) := by
    rw [document, renames]
    rfl
  have target (mapped : Json) : (indexRequest t now mapped).target = index := by
    rw [indexRequest, Routing.writeTarget, only]
  have run : Memory.run now (r.save now name (.object members)).run m = _ := run_save known mapping
  constructor
  · -- Only the target of a write can make the engine refuse it.
    intro fault refused
    rw [run, Memory.indexDocument, target, refused]
  · intro place goes
    obtain ⟨reply, after, done, rfl⟩ :=
      Memory.indexDocument_of_target (r := indexRequest t now (t.toEngine (.object members))) ((target _).symm ▸ goes) now
    have given : reply.id = id := Memory.indexDocument_identified done identified
    have stored : after.document? reply.index id = some (withJoin t (t.toEngine (.object members))) :=
      given ▸ Memory.indexDocument_stored done
    have after_keyed := Memory.indexDocument_keyed keyed done
    have reads := readTarget_unaliased only unaliased
    refine ⟨t.fromEngine (DocumentType.bare (written t reply (withJoin t (t.toEngine (.object members))))), _, after,
      ?saved, ?carried, after_keyed, stored, ?listed, ?later⟩
    case saved =>
      rw [run, done]
      dsimp only
      rw [record_renaming renames]
    case carried =>
      refine carries_saved built ordered back ?_ reply
      simpa using ⟨identity, clear .version (by simp), clear .indexName (by simp)⟩
    case listed =>
      intro plain
      have read := reaches_written plain only unaliased keyed.names goes (target _) done
      rw [Reaches, reads] at read
      exact ⟨_, (Memory.mem_searchAll_stored after_keyed.names stored).mpr read, rfl⟩
    case later =>
      intro later later_keyed still now request
      refine ⟨reads ▸ run_search known renames request, fun hit found same => ?_⟩
      have source := Memory.document?_of_mem_search later_keyed found
      obtain ⟨sameIndex, sameId⟩ := Prod.mk.inj same
      rw [sameIndex, sameId] at source
      refine carries_found built ordered back ?_ (Option.some.inj (source.symm.trans still))
      simpa using ⟨identity, clear .score (by simp), clear .indexName (by simp)⟩

section Replies

/-- Replies to posts, with a version further down. -/
def repliesConfig : TypeConfig where
  name := "Reply"
  indexName := some "replies"
  aliasName := none
  timePattern := none
  timeField := none
  rollover := none
  settings := .none
  relation := some (.childOf "Post" none)
  fields := [
    ⟨"id", none, .keyword, some .identity, []⟩,
    ⟨"meta", none, .object, none, [⟨"revision", some "rev", .long, some .version, []⟩]⟩,
    ⟨"post", some "post_id", .keyword, some .parentId, []⟩]

def replies : DocumentType where
  name := "Reply"
  indexName := "replies"
  aliasName := none
  addressing := .fixed "replies"
  relation := .childOf "Post" ⟨"post_id"⟩
  settings := .none
  fields := [
    ⟨"id", "id", ⟨"id"⟩, .keyword, some .identity, []⟩,
    ⟨"meta", "meta", ⟨"meta"⟩, .object, none, [⟨"revision", "rev", ⟨"meta.rev"⟩, .long, some .version, []⟩]⟩,
    ⟨"post", "post_id", ⟨"post_id"⟩, .keyword, some .parentId, []⟩]
  roles := [(.identity, ⟨"id"⟩), (.version, ⟨"meta.rev"⟩), (.parentId, ⟨"post_id"⟩)]
  rolloverSchedule := none

def replyProgram : Repository where
  registry := Registry.ofConfigs .empty [repliesConfig]
  mapper := .renaming
  defaultSchedule := .minutely

def replyMembers : Dict Json :=
  [("id", .string "7"), ("meta", .object [("device", .string "phone")]), ("post", .string "1"), ("text", .string "+1")]

theorem replyMembers_ordered : (Json.object replyMembers).Ordered := by
  have details : (Json.object [("device", .string "phone")]).Ordered :=
    .object (List.pairwise_singleton ..) (by simpa using .string _)
  exact .object (by decide +kernel) (by simpa [replyMembers] using ⟨.string _, details, .string _, .string _⟩)

theorem plainNames_replies : PlainNames replies where
  literal := by decide
  tidy := by
    intro index only
    cases only
    exact ⟨by decide, by decide⟩

/-- A reply comes back from its save, and from a search for all of them. -/
theorem reply_carried : ∃ result after hit,
    Memory.run ⟨0, 0⟩ (replyProgram.save ⟨0, 0⟩ "Reply" (.object replyMembers)).run Memory.empty = (.ok result, after) ∧
      replies.Carries [.identity, .version, .indexName] (.object replyMembers) result ∧
      hit ∈ after.search "replies" Memory.searchAll ∧
      replies.Carries [.identity, .score, .indexName] (.object replyMembers) (renamedHit replies hit) := by
  have built : DocumentType.build .empty repliesConfig = .ok replies := rfl
  have own : ∀ level inner, DocumentType.Reaches .toEngine replies.fields (.object replyMembers) level inner →
      ∀ key ∈ Dict.keys inner, (∀ f ∈ level, f.name ≠ key) → ∀ f ∈ level, f.engineName ≠ key := by
    intro level inner reached
    cases reached with
    | here => decide
    | property listed found further =>
        simp only [replyMembers, List.mem_cons, List.not_mem_nil, or_false] at listed
        obtain rfl | rfl | rfl | rfl := listed <;> cases found
        · cases further
        · -- Only the details lead to another object.
          obtain - | - | ⟨listed, found, further⟩ := further
          · decide
          · cases List.mem_singleton.mp listed
            cases found
        · cases further
  have clear : ∀ role ∈ [Role.version, .score, .indexName], replies.StepsClear role := by
    intro role listed path given outside
    simp only [List.mem_cons, List.not_mem_nil, or_false] at listed
    obtain rfl | rfl | rfl := listed <;> cases given
    exact ⟨rfl, trivial⟩
  have known : replyProgram.find "Reply" = .ok replies := rfl
  have identified : replies.identityOf (withJoin replies (replies.toEngine (.object replyMembers))) = some "7" := by
    decide +kernel
  obtain ⟨result, document, after, saved, carried, keyed, stored, listed, searched⟩ :=
    (saved_records_carried built known rfl rfl rfl replyMembers_ordered own clear identified Memory.keyed_empty
      ⟨0, 0⟩).2 "replies" rfl
  obtain ⟨hit, found, place⟩ := listed plainNames_replies
  exact ⟨result, after, hit, saved, carried, found, (searched after keyed stored ⟨0, 0⟩ Memory.searchAll).2 hit found place⟩

/-- Replies whose details and meta data go by one name in the application. -/
def blurredConfig : TypeConfig :=
  { repliesConfig with
    relation := none
    fields := [
      ⟨"id", none, .keyword, some .identity, []⟩,
      ⟨"meta", some "details", .object, none, []⟩,
      ⟨"meta", none, .object, none, [⟨"revision", none, .long, some .version, []⟩]⟩] }

def blurred : DocumentType :=
  { replies with
    relation := .none
    fields := [
      ⟨"id", "id", ⟨"id"⟩, .keyword, some .identity, []⟩,
      ⟨"meta", "details", ⟨"details"⟩, .object, none, []⟩,
      ⟨"meta", "meta", ⟨"meta"⟩, .object, none, [⟨"revision", "revision", ⟨"meta.revision"⟩, .long, some .version, []⟩]⟩]
    roles := [(.identity, ⟨"id"⟩), (.version, ⟨"meta.revision"⟩)] }

def blurredProgram : Repository :=
  { replyProgram with registry := Registry.ofConfigs .empty [blurredConfig] }

/-- Where the version goes below a name that leads elsewhere, the save gives back the version alone. -/
theorem details_buried : blurredProgram.find "Reply" = .ok blurred ∧ ¬blurred.StepsClear .version ∧
    (Memory.run ⟨0, 0⟩ (blurredProgram.save ⟨0, 0⟩ "Reply"
      (.object [("id", .string "7"), ("meta", .object [("device", .string "phone")])])).run Memory.empty).1.toOption =
        some (.object [("id", .string "7"), ("meta", .object [("revision", .ofNat 1)])]) := by
  refine ⟨rfl, fun clear => ?_, by decide +kernel⟩
  have returns := (clear ⟨"meta.revision"⟩ rfl (by decide)).1
  have named := congrArg (Option.map Field.engineName) returns
  exact absurd named (by decide)

end Replies

section Notes

/-- Notes with an identity, which are not related to anything. -/
def markedConfig : TypeConfig :=
  { notesConfig with aliasName := none, fields := [⟨"id", none, .keyword, some .identity, []⟩] }

def marked : DocumentType :=
  { notes with
    aliasName := none
    fields := [⟨"id", "id", ⟨"id"⟩, .keyword, some .identity, []⟩]
    roles := [(.identity, ⟨"id"⟩)] }

def markedProgram : Repository :=
  { noteProgram with registry := Registry.ofConfigs .empty [markedConfig] }

/-- A note that has a member with the name of the join field. -/
def markedNote : Dict Json :=
  [("id", .string "1"), ("kdm_relation", .string "mine")]

theorem markedNote_ordered : (Json.object markedNote).Ordered :=
  .object (by decide +kernel) (by simpa [markedNote] using ⟨.string _, .string _⟩)

/-- What a note has under the name of the join field is stored, and the save does not give it back. -/
theorem join_field_lost :
    ¬∀ (env : Environment) (config : TypeConfig) (t : DocumentType) (r : Repository) (name index id : String)
      (members : Dict Json) (m after : Memory) (now : Instant) (result : Json),
      DocumentType.build env config = .ok t → r.find name = .ok t → r.mapper = .renaming →
      t.addressing = .fixed index → t.aliasName = none → (Json.object members).Ordered →
      (∀ level inner, DocumentType.Reaches .toEngine t.fields (.object members) level inner →
        ∀ key ∈ Dict.keys inner, (∀ f ∈ level, f.name ≠ key) → ∀ f ∈ level, f.engineName ≠ key) →
      t.identityOf (t.toEngine (.object members)) = some id → m.Keyed →
      Memory.run now (r.save now name (.object members)).run m = (.ok result, after) →
      ∀ key value, Dict.find? key members = some value → ∃ new, result.get? key = some new ∧
        Json.SameBut (fun rest => DocumentType.Renamed .fromEngine t.fields
          (t.RolePlace [.identity, .version, .indexName]) (key :: rest)) value new := by
  intro carried
  have own : ∀ level inner, DocumentType.Reaches .toEngine marked.fields (.object markedNote) level inner →
      ∀ key ∈ Dict.keys inner, (∀ f ∈ level, f.name ≠ key) → ∀ f ∈ level, f.engineName ≠ key := by
    intro level inner reached
    cases reached with
    | here => decide
    | property listed found further =>
        simp only [markedNote, List.mem_cons, List.not_mem_nil, or_false] at listed
        obtain rfl | rfl := listed <;> cases found
        cases further
  have saved : (Memory.run ⟨0, 0⟩ (markedProgram.save ⟨0, 0⟩ "Note" (.object markedNote)).run Memory.empty).1 =
      .ok (.object [("id", .string "1")]) := by rfl
  -- The record has a member of the join field's name, and the reply comes without it.
  obtain ⟨new, given, -⟩ := carried .empty markedConfig marked markedProgram "Note" "notes" "1" markedNote Memory.empty _
    ⟨0, 0⟩ _ rfl rfl rfl rfl rfl markedNote_ordered own rfl Memory.keyed_empty (Prod.ext saved rfl) "kdm_relation"
    (.string "mine") rfl
  cases given

end Notes

end Repository

end DocMapper
