import DocMapper.Proofs.PatternNames
import DocMapper.Proofs.SavedDocuments
/-!
Whether a type that is split by time finds what it has saved. Without an alias it reads through
the wildcard of its pattern, which takes in every index that the pattern names. With an alias
it reads through the alias, and an index that comes into being when it is written to has none.
-/

namespace DocMapper

namespace TimePattern

/-- The characters that a piece has as they are. -/
def Piece.chars : Piece → List Char
  | .literal text | .space text => text
  | .field _ _ | .wording _ => []

/-- The characters that specifiers write between numbers and words. -/
def marks : List Char := ['%', '-', '/', ':', ' ', '\n', '\t']

/-- A piece writes nothing but marks as it is. -/
def Piece.marked (p : Piece) : Bool :=
  p.chars.all marks.contains

theorem mem_marks {pieces : List Piece} (marked : pieces.all Piece.marked = true) :
    ∀ p ∈ pieces, ∀ c ∈ p.chars, c ∈ marks := by
  intro p member c inside
  have each := List.all_eq_true.mp (List.all_eq_true.mp marked p member) c inside
  simpa using each

theorem ofLetter_marked {letter : Char} {pieces : List Piece} (read : Piece.ofLetter? letter = some pieces) :
    pieces.all Piece.marked = true := by
  rw [Piece.ofLetter?.eq_def] at read
  split at read <;> cases read <;> rfl

theorem repad_chars {padding : Padding} {pieces padded : List Piece}
    (read : Piece.repad? padding pieces = some padded) : ∀ p ∈ padded, p.chars = [] := by
  rw [Piece.repad?.eq_def] at read
  split at read
  · cases read
    simp [Piece.chars]
  · cases read

/-- A specifier writes nothing but marks, numbers and words. -/
theorem specifier_chars {text rest : List Char} {pieces : List Piece}
    (read : specifier? text = some (pieces, rest)) : ∀ p ∈ pieces, ∀ c ∈ p.chars, c ∈ marks := by
  have repadded : ∀ {padding : Padding} {letter : Char} {tail : List Char},
      (((Piece.ofLetter? letter).bind (Piece.repad? padding)).map fun ps => (ps, tail)) = some (pieces, rest) →
        ∀ p ∈ pieces, ∀ c ∈ p.chars, c ∈ marks := by
    intro padding letter tail read p member c inside
    obtain ⟨padded, done, same⟩ := Option.map_eq_some_iff.mp read
    obtain ⟨plain, -, padded⟩ := Option.bind_eq_some_iff.mp done
    cases same
    rw [repad_chars padded p member] at inside
    cases inside
  rw [specifier?.eq_def] at read
  split at read
  -- Padded letters come first, then the letter alone and what no letter means; the rest is fixed wording.
  case h_1 | h_2 | h_3 => exact repadded read
  case h_15 letter tail _ _ _ _ _ _ _ _ _ _ _ _ _ _ =>
    obtain ⟨ps, known, same⟩ := Option.map_eq_some_iff.mp read
    cases same
    exact mem_marks (ofLetter_marked known)
  case h_16 => cases read
  all_goals
    cases read
    exact mem_marks rfl

theorem read_chars {fuel : Nat} {text : List Char} {pieces : List Piece} (read : read? fuel text = some pieces) :
    ∀ p ∈ pieces, ∀ c ∈ p.chars, c ∈ text ∨ c ∈ marks := by
  -- Every round takes some of the text in front, and leaves a rest that is still part of it.
  induction fuel generalizing text pieces with
  | zero =>
      cases text with
      | nil =>
          cases read
          simp
      | cons c rest => cases read
  | succ fuel ih =>
      cases text with
      | nil =>
          cases read
          simp
      | cons c rest =>
          -- A run of characters of one kind is a piece of its own.
          have running : ∀ (keep : Char → Bool) (run : Piece) (others : List Piece),
              run.chars = c :: rest.takeWhile keep → read? fuel (rest.dropWhile keep) = some others →
                ∀ p ∈ run :: others, ∀ x ∈ p.chars, x ∈ c :: rest ∨ x ∈ marks := by
            intro keep run others taken further p member x inside
            rcases List.mem_cons.mp member with first | later
            · rw [first, taken] at inside
              exact .inl (List.cons_subset_cons c (List.takeWhile_sublist _).subset inside)
            · exact (ih further p later x inside).imp_left fun listed =>
                List.mem_cons_of_mem c ((List.dropWhile_sublist _).subset listed)
          rw [read?] at read
          split at read
          · obtain ⟨⟨front, tail⟩, specified, read⟩ := Option.bind_eq_some_iff.mp read
            obtain ⟨others, further, read⟩ := Option.bind_eq_some_iff.mp read
            cases read
            obtain ⟨letter, suffix⟩ := specifier_suffix specified
            intro p member x inside
            rcases List.mem_append.mp member with first | later
            · exact .inr (specifier_chars specified p first x inside)
            · exact (ih further p later x inside).imp_left fun listed =>
                List.mem_cons_of_mem c (suffix.subset (List.mem_cons_of_mem letter listed))
          · split at read
            · obtain ⟨others, further, read⟩ := Option.bind_eq_some_iff.mp read
              cases read
              exact running _ _ _ rfl further
            · obtain ⟨others, further, read⟩ := Option.bind_eq_some_iff.mp read
              cases read
              exact running _ _ _ rfl further

theorem mem_addWildcard {reversed : List Char} {p : Piece} {c : Char} (member : c ∈ addWildcard reversed p) :
    c = '*' ∨ c ∈ p.chars ∨ c ∈ reversed := by
  have specified : c ∈ (if (reversed.dropWhile isJoint).head? = some '*' then reversed.dropWhile isJoint
      else '*' :: reversed) → c = '*' ∨ c ∈ reversed := by
    split
    · exact fun kept => .inr ((List.dropWhile_sublist _).subset kept)
    · exact List.mem_cons.mp
  cases p with
  | literal text | space text =>
      rcases List.mem_append.mp member with own | before
      · exact .inr (.inl (List.mem_reverse.mp own))
      · exact .inr (.inr before)
  | field f padding => exact (specified member).imp_right .inr
  | wording w => exact (specified member).imp_right .inr

theorem mem_foldl_addWildcard {pieces : List Piece} {reversed : List Char} {c : Char}
    (member : c ∈ pieces.foldl addWildcard reversed) :
    c = '*' ∨ (∃ p ∈ pieces, c ∈ p.chars) ∨ c ∈ reversed := by
  induction pieces generalizing reversed with
  | nil => exact .inr (.inr member)
  | cons p rest ih =>
      rcases ih member with star | ⟨q, listed, inside⟩ | before
      · exact .inl star
      · exact .inr (.inl ⟨q, List.mem_cons_of_mem p listed, inside⟩)
      · rcases mem_addWildcard before with star | inside | before
        · exact .inl star
        · exact .inr (.inl ⟨p, List.mem_cons_self, inside⟩)
        · exact .inr (.inr before)

theorem mem_wildcard {pattern : String} {c : Char} (member : c ∈ (wildcard pattern).toList) :
    c = '*' ∨ c ∈ pattern.toList ∨ c ∈ marks := by
  rw [wildcard, String.toList_ofList, List.mem_reverse] at member
  rcases mem_foldl_addWildcard member with star | ⟨p, listed, inside⟩ | nothing
  · exact .inl star
  · cases parsed : parse? pattern with
    | none =>
        rw [parsed] at listed
        cases listed
    | some pieces =>
        rw [parsed] at listed
        exact .inr (read_chars parsed p listed c inside)
  · cases nothing

end TimePattern

namespace DocumentType

variable {env : Environment} {config : TypeConfig} {t : DocumentType} {pattern : String} {field : Option FieldPath}

theorem build_pattern (built : build env config = .ok t) (timed : t.addressing = .timeBased pattern field) :
    ∃ pieces, TimePattern.parse? pattern = some pieces := by
  obtain ⟨bound, steps⟩ := build_steps built
  exact Option.isSome_iff_exists.mp (timed ▸ steps.addressing).patternSteps.valid

end DocumentType

namespace Repository

/-- Names and patterns that a read target may hold as they are. -/
structure PlainBuckets (t : DocumentType) (pattern : String) : Prop where
  single : ',' ∉ pattern.toList
  aliasName : ∀ name, t.aliasName = some name → '*' ∉ name.toList ∧ ',' ∉ name.toList
  /-- Every piece of the pattern has a written form. -/
  writable : ∀ pieces, TimePattern.parse? pattern = some pieces → .wording .offsetAnyForm ∉ pieces
  /-- No specifier puts a blank at an end of the wildcard. -/
  tidy : t.aliasName = none → DocumentType.Tidy (TimePattern.wildcard pattern)

variable {r : Repository} {name : String} {t : DocumentType} {m after : Memory} {now : Instant}
  {pattern : String} {field : Option FieldPath} {env : Environment} {config : TypeConfig}

theorem readTarget_timed (timed : t.addressing = .timeBased pattern field) :
    Routing.readTarget t = t.aliasName.getD (TimePattern.wildcard pattern) := by
  rw [Routing.readTarget, timed]

theorem readTarget_bucket (built : DocumentType.build env config = .ok t)
    (timed : t.addressing = .timeBased pattern field) (plain : PlainBuckets t pattern) :
    ',' ∉ (Routing.readTarget t).toList ∧ DocumentType.Tidy (Routing.readTarget t) := by
  rw [readTarget_timed timed]
  cases given : t.aliasName with
  | some aliasName => exact ⟨(plain.aliasName aliasName given).2, DocumentType.build_ownAlias built given⟩
  | none =>
      refine ⟨fun member => ?_, plain.tidy given⟩
      rcases TimePattern.mem_wildcard member with star | own | mark
      · cases star
      · exact plain.single own
      · exact absurd mark (by decide)

/-- The wildcard of a type takes in every index that a document is written to by name. -/
theorem wildcard_takes_bucket (built : DocumentType.build env config = .ok t)
    (timed : t.addressing = .timeBased pattern field) (plain : PlainBuckets t pattern) (now : Instant)
    (document : Option Json) :
    Text.matchesWildcard (TimePattern.wildcard pattern).toList (Routing.writeTarget t now document).toList = true := by
  obtain ⟨pieces, parsed⟩ := DocumentType.build_pattern built timed
  obtain ⟨bucket, expanded⟩ := TimePattern.expand_of_writable parsed (plain.writable pieces parsed)
    ((document.bind t.timeOf).getD now)
  rw [Routing.writeTarget, timed]
  dsimp only
  rw [expanded]
  exact TimePattern.wildcard_matches expanded

theorem selected_iff (timed : t.addressing = .timeBased pattern field) (plain : PlainBuckets t pattern) {index : String}
    (unnamed : index ≠ Routing.readTarget t)
    (bucket : t.aliasName = none →
      Text.matchesWildcard (TimePattern.wildcard pattern).toList index.toList = true) :
    (if '*' ∈ (Routing.readTarget t).toList then
        Text.matchesWildcard (Routing.readTarget t).toList index.toList = true
      else ∃ isWrite, m.flag? index (Routing.readTarget t) = some isWrite) ↔
      ∀ aliasName, t.aliasName = some aliasName → ∃ isWrite, m.flag? index aliasName = some isWrite := by
  rw [readTarget_timed timed] at unnamed ⊢
  cases given : t.aliasName with
  | some aliasName =>
      rw [Option.getD_some, if_neg (plain.aliasName aliasName given).1]
      simp
  | none =>
      rw [given, Option.getD_none] at unnamed
      have taken := bucket given
      rw [Option.getD_none]
      -- Without a star the wildcard would take in nothing but its own text.
      have starred : '*' ∈ (TimePattern.wildcard pattern).toList := by
        by_contra literal
        exact unnamed (String.toList_inj.mp (Text.eq_of_matchesWildcard literal taken))
      rw [if_pos starred]
      simp [taken]

/-- A saved document is found in an index of its own name, and otherwise where no index has the
name that reads go to: without an alias, or if its index had the alias before. -/
theorem reaches_saved_iff (built : DocumentType.build env config = .ok t)
    (timed : t.addressing = .timeBased pattern field) (plain : PlainBuckets t pattern) (ordered : m.Ordered)
    {request : IndexRequest} {reply : IndexReply} (done : m.indexDocument now request = .ok (reply, after))
    (bucket : t.aliasName = none →
      Text.matchesWildcard (TimePattern.wildcard pattern).toList reply.index.toList = true) :
    reply.index ∈ Dict.keys (after.readTargets (Routing.readTarget t)) ↔
      Routing.readTarget t = reply.index ∨ Dict.has (Routing.readTarget t) m.indices = false ∧
        ∀ aliasName, t.aliasName = some aliasName → ∃ isWrite, m.flag? reply.index aliasName = some isWrite := by
  obtain ⟨single, tidy⟩ := readTarget_bucket built timed plain
  have present : Dict.has reply.index after.indices = true := by
    rw [Memory.indexDocument_has done]
    simp
  have named : Dict.has (Routing.readTarget t) after.indices = false ↔
      reply.index ≠ Routing.readTarget t ∧ Dict.has (Routing.readTarget t) m.indices = false := by
    rw [Memory.indexDocument_has done, Bool.or_eq_false_iff, decide_eq_false_iff_not]
  rw [Memory.mem_keys_readTargets (Memory.indexDocument_ordered ordered done) single tidy,
    Memory.indexDocument_flag? done, named]
  -- An index with the name of the read target hides all that the target would select.
  by_cases own : reply.index = Routing.readTarget t
  · exact ⟨fun _ => .inl own.symm, fun _ => ⟨present, .inl own⟩⟩
  · have other : Routing.readTarget t ≠ reply.index := Ne.symm own
    rw [selected_iff timed plain own bucket]
    simp [present, own, other]

/-- A save that succeeded has stored its document where it says. A search for everything then
succeeds too, and it has the document among its hits if reads go to its index by name, or else
if and only if they go to no index by name and the type has no alias, or has one that the index
had before. Without an alias the document has to be in the index that the pattern names. -/
theorem saved_found_iff (built : DocumentType.build env config = .ok t)
    (timed : t.addressing = .timeBased pattern field) (plain : PlainBuckets t pattern)
    (found : r.find name = .ok t) (renames : r.mapper = .renaming) (ordered : m.Ordered) {record result : Json}
    (saved : Memory.run now (r.save now name record).run m = (.ok result, after)) :
    ∃ mapped reply, r.document t record = .ok mapped ∧
      m.indexDocument now (indexRequest t now mapped) = .ok (reply, after) ∧
      r.record t (written t reply (withJoin t mapped)) = .ok result ∧
      after.document? reply.index reply.id = some (withJoin t mapped) ∧
      (∀ later, Memory.run later (r.search name Memory.searchAll).run after =
        (.ok ((after.search (Routing.readTarget t) Memory.searchAll).map (renamedHit t)), after)) ∧
      ((t.aliasName = none → reply.index = Routing.writeTarget t now (some (withJoin t mapped))) →
        (⟨reply.index, reply.id, some 1.0, withJoin t mapped⟩ ∈ after.search (Routing.readTarget t) Memory.searchAll ↔
          Routing.readTarget t = reply.index ∨ Dict.has (Routing.readTarget t) m.indices = false ∧
            ∀ aliasName, t.aliasName = some aliasName →
              ∃ isWrite, m.flag? reply.index aliasName = some isWrite)) := by
  obtain ⟨mapped, reply, mapping, done, given⟩ := save_acknowledged found saved
  have stored : after.document? reply.index reply.id = some (withJoin t mapped) := Memory.indexDocument_stored done
  refine ⟨mapped, reply, mapping, done, given, stored, fun later => run_search found renames _, fun lands => ?_⟩
  rw [Memory.mem_searchAll_stored (Memory.indexDocument_ordered ordered done) stored]
  refine reaches_saved_iff built timed plain ordered done fun unaliased => ?_
  rw [lands unaliased]
  exact wildcard_takes_bucket built timed plain now _

section Orders

/-- Orders, in an index for every day. -/
def ordersConfig (aliasName : Option String) : TypeConfig where
  name := "Order"
  indexName := none
  aliasName
  timePattern := some "orders-%Y.%m.%d"
  timeField := none
  rollover := none
  settings := .none
  relation := none
  fields := []

def orders (aliasName : Option String) : DocumentType where
  name := "Order"
  indexName := "order"
  aliasName
  addressing := .timeBased "orders-%Y.%m.%d" none
  relation := .none
  settings := .none
  fields := []
  roles := []
  rolloverSchedule := none

def orderProgram (aliasName : Option String) : Repository where
  registry := Registry.ofConfigs .empty [ordersConfig aliasName]
  mapper := .renaming
  defaultSchedule := .minutely

theorem plainBuckets_orders {aliasName : Option String}
    (literal : ∀ name, aliasName = some name → '*' ∉ name.toList ∧ ',' ∉ name.toList) :
    PlainBuckets (orders aliasName) "orders-%Y.%m.%d" where
  single := by decide
  aliasName := literal
  writable := by
    intro pieces parsed
    cases parsed
    decide
  tidy := fun _ => ⟨by decide, by decide⟩

theorem order_bucket (aliasName : Option String) (document : Option Json) :
    Routing.writeTarget (orders aliasName) ⟨0, 0⟩ document = "orders-1970.01.01" := by
  have expanded : TimePattern.expand? "orders-%Y.%m.%d" ⟨0, 0⟩ = some "orders-1970.01.01" := by
    decide +kernel
  have timeless : (document.bind (orders aliasName).timeOf).getD ⟨0, 0⟩ = ⟨0, 0⟩ := by
    cases document <;> rfl
  rw [Routing.writeTarget, orders]
  dsimp only
  rw [← orders, timeless, expanded]
  rfl

theorem order_saved {aliasName : Option String}
    (found : (orderProgram aliasName).find "Order" = .ok (orders aliasName)) : ∃ reply after,
    Memory.run ⟨0, 0⟩ ((orderProgram aliasName).save ⟨0, 0⟩ "Order" (.object [])).run Memory.empty =
        ((orderProgram aliasName).record (orders aliasName) (written (orders aliasName) reply (.object [])), after) ∧
      Memory.empty.indexDocument ⟨0, 0⟩ (indexRequest (orders aliasName) ⟨0, 0⟩ (.object [])) = .ok (reply, after) ∧
      reply.index = "orders-1970.01.01" := by
  have goes : Memory.empty.writeTarget (indexRequest (orders aliasName) ⟨0, 0⟩ (.object [])).target =
      .ok "orders-1970.01.01" := by
    rw [indexRequest, order_bucket]
    simp [Memory.writeTarget, Memory.writeIndex?, Memory.holders, Memory.empty, Dict.has]
  obtain ⟨reply, after, done, landed⟩ := Memory.indexDocument_of_target goes ⟨0, 0⟩
  refine ⟨reply, after, ?_, done, landed⟩
  have mapping : (orderProgram aliasName).document (orders aliasName) (.object []) = .ok (.object []) := rfl
  rw [run_save found mapping, done]
  rfl

theorem unaliased_order_found : ∃ result after,
    Memory.run ⟨0, 0⟩ ((orderProgram none).save ⟨0, 0⟩ "Order" (.object [])).run Memory.empty = (.ok result, after) ∧
      ∃ index id document, after.document? index id = some document ∧
        ⟨index, id, some 1.0, document⟩ ∈ after.search (Routing.readTarget (orders none)) Memory.searchAll := by
  have built : DocumentType.build .empty (ordersConfig none) = .ok (orders none) := rfl
  have found : (orderProgram none).find "Order" = .ok (orders none) := rfl
  obtain ⟨first, after, run, granted, landed⟩ := order_saved found
  refine ⟨_, after, run, ?_⟩
  obtain ⟨mapped, reply, mapping, done, -, stored, -, exactly⟩ :=
    saved_found_iff built rfl (plainBuckets_orders nofun) found rfl Memory.ordered_empty run
  cases mapping
  have same : reply = first := congrArg Prod.fst (Except.ok.inj (done.symm.trans granted))
  have bucket : reply.index = Routing.writeTarget (orders none) ⟨0, 0⟩ (some (withJoin (orders none) (.object []))) := by
    rw [order_bucket, same, landed]
  exact ⟨_, _, _, stored, (exactly fun _ => bucket).mpr (.inr ⟨rfl, nofun⟩)⟩

/-- The alias that orders are read through never gets to the indices that they are saved into. -/
theorem aliased_order_not_found :
    ¬∀ (env : Environment) (config : TypeConfig) (t : DocumentType) (pattern : String) (field : Option FieldPath)
      (r : Repository) (name : String) (m after : Memory) (now : Instant) (record result : Json),
      DocumentType.build env config = .ok t → t.addressing = .timeBased pattern field → PlainBuckets t pattern →
      r.find name = .ok t → r.mapper = .renaming → m.Ordered →
      Memory.run now (r.save now name record).run m = (.ok result, after) →
      ∃ index id document, after.document? index id = some document ∧
        ⟨index, id, some 1.0, document⟩ ∈ after.search (Routing.readTarget t) Memory.searchAll := by
  intro finds
  have built : DocumentType.build .empty (ordersConfig (some "orders")) = .ok (orders (some "orders")) := rfl
  have found : (orderProgram (some "orders")).find "Order" = .ok (orders (some "orders")) := rfl
  have plain : PlainBuckets (orders (some "orders")) "orders-%Y.%m.%d" := by
    apply plainBuckets_orders
    intro name given
    cases given
    exact ⟨by decide, by decide⟩
  obtain ⟨reply, after, run, done, landed⟩ := order_saved found
  obtain ⟨index, id, document, stored, hit⟩ :=
    finds _ _ _ _ _ _ _ _ _ _ _ _ built rfl plain found rfl Memory.ordered_empty run
  have reached := (Memory.mem_searchAll_stored (Memory.indexDocument_ordered Memory.ordered_empty done) stored).mp hit
  -- The engine has no other document than the one that was just saved.
  have only : index = reply.index := by
    by_contra other
    rw [Memory.indexDocument_document? done, if_neg fun same => other same.1.symm] at stored
    cases stored
  rw [only] at reached
  rcases (reaches_saved_iff built rfl plain Memory.ordered_empty done nofun).mp reached with named | ⟨-, held⟩
  · rw [landed] at named
    exact absurd named (by decide)
  · obtain ⟨isWrite, flagged⟩ := held "orders" rfl
    cases flagged

end Orders

end Repository

/-! ## Names that are written -/

namespace Routing

variable {env : Environment} {config : TypeConfig} {t : DocumentType} {pattern : String} {field : Option FieldPath}

/-- A write goes to the name that the pattern gives for its instant, and the wildcard takes that name
in, unless the pattern asks for the offset that has no written form. Then no instant has a name, and
every write goes to the index name of the type. -/
theorem written_by_pattern_iff (built : DocumentType.build env config = .ok t)
    (timed : t.addressing = .timeBased pattern field) :
    ∃ pieces, TimePattern.parse? pattern = some pieces ∧
      ∀ (now : Instant) (document : Option Json),
        ((∃ name, TimePattern.expand? pattern ((document.bind t.timeOf).getD now) = some name ∧
            writeTarget t now document = name ∧
            Text.matchesWildcard (TimePattern.wildcard pattern).toList name.toList = true) ↔
          .wording .offsetAnyForm ∉ pieces) ∧
        (.wording .offsetAnyForm ∈ pieces → writeTarget t now document = t.indexName) := by
  obtain ⟨pieces, parsed⟩ := DocumentType.build_pattern built timed
  refine ⟨pieces, parsed, fun now document => ?_⟩
  have goes : writeTarget t now document =
      (TimePattern.expand? pattern ((document.bind t.timeOf).getD now)).getD t.indexName := by
    rw [writeTarget, timed]
  rw [goes, ← TimePattern.expand_isSome_iff parsed ((document.bind t.timeOf).getD now)]
  refine ⟨⟨?_, ?_⟩, fun unwritable => ?_⟩
  · rintro ⟨name, expanded, -⟩
    exact ⟨name, expanded⟩
  · rintro ⟨name, expanded⟩
    exact ⟨name, expanded, by rw [expanded, Option.getD_some], TimePattern.wildcard_matches expanded⟩
  · cases expanded : TimePattern.expand? pattern ((document.bind t.timeOf).getD now) with
    | none => rfl
    | some name =>
        exact absurd unwritable ((TimePattern.expand_isSome_iff parsed _).mp ⟨name, expanded⟩)

theorem order_written_by_pattern :
    ∃ name, TimePattern.expand? "orders-%Y.%m.%d" ⟨0, 0⟩ = some name ∧
      writeTarget (Repository.orders none) ⟨0, 0⟩ none = name ∧
      Text.matchesWildcard (TimePattern.wildcard "orders-%Y.%m.%d").toList name.toList = true := by
  have built : DocumentType.build .empty (Repository.ordersConfig none) = .ok (Repository.orders none) := rfl
  obtain ⟨pieces, parsed, written⟩ := written_by_pattern_iff built rfl
  cases parsed
  exact (written ⟨0, 0⟩ none).1.mpr (by decide)

/-- An audit trail, in indices that its pattern cannot name. -/
def auditConfig : TypeConfig where
  name := "Audit"
  indexName := some "audit"
  aliasName := none
  timePattern := some "logs-%#z"
  timeField := none
  rollover := none
  settings := .none
  relation := none
  fields := []

def audit : DocumentType where
  name := "Audit"
  indexName := "audit"
  aliasName := none
  addressing := .timeBased "logs-%#z" none
  relation := .none
  settings := .none
  fields := []
  roles := []
  rolloverSchedule := none

theorem audit_not_written_by_pattern :
    ¬∀ (env : Environment) (config : TypeConfig) (t : DocumentType) (pattern : String) (field : Option FieldPath)
      (now : Instant) (document : Option Json),
      DocumentType.build env config = .ok t → t.addressing = .timeBased pattern field →
      ∃ name, TimePattern.expand? pattern ((document.bind t.timeOf).getD now) = some name ∧
        writeTarget t now document = name ∧
        Text.matchesWildcard (TimePattern.wildcard pattern).toList name.toList = true := by
  intro written
  have built : DocumentType.build .empty auditConfig = .ok audit := rfl
  obtain ⟨name, expanded, -⟩ := written _ _ _ _ _ ⟨0, 0⟩ none built rfl
  cases expanded

end Routing

end DocMapper
