import DocMapper.Proofs.UnlimitedSearches
/-!
Which index takes the writes of an alias, asked at a cluster and in memory. A cluster lists the
indices that have the alias, and the flag of each is looked for with a pointer that the name of
the alias is a part of. Pointers have characters of their own, so an alias with a slash, `~0` or
`~1` in its name is looked for under another key. The flags of such an alias are never found, and
that shows as soon as two indices have it and one of them has the flag.
-/

namespace DocMapper

namespace Json

/-- A pointer reads the characters of a name as they are. -/
def Unmarked (name : List Char) : Prop :=
  Text.occurs ['~', '0'] name = false ∧ Text.occurs ['~', '1'] name = false

instance (name : List Char) : Decidable (Unmarked name) :=
  inferInstanceAs (Decidable (_ ∧ _))

theorem length_pointerKey_le (step : List Char) : (pointerKey step).length ≤ step.length := by
  fun_induction pointerKey step <;> simp <;> omega

theorem pointerKey_eq_self_iff (step : List Char) : pointerKey step = step ↔ Unmarked step := by
  fun_induction pointerKey step with
  | case1 rest _ => simp [Unmarked, Text.occurs, Text.startsWith, Text.after?]
  | case2 rest _ =>
      -- The key is shorter by the mark.
      have shorter : pointerKey rest ≠ '0' :: rest := by
        intro same
        have length := length_pointerKey_le rest
        rw [same, List.length_cons] at length
        omega
      simp [shorter, Unmarked, Text.occurs, Text.startsWith, Text.after?]
  | case3 c rest noSlash noTilde ih =>
      have begins (mark : Char) (member : mark = '0' ∨ mark = '1') :
          Text.startsWith (c :: rest) ['~', mark] = false := by
        by_contra starts
        obtain ⟨tail, cut⟩ := Option.isSome_iff_exists.mp (Bool.not_eq_false _ ▸ starts)
        obtain ⟨rfl, rfl⟩ := List.cons.inj (Text.after?_eq_some_iff.mp cut)
        rcases member with rfl | rfl
        · exact noTilde tail rfl rfl
        · exact noSlash tail rfl rfl
      simp [Unmarked, Text.occurs, begins, ih]
  | case4 => decide

/-- The first key of a pointer step by step is the name as it is written, or another one. -/
theorem pointerKey_first {name first : List Char} {others : List (List Char)}
    (cut : Text.pieces '/' name = first :: others) :
    pointerKey first = name ↔ '/' ∉ name ∧ Unmarked name := by
  have joined := Text.joined_pieces '/' name
  rw [cut] at joined
  cases others with
  | nil =>
      obtain rfl : first = name := joined
      have slashless := (Text.mem_pieces (cut ▸ List.mem_cons_self)).2
      rw [pointerKey_eq_self_iff]
      simp [slashless]
  | cons second more =>
      have slashed : '/' ∈ name := by
        rw [← joined, Text.joined]
        simp
      have shorter : pointerKey first ≠ name := by
        intro same
        have length := length_pointerKey_le first
        rw [same, ← joined, Text.joined, List.length_append, List.length_cons] at length
        omega
      simp [slashed, shorter]

end Json

namespace Cluster

variable {σ : Type} {c : ClusterConfig} {url base : Url} {s s' : σ} {aliasName : String} {m : Memory}
  {holders : List (String × Bool)} {answer : Http.Request → σ → Option Http.Response × σ}

/-- What a lookup tells of an index with an alias. -/
def holderJson (aliasName : String) (isWrite : Bool) : Json :=
  .object [("aliases", .object [(aliasName, .object [("is_write_index", .bool isWrite)])])]

def holdersJson (aliasName : String) (holders : List (String × Bool)) : Json :=
  .object (holders.map fun holder => (holder.1, holderJson aliasName holder.2))

/-- A name without characters that pointers have for their own. -/
def PlainAlias (aliasName : String) : Prop :=
  '/' ∉ aliasName.toList ∧ Json.Unmarked aliasName.toList

instance (aliasName : String) : Decidable (PlainAlias aliasName) :=
  inferInstanceAs (Decidable (_ ∧ _))

/-- The response to a lookup of an alias that some indices have. -/
structure ShowsHolders (response : Http.Response) (aliasName : String) (holders : List (String × Bool)) : Prop where
  unheld : holders = [] → response.status = .notFound
  held : holders ≠ [] → response.status.isSuccess = true ∧
    Json.parse? response.body = some (holdersJson aliasName holders)

theorem flag_steps (aliasName : String) :
    Text.pieces '/' s!"aliases/{aliasName}/is_write_index".toList =
      "aliases".toList :: Text.pieces '/' aliasName.toList ++ ["is_write_index".toList] := by
  have text : s!"aliases/{aliasName}/is_write_index".toList =
      "aliases".toList ++ '/' :: (aliasName.toList ++ '/' :: "is_write_index".toList) := by
    rw [String.toList_append, String.toList_append, List.append_assoc]
    rfl
  have front : '/' ∉ "aliases".toList := by decide
  have back : '/' ∉ "is_write_index".toList := by decide
  rw [text, Text.pieces_append, Text.pieces_append, Text.pieces_of_not_mem front, Text.pieces_of_not_mem back]
  rfl

theorem flag_pointer (aliasName : String) (isWrite : Bool) :
    (holderJson aliasName isWrite).pointer? s!"aliases/{aliasName}/is_write_index" =
      if PlainAlias aliasName then some (.bool isWrite) else none := by
  cases cut : Text.pieces '/' aliasName.toList with
  | nil => exact absurd cut (Text.pieces_ne_nil _ _)
  | cons first others =>
      have key : aliasName = String.ofList (Json.pointerKey first) ↔ PlainAlias aliasName := by
        rw [PlainAlias, ← Json.pointerKey_first cut, ← String.toList_inj, String.toList_ofList, eq_comm]
      have first_key : Json.pointerKey "aliases".toList = "aliases".toList := by decide
      have last_key : Json.pointerKey "is_write_index".toList = "is_write_index".toList := by decide
      rw [Json.pointer?, flag_steps, cut]
      simp only [List.cons_append, List.map_cons, List.map_append, List.map_nil, first_key, last_key,
        String.ofList_toList, holderJson, Json.descend?, Dict.find?, Option.bind_some, ↓reduceIte]
      by_cases plain : PlainAlias aliasName
      · have single : others = [] := by
          rw [Text.pieces_of_not_mem plain.1] at cut
          exact (List.cons.inj cut).2.symm
        simp [← key.mpr plain, plain, single, Json.descend?, Dict.find?]
      · simp [mt key.mp plain, plain]

/-- The index that the flags of some holders point to, as far as they are looked at. -/
def writerAmong (seen : Bool) (holders : List (String × Bool)) : Option String :=
  match holders.find? (fun holder => seen && holder.2), holders with
  | some (name, _), _ => some name
  | none, [(name, _)] => some name
  | none, _ => none

theorem writerOf_holdersJson (aliasName : String) (holders : List (String × Bool)) :
    writerOf aliasName (holdersJson aliasName holders) = writerAmong (decide (PlainAlias aliasName)) holders := by
  have flags (holder : String × Bool) :
      (((holderJson aliasName holder.2).pointer? s!"aliases/{aliasName}/is_write_index").bind Json.bool?).getD false =
        (decide (PlainAlias aliasName) && holder.2) := by
    rw [flag_pointer]
    by_cases plain : PlainAlias aliasName <;> simp [plain, Json.bool?]
  simp only [writerOf, holdersJson, Json.members?, List.find?_map, Function.comp_def, flags, writerAmong]
  cases holders.find? fun holder => decide (PlainAlias aliasName) && holder.2 with
  | some holder => rfl
  | none =>
      cases holders with
      | nil => rfl
      | cons first others => cases others <;> rfl

theorem writeIndex?_eq_writerAmong (m : Memory) (aliasName : String) :
    m.writeIndex? aliasName = writerAmong true (m.holders aliasName) := by
  simp only [Memory.writeIndex?, writerAmong, Bool.true_and]
  cases (m.holders aliasName).find? Prod.snd with
  | some holder => rfl
  | none =>
      cases m.holders aliasName with
      | nil => rfl
      | cons first others => cases others <;> rfl

/-- Without their flags some holders point to the same index just if none has the flag or there is one. -/
theorem writerAmong_eq_iff (holders : List (String × Bool)) :
    writerAmong false holders = writerAmong true holders ↔
      (∀ holder ∈ holders, holder.2 = false) ∨ holders.length = 1 := by
  have blind : (holders.find? fun _ => false) = none := by simp
  simp only [writerAmong, Bool.false_and, Bool.true_and, blind]
  cases search : holders.find? fun holder => holder.2 with
  | none =>
      have unflagged : ∀ holder ∈ holders, holder.2 = false := by simpa using search
      exact iff_of_true rfl (.inl unflagged)
  | some holder =>
      have flagged : holder.2 = true := by simpa using List.find?_some search
      have listed := List.mem_of_find?_eq_some search
      -- Blind to flags, a look-up still takes the only holder for the writer, and none among several.
      match holders with
      | [] => cases listed
      | [(name, isWrite)] =>
          obtain rfl := List.mem_singleton.mp listed
          exact iff_of_true rfl (.inr rfl)
      | first :: second :: others =>
          refine iff_of_false (fun same => nomatch same) ?_
          rintro (unflagged | single)
          · rw [unflagged holder listed] at flagged
            cases flagged
          · simp at single

theorem conduct_writeIndex (found : address c "" = .ok base) (sendable : isSendable (request c .get base none) = true)
    (shown : ∀ url, address c s!"_alias/{aliasName}" = .ok url → ∃ response,
      answer (request c .get url none) s = (some response, s') ∧ ShowsHolders response aliasName holders) :
    (writeIndex c aliasName).run.conduct answer s =
      (.ok (writerAmong (decide (PlainAlias aliasName)) holders), s') := by
  obtain ⟨url, parsed, sends⟩ := address_below found sendable s!"_alias/{aliasName}"
  obtain ⟨response, answered, shows⟩ := shown url parsed
  rw [writeIndex, parsed, lift_bind]
  refine (conduct_tell (sends _ _) answered).trans ?_
  by_cases unheld : holders = []
  · rw [if_pos (shows.unheld unheld), unheld]
    rfl
  · obtain ⟨success, text⟩ := shows.held unheld
    have decoded : read .aliasHolders (fun value => some (writerOf aliasName value)) response =
        .ok (writerAmong (decide (PlainAlias aliasName)) holders) :=
      read_parsed text (congrArg some (writerOf_holdersJson aliasName holders))
    rw [if_neg (ne_notFound success), expectSuccess, if_pos success, lift_bind, decoded]
    rfl

/-- The index that takes the writes of an alias is the same at a cluster and in memory, if the name
of the alias is plain; of another alias the cluster misses the flags, and it is the same just if
they make no difference: if no index has the flag or only one has the alias. -/
theorem alias_lookups_agree_iff (found : address c "" = .ok base)
    (sendable : isSendable (request c .get base none) = true)
    (shown : ∀ url, address c s!"_alias/{aliasName}" = .ok url → ∃ response,
      answer (request c .get url none) s = (some response, s') ∧
        ShowsHolders response aliasName (m.holders aliasName))
    (now : Instant) :
    (perform c now (.writeIndex aliasName)).conduct answer s =
        (.ok (writerAmong (decide (PlainAlias aliasName)) (m.holders aliasName)), s') ∧
      (((perform c now (.writeIndex aliasName)).conduct answer s).1 = (Memory.answer now (.writeIndex aliasName) m).1 ↔
        PlainAlias aliasName ∨ (∀ holder ∈ m.holders aliasName, holder.2 = false) ∨
          (m.holders aliasName).length = 1) := by
  have conducted := conduct_writeIndex found sendable shown
  have here : (Memory.answer now (.writeIndex aliasName) m).1 = .ok (writerAmong true (m.holders aliasName)) :=
    congrArg Except.ok (writeIndex?_eq_writerAmong m aliasName)
  rw [perform, conducted, here]
  refine ⟨rfl, ?_⟩
  by_cases plain : PlainAlias aliasName
  · simp [plain]
  · simpa [plain] using writerAmong_eq_iff (m.holders aliasName)

section Generations

/-- Two indices with an alias, of which the second takes its writes. -/
def twoGenerations (aliasName : String) : Memory where
  indices :=
    [("logs-000001", ⟨⟨0, 0⟩, .null, [(aliasName, false)], []⟩),
      ("logs-000002", ⟨⟨0, 0⟩, .null, [(aliasName, true)], []⟩)]
  minted := 0

/-- A server that shows the holders of an alias whatever is asked. -/
def generationsServer (aliasName : String) (_ : Http.Request) (s : Unit) : Option Http.Response × Unit :=
  (some ⟨⟨200⟩, (holdersJson aliasName ((twoGenerations aliasName).holders aliasName)).render⟩, s)

theorem generationsServer_shows (aliasName : String)
    (read : Json.parse? (holdersJson aliasName ((twoGenerations aliasName).holders aliasName)).render =
      some (holdersJson aliasName ((twoGenerations aliasName).holders aliasName)))
    (held : (twoGenerations aliasName).holders aliasName ≠ []) (r : Http.Request) :
    ∃ response, generationsServer aliasName r () = (some response, ()) ∧
      ShowsHolders response aliasName ((twoGenerations aliasName).holders aliasName) :=
  ⟨_, rfl, fun unheld => absurd unheld held, fun _ => ⟨rfl, read⟩⟩

theorem plain_alias_lookups_agree :
    ((perform ClusterConfig.default ⟨0, 0⟩ (.writeIndex "logs-write")).conduct (generationsServer "logs-write") ()).1 =
      (Memory.answer ⟨0, 0⟩ (.writeIndex "logs-write") (twoGenerations "logs-write")).1 := by
  have found : address ClusterConfig.default "" = .ok localBase := by rfl
  have shows := generationsServer_shows "logs-write" (by decide +kernel) (by decide)
  exact (alias_lookups_agree_iff found rfl (fun _ _ => shows _) ⟨0, 0⟩).2.mpr (.inl (by decide))

/-- The flag of an alias with a `~0` in its name is missed. -/
theorem tilde_alias_lookups_differ :
    ¬∀ (σ : Type) (answer : Http.Request → σ → Option Http.Response × σ) (c : ClusterConfig) (base : Url)
      (aliasName : String) (m : Memory) (s s' : σ) (now : Instant), address c "" = .ok base →
      isSendable (request c .get base none) = true →
      (∀ url, address c s!"_alias/{aliasName}" = .ok url → ∃ response,
        answer (request c .get url none) s = (some response, s') ∧
          ShowsHolders response aliasName (m.holders aliasName)) →
      ((perform c now (.writeIndex aliasName)).conduct answer s).1 =
        (Memory.answer now (.writeIndex aliasName) m).1 := by
  intro same
  have found : address ClusterConfig.default "" = .ok localBase := by rfl
  have shows := generationsServer_shows "logs~0write" (by decide +kernel) (by decide)
  have agreed := same Unit _ _ _ _ (twoGenerations "logs~0write") () () ⟨0, 0⟩ found rfl fun _ _ => shows _
  rw [perform, conduct_writeIndex found rfl fun _ _ => shows _] at agreed
  exact absurd (Except.ok.inj agreed) (by decide)

end Generations

end Cluster

end DocMapper
