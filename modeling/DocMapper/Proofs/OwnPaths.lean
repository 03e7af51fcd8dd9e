import DocMapper.Proofs.FieldPaths
import DocMapper.Proofs.PropertyReadings
/-!
Whether a field is what its own path means. A path is the engine names from the top down, joined by
points, and it is looked up like any other text: names match loosely, the first sibling wins and the
longest front is tried first. So a field is shadowed where a sibling before it, or before a field
above it, goes by the same name but for case and low lines; building refuses equal engine names only.
-/

namespace DocMapper

namespace Text

/-! ## Points in normalized names -/

theorem ofNat_ne_point {n : Nat} (above : 46 < n) : Char.ofNat n ≠ '.' := by
  intro same
  by_cases valid : n.isValidChar
  · have own : Char.ofNat n = Char.ofNatAux n valid := dif_pos valid
    have code : n = 46 := congrArg Char.toNat (own.symm.trans same)
    omega
  · have zero : Char.ofNat n = Char.ofNat 0 := dif_neg valid
    exact absurd (zero.symm.trans same) (by decide)

theorem toLower_eq_point {c : Char} (ascii : c.toNat < 128) (same : c.toLower = '.') : c = '.' := by
  have table : ∀ n < 128, (Char.ofNat n).toLower = '.' → n = 46 := by decide
  have code := table c.toNat ascii (by rwa [Char.ofNat_toNat])
  rw [← Char.ofNat_toNat c, code]

theorem shifted_lower_ne_point {c d : Char} (shifted : shifted? lowerRuns c = some d) : d ≠ '.' := by
  have above : ∀ r ∈ lowerRuns, (46 : Int) < r.chars.first + r.shift := by decide +kernel
  obtain ⟨r, found, rfl⟩ := Option.map_eq_some_iff.mp shifted
  have listed := above r (List.mem_of_find?_eq_some found)
  have has : r.chars.has c.toNat = true := by simpa using List.find?_some found
  have within : r.chars.first ≤ c.toNat := by
    simp only [CharRun.has, Bool.and_eq_true, decide_eq_true_eq] at has
    exact has.1.1
  exact ofNat_ne_point (by omega)

theorem point_mem_lowerChar {c : Char} : '.' ∈ lowerChar c ↔ c = '.' := by
  constructor
  case mpr =>
    rintro rfl
    decide
  intro member
  rw [lowerChar] at member
  split_ifs at member with ascii dotted
  · exact toLower_eq_point ascii (List.mem_singleton.mp member).symm
  · exact absurd member (by decide)
  · have same := List.mem_singleton.mp member
    cases shifted : shifted? lowerRuns c with
    | none => rw [shifted] at same; exact same.symm
    | some d =>
        rw [shifted] at same
        exact absurd same.symm (shifted_lower_ne_point shifted)

end Text

namespace DocumentType

theorem point_mem_normalizeChars {text : List Char} : '.' ∈ normalizeChars text ↔ '.' ∈ text := by
  simp only [normalizeChars, List.mem_flatMap, List.mem_filter, Text.point_mem_lowerChar]
  constructor
  · rintro ⟨c, ⟨member, -⟩, rfl⟩
    exact member
  · exact fun member => ⟨'.', ⟨member, by decide⟩, rfl⟩

/-- Neither name of a field has a point. -/
def PointFree (f : Field) : Prop :=
  '.' ∉ f.name.toList ∧ '.' ∉ f.engineName.toList

instance : DecidablePred PointFree :=
  fun f => inferInstanceAs (Decidable ('.' ∉ f.name.toList ∧ '.' ∉ f.engineName.toList))

variable {fields : List Field} {f parent : Field} {text head tail front rest : List Char}

theorem PointFree.of_spells (free : PointFree f) (spelled : Spells text f) : '.' ∉ text := by
  rw [← point_mem_normalizeChars]
  rcases spelled with same | same
  · rw [same, point_mem_normalizeChars]
    exact free.1
  · rw [same, point_mem_normalizeChars]
    exact free.2

/-! ## Shadows -/

/-- Of the siblings in question a field is the first that its engine name spells. -/
def FirstOf (asked : Field → Prop) (fields : List Field) (f : Field) : Prop :=
  asked f ∧ ∃ earlier later, fields = earlier ++ f :: later ∧
    ∀ g ∈ earlier, asked g → ¬Spells f.engineName.toList g

/-- No other field takes a path of engine names away from a field. Its name is not empty and spells
no sibling before it. Above it, a name is not empty and spells no sibling with properties before its
field, and no sibling is spelled by the name with some of the path behind it. -/
inductive Unshadowed : List Field → List Char → Field → Prop where
  | own {fields : List Field} {f : Field} (named : f.engineName ≠ "") (first : FirstOf (fun _ => True) fields f) :
      Unshadowed fields f.engineName.toList f
  | under {fields : List Field} {parent f : Field} {rest : List Char} (named : parent.engineName ≠ "")
      (first : FirstOf (fun g => g.properties ≠ []) fields parent)
      (clear : ∀ front, front <+: rest → ∀ g ∈ fields, ¬Spells (parent.engineName.toList ++ '.' :: front) g)
      (later : Unshadowed parent.properties rest f) :
      Unshadowed fields (parent.engineName.toList ++ '.' :: rest) f

theorem find?_eq_some_iff_firstOf {asked : Field → Prop} {answers : Field → Bool}
    (same : ∀ g, answers g = true ↔ asked g ∧ Spells f.engineName.toList g) :
    fields.find? answers = some f ↔ FirstOf asked fields f := by
  rw [List.find?_eq_some_iff_append, same, FirstOf]
  have own : Spells f.engineName.toList f := .inr rfl
  simp only [own, and_true, Bool.not_eq_eq_eq_not, Bool.not_true, ← Bool.not_eq_true, same, not_and]

theorem find?_iff_firstOf :
    (fields.find? fun g => answersTo g (normalizeChars f.engineName.toList)) = some f ↔
      FirstOf (fun _ => True) fields f :=
  find?_eq_some_iff_firstOf fun g => by rw [answersTo_iff, true_and]

theorem findParent?_iff_firstOf :
    (fields.find? fun g => !g.properties.isEmpty && answersTo g (normalizeChars f.engineName.toList)) = some f ↔
      FirstOf (fun g => g.properties ≠ []) fields f :=
  find?_eq_some_iff_firstOf fun g => by rw [Bool.and_eq_true, answersTo_iff]; simp

/-! ## Found where nothing shadows -/

theorem cutsAfter_append (before front back : List Char) :
    cutsAfter before (front ++ back) =
      (cutsAfter before front).map (fun cut => (cut.1, cut.2 ++ back)) ++ cutsAfter (before ++ front) back := by
  induction front generalizing before with
  | nil => simp [cutsAfter]
  | cons c rest ih =>
      simp only [List.cons_append, cutsAfter, ih, List.map_append, List.append_assoc, List.nil_append]
      congr 1
      split_ifs <;> rfl

theorem cuts_path (filled : front ≠ []) (rest : List Char) :
    ∃ within, cuts (front ++ '.' :: rest) = within ++ (front, rest) :: cutsAfter (front ++ ['.']) rest := by
  have nonempty : front.isEmpty = false := by simpa using filled
  refine ⟨(cuts front).map fun cut => (cut.1, cut.2 ++ '.' :: rest), ?_⟩
  rw [cuts, cutsAfter_append, List.nil_append, cutsAfter, nonempty]
  rfl

theorem front_of_mem_cutsAfter (member : (head, tail) ∈ cutsAfter (front ++ ['.']) rest) :
    ∃ further, head = front ++ '.' :: further ∧ further <+: rest := by
  obtain ⟨cut, further, rfl⟩ := cut_of_mem_cutsAfter member
  obtain ⟨c, more, split, -⟩ := cut.joint
  refine ⟨further, by simp, c :: more, ?_⟩
  simpa using split.symm

/-- A text is resolved below the front of a cut if neither all of it nor a longer front spells a field. -/
theorem resolveAmong_of_cut {depth : Nat} {within later : List (List Char × List Char)} (filled : text ≠ [])
    (nobody : ∀ g ∈ fields, ¬Spells text g) (cut : cuts text = within ++ (head, tail) :: later)
    (silent : ∀ longer ∈ later, ∀ g ∈ fields, ¬Spells longer.1 g)
    (found : (fields.find? fun g => !g.properties.isEmpty && answersTo g (normalizeChars head)) = some parent)
    (below : resolveAmong depth parent.properties tail = some f) : resolveAmong (depth + 1) fields text = some f := by
  have nonempty : text.isEmpty = false := by simpa using filled
  have whole : (fields.find? fun g => answersTo g (normalizeChars text)) = none :=
    List.find?_eq_none.mpr fun g listed answers => nobody g listed (answersTo_iff.mp answers)
  rw [resolveAmong, nonempty, whole]
  refine List.findSome?_eq_some_iff.mpr ⟨later.reverse, (head, tail), within.reverse, by simp [cut], ?_, ?_⟩
  · simpa only [found] using below
  · intro longer member
    split
    · next above answers =>
        obtain ⟨listed, spelled⟩ := spelled_of_findParent? answers
        exact absurd spelled (silent longer (List.mem_reverse.mp member) above listed)
    · rfl

theorem Unshadowed.resolveAmong (unshadowed : Unshadowed fields text f) {depth : Nat} (deep : text.length < depth) :
    resolveAmong depth fields text = some f := by
  induction unshadowed generalizing depth with
  | @own fields f named first =>
      obtain ⟨depth, rfl⟩ := Nat.exists_eq_add_of_lt deep
      have filled : f.engineName.toList.isEmpty = false := by simpa using named
      rw [DocumentType.resolveAmong, filled, find?_iff_firstOf.mpr first]
      rfl
  | @under fields parent f rest named first clear later ih =>
      obtain ⟨depth, rfl⟩ := Nat.exists_eq_add_of_lt deep
      have filled : parent.engineName.toList ≠ [] := by simpa using named
      obtain ⟨within, cut⟩ := cuts_path filled rest
      refine resolveAmong_of_cut (by simp) (clear rest List.prefix_rfl) cut (fun longer member => ?_)
        (findParent?_iff_firstOf.mpr first) (ih (by simp; omega))
      obtain ⟨front, same, begins⟩ := front_of_mem_cutsAfter member
      exact same ▸ clear front begins

/-! ## Shadowed where it is not found -/

theorem InPieces.count_point_lt {pieces : List (List Char)} (inPieces : InPieces text pieces)
    (free : ∀ piece ∈ pieces, '.' ∉ piece) : text.count '.' < pieces.length := by
  induction inPieces with
  | whole filled =>
      rw [List.count_eq_zero.mpr (free _ List.mem_cons_self)]
      exact Nat.one_pos
  | @mark piece rest pieces c filled mark later ih =>
      have none := List.count_eq_zero.mpr (free piece List.mem_cons_self)
      have fewer := ih fun other member => free other (List.mem_cons_of_mem _ member)
      have one : (c :: rest).count '.' ≤ rest.count '.' + 1 := by
        rw [List.count_cons]
        split <;> omega
      rw [List.count_append, none, List.length_cons]
      omega
  | @capital piece rest pieces c filled capital later ih =>
      have none := List.count_eq_zero.mpr (free piece List.mem_cons_self)
      have fewer := ih fun other member => free other (List.mem_cons_of_mem _ member)
      rw [List.count_append, none, List.length_cons]
      omega

theorem Descends.mem_inTree {chain : List Field} (descends : Descends fields chain) :
    ∀ g ∈ chain, g ∈ Field.inTree fields := by
  induction descends with
  | last listed => simpa using Field.mem_inTree listed
  | next listed later ih =>
      rw [List.forall_mem_cons]
      exact ⟨Field.mem_inTree listed, fun g member => Field.mem_inTree_below listed (ih g member)⟩

/-- As many fields stand in a chain as its end has segments below the level the chain starts at. -/
theorem Addressed.length_chain {stem : List String} {chain : List Field} (addressed : Addressed stem fields)
    (descends : Descends fields chain) (ends : chain.getLast? = some f) :
    f.path.segments.length = stem.length + chain.length := by
  induction descends generalizing stem with
  | @last fields g listed =>
      obtain ⟨paths, -⟩ := addressed
      have same : g = f := by simpa using ends
      rw [← same, paths g listed]
      simp
  | @next fields chain parent listed later ih =>
      obtain ⟨paths, properties⟩ := addressed
      have further : chain.getLast? = some f := by
        cases chain with
        | nil => cases later
        | cons second more => rwa [List.getLast?_cons_cons] at ends
      rw [ih (properties parent listed) further, paths parent listed, List.length_append, List.length_singleton,
        List.length_cons, Nat.add_assoc, Nat.add_comm 1]

theorem ReadAs.count_point_lt {chain : List Field} {pieces : List (List Char)}
    (reading : ReadAs fields text f chain pieces) (free : ∀ g ∈ Field.inTree fields, PointFree g) :
    text.count '.' < chain.length := by
  rw [← reading.spelled.length_eq]
  refine reading.inPieces.count_point_lt fun piece member => ?_
  obtain ⟨n, small, rfl⟩ := List.getElem_of_mem member
  have small' : n < chain.length := reading.spelled.length_eq ▸ small
  have spelled := reading.spelled.get small small'
  exact (free _ (reading.descends.mem_inTree _ (List.getElem_mem small'))).of_spells spelled

/-- A text has fewer points than there are segments from its level down to what it is resolved to. -/
theorem Addressed.count_point_lt {depth : Nat} {stem names : List String} (addressed : Addressed stem fields)
    (free : ∀ g ∈ Field.inTree fields, PointFree g) (segments : f.path.segments = stem ++ names)
    (found : resolveAmong depth fields text = some f) : text.count '.' < names.length := by
  obtain ⟨chain, pieces, reading⟩ := readAs_of_resolveAmong found
  have fewer := reading.count_point_lt free
  have long := addressed.length_chain reading.descends reading.ends
  rw [segments, List.length_append] at long
  omega

theorem count_point_joined {names : List String} (filled : names ≠ []) (plain : ∀ name ∈ names, '.' ∉ name.toList) :
    (Text.joined '.' (names.map String.toList)).count '.' + 1 = names.length := by
  induction names with
  | nil => exact absurd rfl filled
  | cons first rest ih =>
      rw [List.forall_mem_cons] at plain
      have none := List.count_eq_zero.mpr plain.1
      cases rest with
      | nil => simp [Text.joined, none]
      | cons second more =>
          have later := ih (by simp) plain.2
          simp only [List.map_cons] at later ⊢
          rw [Text.joined, List.count_append, none, List.count_cons_self, List.length_cons, ← later]
          omega

/-- Cut behind a front without points, a path is cut at its first point or within its first name. -/
theorem Cut.at_point {name more : List Char} (cut : Cut (name ++ '.' :: more) head tail) (free : '.' ∉ head) :
    head = name ∧ tail = more ∨ more.count '.' < tail.count '.' := by
  obtain ⟨c, rest, whole, joint⟩ := cut.joint
  -- In front of the first point, or there: the front would hold the point if it went further.
  have before : ∃ further, name = head ++ further ∧ c :: rest = further ++ '.' :: more := by
    rcases List.append_eq_append_iff.mp whole with ⟨further, same, behind⟩ | within
    · cases further with
      | nil => exact ⟨[], by simp [same], by simpa using behind.symm⟩
      | cons d further =>
          obtain ⟨rfl, -⟩ := List.cons.inj behind
          simp [same] at free
    · exact within
  obtain ⟨further, same, behind⟩ := before
  cases further with
  | nil =>
      obtain ⟨rfl, rfl⟩ := List.cons.inj behind
      left
      rcases joint with ⟨-, kept⟩ | ⟨capital, -⟩
      · exact ⟨by simp [same], kept⟩
      · exact absurd capital (by decide)
  | cons d further =>
      obtain ⟨rfl, rfl⟩ := List.cons.inj behind
      right
      have more_lt : more.count '.' < (further ++ '.' :: more).count '.' := by
        rw [List.count_append, List.count_cons_self]
        omega
      rcases joint with ⟨-, rfl⟩ | ⟨-, rfl⟩
      · exact more_lt
      · exact more_lt.trans_le (List.sublist_cons_self c _ |>.count_le '.')

theorem unshadowed_of_resolveAmong {depth : Nat} {stem names : List String} (addressed : Addressed stem fields)
    (free : ∀ g ∈ Field.inTree fields, PointFree g) (segments : f.path.segments = stem ++ names)
    (found : resolveAmong depth fields (Text.joined '.' (names.map String.toList)) = some f) :
    Unshadowed fields (Text.joined '.' (names.map String.toList)) f := by
  -- On the depth. A front without points that leads to the field is the first name: were it cut within
  -- that name, the rest would have as many points as there are segments below.
  induction depth generalizing fields stem names with
  | zero => cases found
  | succ depth ih =>
      obtain ⟨paths, properties⟩ := addressed
      obtain ⟨filled, whole | ⟨-, head, tail, parent, member, answers, below⟩⟩ := resolveAmong_eq_some found
      · obtain ⟨listed, -⟩ := spelled_of_find? whole
        have own : names = [f.engineName] := List.append_cancel_left (segments.symm.trans (paths f listed))
        subst own
        have named : f.engineName ≠ "" := by simpa [Text.joined] using filled
        exact .own named (find?_iff_firstOf.mp whole)
      · obtain ⟨listed, spelled⟩ := spelled_of_findParent? answers
        have inner := properties parent listed
        have freeBelow : ∀ g ∈ Field.inTree parent.properties, PointFree g :=
          fun g there => free g (Field.mem_inTree_below listed there)
        obtain ⟨next, -, more, further⟩ := inner.prefix (resolveAmong_mem below)
        have behind : f.path.segments = parent.path.segments ++ next.engineName :: more := by
          rw [← further, List.append_assoc, List.singleton_append]
        have own : names = parent.engineName :: next.engineName :: more := by
          refine List.append_cancel_left (segments.symm.trans ?_)
          rw [behind, paths parent listed, List.append_assoc, List.singleton_append]
        subst own
        have cut := cut_of_mem_cuts member
        rcases cut.at_point ((free parent (Field.mem_inTree listed)).of_spells spelled) with ⟨rfl, rfl⟩ | points
        · refine .under (by simpa using cut.filled) (findParent?_iff_firstOf.mp answers) ?_
            (ih inner freeBelow behind below)
          intro front _ g beside together
          exact (free g (Field.mem_inTree beside)).of_spells together (by simp)
        · have fewer := inner.count_point_lt freeBelow behind below
          have plain : ∀ name ∈ next.engineName :: more, '.' ∉ name.toList :=
            fun name there => FieldPath.plain_of_mem_segments (behind ▸ List.mem_append_right _ there)
          have between := count_point_joined (by simp) plain
          simp only [List.map_cons] at between points
          omega

variable {env : Environment} {config : TypeConfig} {t : DocumentType}

/-- No name has a point, and at the top no field without a name has properties. -/
structure PointFreeNames (t : DocumentType) : Prop where
  free : ∀ f ∈ Field.inTree t.fields, PointFree f
  nameless : ∀ f ∈ t.fields, f.engineName = "" → f.properties = []

theorem PointFreeNames.plain (free : PointFreeNames t) : PlainNames t :=
  ⟨fun f there => (free.free f there).2, free.nameless⟩

/-- A field that nothing shadows is what its own path means; and where no name has a point, a field
that is what its own path means is not shadowed. -/
theorem own_path_means_field (built : build env config = .ok t) {f : Field} (there : f ∈ Field.inTree t.fields) :
    (Unshadowed t.fields f.path.text.toList f → t.resolve f.path.text = some ⟨f.path, f.type⟩) ∧
      (PointFreeNames t → t.resolve f.path.text = some ⟨f.path, f.type⟩ →
        Unshadowed t.fields f.path.text.toList f) := by
  constructor
  · intro unshadowed
    exact resolve_eq_some.mpr ⟨f, unshadowed.resolveAmong (Nat.lt_succ_self _), rfl⟩
  · intro free resolved
    obtain ⟨g, found, same⟩ := resolve_eq_some.mp resolved
    have path : g.path = f.path := congrArg ResolvedProperty.path same
    -- Where names are plain, a path is that of one field.
    have distinct := (free.plain.leadBack built).distinct
    obtain rfl := List.inj_on_of_nodup_map distinct (resolveAmong_mem found) there path
    have whole : Text.joined '.' (g.path.segments.map String.toList) = g.path.text.toList := by
      simp [FieldPath.segments, Text.split, Function.comp_def, Text.joined_pieces]
    have meant : resolveAmong (g.path.text.toList.length + 1) t.fields
        (Text.joined '.' (g.path.segments.map String.toList)) = some g := by
      rw [whole]
      exact found
    have first := unshadowed_of_resolveAmong (free.plain.addressed built) free.free (List.nil_append _).symm meant
    rwa [whole] at first

/-- The day of a stay, further down. -/
theorem stay_day_unshadowed :
    build .empty visitsConfig = .ok visits ∧ PointFreeNames visits ∧
      ∃ day ∈ Field.inTree visits.fields, day.path = ⟨"stay.on"⟩ ∧
        Unshadowed visits.fields day.path.text.toList day ∧ visits.resolve day.path.text = some ⟨day.path, day.type⟩ := by
  have built : build .empty visitsConfig = .ok visits := rfl
  have free : PointFreeNames visits := ⟨by decide, by decide⟩
  let day : Field := ⟨"day", "on", ⟨"stay.on"⟩, .date, none, []⟩
  have there : day ∈ Field.inTree visits.fields :=
    Field.mem_inTree_below List.mem_cons_self (Field.mem_inTree List.mem_cons_self)
  have unshadowed := (own_path_means_field built there).2 free (by decide +kernel)
  exact ⟨built, free, day, there, rfl, unshadowed, (own_path_means_field built there).1 unshadowed⟩

section Pages

/-- Pages that count their hits and their visits, the latter by a name that the engine writes differently. -/
def pagesConfig : TypeConfig where
  name := "Page"
  indexName := none
  aliasName := none
  timePattern := none
  timeField := none
  rollover := none
  settings := .none
  relation := none
  fields := [⟨"hits", some "view_count", .integer, none, []⟩, ⟨"visits", some "viewCount", .long, none, []⟩]

def pageVisits : Field := ⟨"visits", "viewCount", ⟨"viewCount"⟩, .long, none, []⟩

def pages : DocumentType where
  name := "Page"
  indexName := "page"
  aliasName := none
  addressing := .fixed "page"
  relation := .none
  settings := .none
  fields := [⟨"hits", "view_count", ⟨"view_count"⟩, .integer, none, []⟩, pageVisits]
  roles := []
  rolloverSchedule := none

/-- The visits of a page go by a name of their own, which is found and means the hits; with the same
name for both no page is built. -/
theorem page_visits_mean_hits :
    build .empty pagesConfig = .ok pages ∧ pageVisits ∈ Field.inTree pages.fields ∧
      pages.fieldAt? pageVisits.path = some pageVisits ∧
      pages.resolve pageVisits.path.text = some ⟨⟨"view_count"⟩, .integer⟩ ∧
      ∃ e, build .empty { pagesConfig with
        fields := [⟨"hits", some "viewCount", .integer, none, []⟩, ⟨"visits", some "viewCount", .long, none, []⟩] } =
          .error e :=
  ⟨rfl, Field.mem_inTree (List.mem_cons_of_mem _ List.mem_cons_self), rfl, by decide +kernel, _, rfl⟩

end Pages

end DocumentType

end DocMapper
