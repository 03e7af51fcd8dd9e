import DocMapper.Proofs.CheckedTypes
import Mathlib.Data.List.Infix
/-!
Paths that lead back to their fields. A path is the engine names from the top down, joined by
points, and a look-up cuts it at the points again. Where no engine name has a point of its own,
every path is that of one field and leads to it; the exception is a nameless field at the top,
whose properties have the paths of fields beside it. Building refuses neither.
-/

namespace DocMapper

namespace FieldPath

theorem segments_plain {name : String} (plain : '.' ∉ name.toList) : segments ⟨name⟩ = [name] :=
  Text.split_of_not_mem plain

theorem segments_child {p : FieldPath} (named : p.text ≠ "") {name : String} (plain : '.' ∉ name.toList) :
    (p.child name).segments = p.segments ++ [name] := by
  have joined : (p.child name).text = p.text ++ "." ++ name := by simp [child, named]
  have cut : (p.child name).text.toList = p.text.toList ++ '.' :: name.toList := by simp [joined]
  rw [segments, segments, Text.split, cut, Text.pieces_append, List.map_append, ← Text.split, ← Text.split,
    Text.split_of_not_mem plain]

theorem child_named {p : FieldPath} (named : p.text ≠ "") (name : String) : (p.child name).text ≠ "" := by
  simp [child, named]

theorem plain_of_mem_segments {p : FieldPath} {segment : String} (member : segment ∈ p.segments) :
    '.' ∉ segment.toList := by
  obtain ⟨piece, listed, rfl⟩ := List.mem_map.mp member
  simpa using (Text.mem_pieces listed).2

end FieldPath

namespace Field

/-- Of what stands in a tree once, a field of the top level is not below another one. -/
theorem not_mem_below {fields : List Field} (once : (inTree fields).Nodup) {f g : Field} (listed : f ∈ fields)
    (below : g ∈ inTree f.properties) : g ∉ fields := by
  induction fields with
  | nil => cases listed
  | cons first rest ih =>
      rw [inTree_cons, List.nodup_cons, List.mem_append, List.nodup_append'] at once
      obtain ⟨fresh, -, later, apart⟩ := once
      rw [List.mem_cons, not_or]
      rcases List.mem_cons.mp listed with rfl | further
      · exact ⟨fun same => fresh (.inl (same ▸ below)), fun there => apart below (mem_inTree there)⟩
      · exact ⟨fun same => fresh (.inr (same ▸ mem_inTree_below further below)), ih later further⟩

end Field

namespace DocumentType

/-- The segments of every path are the engine names above a field and its own. -/
inductive Addressed : List String → List Field → Prop where
  | intro {stem : List String} {fields : List Field} (ends : ∀ f ∈ fields, f.path.segments = stem ++ [f.engineName])
      (properties : ∀ f ∈ fields, Addressed f.path.segments f.properties) : Addressed stem fields

section Looking

variable {stem : List String} {fields : List Field} {f : Field}

/-- Below a level the segments go on from the name of one of its fields. -/
theorem Addressed.prefix (addressed : Addressed stem fields) (there : f ∈ Field.inTree fields) :
    ∃ g ∈ fields, stem ++ [g.engineName] <+: f.path.segments := by
  induction addressed generalizing f with
  | intro ends properties ih =>
      obtain ⟨g, listed, same | below⟩ := Field.mem_inTree_iff.mp there
      · exact ⟨g, listed, by rw [same, ends g listed]⟩
      · obtain ⟨h, -, further⟩ := ih g listed below
        refine ⟨g, listed, ?_⟩
        rw [← ends g listed]
        exact (List.prefix_append _ _).trans further

theorem Addressed.length_lt (addressed : Addressed stem fields) (there : f ∈ Field.inTree fields) :
    stem.length < f.path.segments.length := by
  obtain ⟨g, -, further⟩ := addressed.prefix there
  have longer : stem.length + 1 ≤ f.path.segments.length := by simpa using further.length_le
  omega

theorem Addressed.rest {first : Field} {rest : List Field} (addressed : Addressed stem (first :: rest)) :
    Addressed stem rest := by
  cases addressed with
  | intro ends properties =>
      exact .intro (fun f listed => ends f (List.mem_cons_of_mem first listed))
        (fun f listed => properties f (List.mem_cons_of_mem first listed))

/-- Two fields of a tree differ in their segments: one name decides where they are not below the
same field, and the length where one is below the other. -/
theorem Addressed.segments_nodup (addressed : Addressed stem fields) (differ : SiblingsDiffer fields) :
    ((Field.inTree fields).map fun f => f.path.segments).Nodup := by
  induction fields using Field.treeInduction generalizing stem with
  | nil => exact List.nodup_nil
  | cons first rest below later =>
      have ⟨ends, properties⟩ := addressed
      have own := ends first List.mem_cons_self
      have inner := properties first List.mem_cons_self
      have outer := addressed.rest
      have fresh := (List.nodup_cons.mp differ.names).1
      -- All paths below a field begin with its own, and siblings part at that segment.
      have firstDiffers : ∀ f ∈ Field.inTree rest, ¬stem ++ [first.engineName] <+: f.path.segments := by
        intro f there begins
        obtain ⟨g, listed, other⟩ := outer.prefix there
        have same := List.prefix_of_prefix_length_le begins other (by simp)
        have names := same.eq_of_length (by simp)
        exact fresh (List.mem_map.mpr ⟨g, listed, by simpa [eq_comm] using names⟩)
      rw [Field.inTree_cons, List.map_cons, List.map_append, List.nodup_cons, List.mem_append, List.nodup_append']
      refine ⟨?_, below inner (differ.properties List.mem_cons_self), later outer differ.rest, ?_⟩
      · simp only [List.mem_map, not_or, not_exists, not_and]
        constructor
        · intro f there same
          exact absurd (inner.length_lt there) (by simp [same])
        · intro f there same
          exact firstDiffers f there (by rw [same, own])
      · intro segments inFirst inRest
        obtain ⟨f, there, rfl⟩ := List.mem_map.mp inFirst
        obtain ⟨g, elsewhere, same⟩ := List.mem_map.mp inRest
        obtain ⟨h, -, further⟩ := inner.prefix there
        apply firstDiffers g elsewhere
        rw [same, ← own]
        exact (List.prefix_append _ _).trans further

theorem Addressed.fieldAlong? (addressed : Addressed stem fields) (differ : SiblingsDiffer fields)
    (there : f ∈ Field.inTree fields) :
    ∃ names, f.path.segments = stem ++ names ∧ fieldAlong? fields names = some f := by
  induction addressed generalizing f with
  | @intro stem fields ends properties ih =>
      obtain ⟨g, listed, same | below⟩ := Field.mem_inTree_iff.mp there
      · subst same
        exact ⟨[f.engineName], ends f listed, differ.find?_engineName listed⟩
      · obtain ⟨names, segments, leads⟩ := ih g listed (differ.properties listed) below
        cases names with
        | nil => cases leads
        | cons next more =>
            refine ⟨g.engineName :: next :: more, by simp [segments, ends g listed], ?_⟩
            rw [DocumentType.fieldAlong?, differ.find?_engineName listed]
            exact leads

theorem getLast?_of_fieldAlong? {names : List String} (found : fieldAlong? fields names = some f) :
    names.getLast? = some f.engineName := by
  induction names generalizing fields with
  | nil => cases found
  | cons name rest ih =>
      cases rest with
      | nil =>
          have same : f.engineName = name := by simpa using List.find?_some found
          simp [same]
      | cons next more =>
          rw [DocumentType.fieldAlong?] at found
          split at found
          · rw [List.getLast?_cons_cons]
            exact ih found
          · cases found

end Looking

variable {env : Environment} {config : TypeConfig} {t : DocumentType}

theorem laidOutAll_addressed {parent : FieldPath} (named : parent.text ≠ "") {configs : List FieldConfig}
    (plain : ∀ f ∈ Field.inTree (laidOutAll env parent configs), '.' ∉ f.engineName.toList) :
    Addressed parent.segments (laidOutAll env parent configs) := by
  induction configs using FieldConfig.treeInduction generalizing parent with
  | nil => exact .intro (fun _ listed => by cases listed) (fun _ listed => by cases listed)
  | cons first rest below later =>
      rw [laidOutAll, Field.inTree_cons] at plain
      simp only [List.forall_mem_cons, List.forall_mem_append] at plain
      obtain ⟨own, inner, outer⟩ := plain
      obtain ⟨ends, properties⟩ := later named outer
      rw [laidOut_properties] at inner
      refine .intro (List.forall_mem_cons.mpr ⟨?_, ends⟩) (List.forall_mem_cons.mpr ⟨?_, properties⟩)
      · rw [laidOut_path]
        exact FieldPath.segments_child named own
      · rw [laidOut_properties]
        exact below (by rw [laidOut_path]; exact FieldPath.child_named named _) inner

/-- Every path of a type is that of one field, and a look-up along it finds the field. -/
structure PathsLeadBack (t : DocumentType) : Prop where
  distinct : ((Field.inTree t.fields).map Field.path).Nodup
  found : ∀ f ∈ Field.inTree t.fields, t.fieldAt? f.path = some f

/-- No engine name has a point, and at the top no field without a name has properties. -/
structure PlainNames (t : DocumentType) : Prop where
  points : ∀ f ∈ Field.inTree t.fields, '.' ∉ f.engineName.toList
  nameless : ∀ f ∈ t.fields, f.engineName = "" → f.properties = []

theorem PlainNames.addressed (built : build env config = .ok t) (plain : PlainNames t) : Addressed [] t.fields := by
  have checked := build_checked built
  refine .intro (fun f listed => ?_) (fun f listed => ?_)
  · rw [checked.paths f listed]
    exact FieldPath.segments_plain (plain.points f (Field.mem_inTree listed))
  · by_cases named : f.engineName = ""
    · rw [plain.nameless f listed named]
      exact .intro (fun _ none => by cases none) (fun _ none => by cases none)
    · have laid := listed
      rw [checked.laidOut, laidOutAll_eq_map] at laid
      obtain ⟨described, -, rfl⟩ := List.mem_map.mp laid
      have points : ∀ g ∈ Field.inTree (laidOut env ⟨""⟩ described).properties, '.' ∉ g.engineName.toList :=
        fun g below => plain.points g (Field.mem_inTree_below listed below)
      rw [laidOut_properties] at points ⊢
      refine laidOutAll_addressed ?_ points
      rw [checked.paths _ listed]
      exact named

theorem PlainNames.leadBack (built : build env config = .ok t) (plain : PlainNames t) : PathsLeadBack t where
  distinct := by
    have segments : (((Field.inTree t.fields).map Field.path).map FieldPath.segments).Nodup := by
      rw [List.map_map]
      exact (plain.addressed built).segments_nodup (build_differ built)
    exact segments.of_map _
  found f there := by
    obtain ⟨names, same, leads⟩ := (plain.addressed built).fieldAlong? (build_differ built) there
    rw [List.nil_append] at same
    rw [fieldAt?, same]
    exact leads

theorem PathsLeadBack.plain (built : build env config = .ok t) (back : PathsLeadBack t) : PlainNames t := by
  have checked := build_checked built
  have points : ∀ f ∈ Field.inTree t.fields, '.' ∉ f.engineName.toList := by
    intro f there
    have ends := getLast?_of_fieldAlong? (back.found f there)
    exact FieldPath.plain_of_mem_segments (List.mem_of_getLast? ends)
  refine ⟨points, fun f listed nameless => ?_⟩
  refine List.eq_nil_iff_forall_not_mem.mpr fun g below => ?_
  -- The path of such a property is its name, under which it would stand at the top.
  have there : g ∈ Field.inTree t.fields := Field.mem_inTree_below listed (Field.mem_inTree below)
  have path : g.path = ⟨g.engineName⟩ := by
    rw [checked.pathsBelow f (Field.mem_inTree listed) g below, checked.paths f listed, nameless]
    rfl
  have found := back.found g there
  rw [fieldAt?, path, FieldPath.segments_plain (points g there)] at found
  exact Field.not_mem_below (back.distinct.of_map _) listed (Field.mem_inTree below) (List.mem_of_find?_eq_some found)

/-- The paths of a built type lead back to its fields exactly if its engine names are plain. -/
theorem paths_lead_back_iff (built : build env config = .ok t) : PathsLeadBack t ↔ PlainNames t :=
  ⟨fun back => back.plain built, fun plain => plain.leadBack built⟩

theorem visit_paths_lead_back : build .empty visitsConfig = .ok visits ∧ PathsLeadBack visits := by
  have built : build .empty visitsConfig = .ok visits := rfl
  exact ⟨built, (paths_lead_back_iff built).mpr ⟨by decide, by decide⟩⟩

section Bylines

/-- Articles with a byline that the engine knows by a name with a point. -/
def bylinesConfig : TypeConfig where
  name := "Article"
  indexName := some "articles"
  aliasName := none
  timePattern := none
  timeField := none
  rollover := none
  settings := .none
  relation := none
  fields := [⟨"authorName", some "author.name", .keyword, none, []⟩]

def byline : Field := ⟨"authorName", "author.name", ⟨"author.name"⟩, .keyword, none, []⟩

def bylines : DocumentType where
  name := "Article"
  indexName := "articles"
  aliasName := none
  addressing := .fixed "articles"
  relation := .none
  settings := .none
  fields := [byline]
  roles := []
  rolloverSchedule := none

/-- Bylines are built and cannot be found; with an author's name beside them, that is what is found. -/
theorem byline_not_found :
    build .empty bylinesConfig = .ok bylines ∧ byline ∈ Field.inTree bylines.fields ∧
      bylines.fieldAt? byline.path = none ∧
      ∃ t, build .empty { bylinesConfig with
          fields := bylinesConfig.fields ++ [⟨"author", none, .object, none, [⟨"name", none, .text, none, []⟩]⟩] } = .ok t ∧
        byline ∈ Field.inTree t.fields ∧ ¬((Field.inTree t.fields).map Field.path).Nodup ∧
        (t.fieldAt? byline.path).map Field.name = some "name" :=
  ⟨rfl, List.mem_cons_self, rfl, _, rfl, List.mem_cons_self, by decide, rfl⟩

end Bylines

end DocumentType

end DocMapper
