import DocMapper.Proofs.DoubleOrder
import DocMapper.Proofs.MatchingDocuments
/-!
The order a search puts its hits in. It is an order only as far as the values it compares are
alike: a text is weighed against a number but no number against a text, and what cannot be
compared ties with everything.
-/

namespace DocMapper

/-! ## Consistent comparisons -/

/-- Read the other way round the comparison is turned, and what comes no later than something
comes no later than what follows that. -/
structure ConsistentOn {α : Type} (s : Set α) (cmp : α → α → Ordering) : Prop where
  turned : ∀ a ∈ s, ∀ b ∈ s, cmp b a = (cmp a b).swap
  carried : ∀ a ∈ s, ∀ b ∈ s, ∀ c ∈ s, cmp a b ≠ .gt → cmp b c ≠ .gt → cmp a c ≠ .gt

namespace ConsistentOn

variable {α κ : Type} {s : Set α} {cmp next : α → α → Ordering}

theorem iff_transCmp : ConsistentOn s cmp ↔ Std.TransCmp fun a b : s => cmp a b := by
  constructor
  · intro consistent
    have turned : Std.OrientedCmp fun a b : s => cmp a b :=
      ⟨fun {a b} => consistent.turned b b.2 a a.2⟩
    refine { turned with isLE_trans := fun {a b c} first second => ?_ }
    rw [Ordering.isLE_iff_ne_gt] at first second ⊢
    exact consistent.carried a a.2 b b.2 c c.2 first second
  · intro trans
    refine ⟨fun a first b second => ?_, fun a first b second c third below above => ?_⟩
    · exact trans.eq_swap (a := ⟨b, second⟩) (b := ⟨a, first⟩)
    · exact Ordering.isLE_iff_ne_gt.mp (trans.isLE_trans (a := ⟨a, first⟩) (b := ⟨b, second⟩) (c := ⟨c, third⟩)
        (Ordering.isLE_iff_ne_gt.mpr below) (Ordering.isLE_iff_ne_gt.mpr above))

/-- Things compared by their keys are compared consistently if the keys are. -/
theorem of_keys (order : κ → κ → Ordering) [Std.TransCmp order] (key : s → κ)
    (read : ∀ a b : s, cmp a b = order (key a) (key b)) : ConsistentOn s cmp := by
  refine iff_transCmp.mpr { eq_swap := fun {a b} => ?_, isLE_trans := fun {a b c} below above => ?_ }
  · rw [read a b, read b a]
    exact Std.OrientedCmp.eq_swap
  · rw [read] at below above ⊢
    exact Std.TransCmp.isLE_trans below above

theorem andThen (first : ConsistentOn s cmp) (second : ConsistentOn s next) :
    ConsistentOn s fun a b => (cmp a b).then (next a b) := by
  have := iff_transCmp.mp first
  have := iff_transCmp.mp second
  exact iff_transCmp.mpr (inferInstanceAs (Std.TransCmp (compareLex (fun a b : s => cmp a b) fun a b : s => next a b)))

theorem swapped (consistent : ConsistentOn s cmp) : ConsistentOn s fun a b => (cmp a b).swap := by
  refine ⟨fun a first b second => by rw [consistent.turned a first b second], ?_⟩
  intro a first b second c third below above
  rw [← consistent.turned a first b second] at below
  rw [← consistent.turned b second c third] at above
  rw [← consistent.turned a first c third]
  exact consistent.carried c third b second a first above below

theorem tied_back (consistent : ConsistentOn s cmp) {a b : α} (first : a ∈ s) (second : b ∈ s)
    (tied : cmp a b = .eq) : cmp b a = .eq := by
  rw [consistent.turned a first b second, tied]
  rfl

theorem tied_through (consistent : ConsistentOn s cmp) {a b c : α} (first : a ∈ s) (second : b ∈ s) (third : c ∈ s)
    (one : cmp a b = .eq) (other : cmp b c = .eq) : cmp a c = .eq := by
  have := iff_transCmp.mp consistent
  exact this.eq_trans (a := ⟨a, first⟩) (b := ⟨b, second⟩) (c := ⟨c, third⟩) one other

end ConsistentOn

/-! ## Values of one kind -/

namespace Json

inductive Kind where
  | number
  | text
  | truth

/-- What a value is ordered among, if anything. -/
def kind? : Json → Option Kind
  | .number n => if n.toDouble.isNaN then none else some .number
  | .string _ => some .text
  | .bool _ => some .truth
  | _ => none

/-- How a sort puts two values: those that cannot be compared tie. -/
def order (a b : Json) : Ordering :=
  (a.compare? b).getD .eq

variable {v w : Json} {values : Set Json}

theorem kind?_number (n : Number) :
    (Json.number n).kind? = (placeOf? n.toDouble.toModel.unpack).map fun _ => .number := by
  rw [kind?, isNaN_eq_isNone]
  cases placeOf? n.toDouble.toModel.unpack <;> rfl

theorem kind?_number_eq_some {n : Number} {kind : Kind} (among : (Json.number n).kind? = some kind) :
    kind = .number ∧ ∃ p, placeOf? n.toDouble.toModel.unpack = some p := by
  rw [kind?_number] at among
  obtain ⟨p, place, rfl⟩ := Option.map_eq_some_iff.mp among
  exact ⟨rfl, p, place⟩

theorem kind?_eq_number (number : v.kind? = some .number) :
    ∃ n p, v = .number n ∧ placeOf? n.toDouble.toModel.unpack = some p := by
  cases v with
  | number n =>
      obtain ⟨-, p, place⟩ := kind?_number_eq_some number
      exact ⟨n, p, rfl, place⟩
  | null | bool _ | string _ | array _ | object _ => cases number

theorem kind?_eq_text (text : v.kind? = some .text) : ∃ t, v = .string t := by
  cases v with
  | string t => exact ⟨t, rfl⟩
  | number n => cases (kind?_number_eq_some text).1
  | null | bool _ | array _ | object _ => cases text

theorem kind?_eq_truth (truth : v.kind? = some .truth) : ∃ b, v = .bool b := by
  cases v with
  | bool b => exact ⟨b, rfl⟩
  | number n => cases (kind?_number_eq_some truth).1
  | null | string _ | array _ | object _ => cases truth

/-- A sort puts one of the two before the other, if it weighs the first against the second. -/
def Apart : Json → Json → Prop
  | .number a, .number b => a.toDouble < b.toDouble ∨ b.toDouble < a.toDouble
  | .string a, .string b => a ≠ b
  | .string a, .number b => ∃ x, Decimal.parse? a = some x ∧ (x < b.toDouble ∨ b.toDouble < x)
  | .bool a, .bool b => a ≠ b
  | _, _ => False

theorem order_ne_eq_iff : v.order w ≠ .eq ↔ v.Apart w := by
  rw [order, compare?.eq_def]
  split
  next a b => exact compareDoubles?_apart_iff
  next a b =>
    change compare a b ≠ .eq ↔ a ≠ b
    rw [Ne, Std.LawfulEqCmp.compare_eq_iff_eq]
  next a b => cases read : Decimal.parse? a <;> simp [Apart, read, compareDoubles?_apart_iff]
  next a b => cases a <;> cases b <;> simp [Apart]
  next numbers texts spelled truths =>
    refine iff_of_false (fun apart => apart rfl) fun apart => ?_
    rw [Apart.eq_def] at apart
    split at apart
    next a b => exact numbers a b rfl rfl
    next a b => exact texts a b rfl rfl
    next a b => exact spelled a b rfl rfl
    next a b => exact truths a b rfl rfl
    next => exact apart

theorem same_kind (apart : v.Apart w) (back : w.Apart v) : ∃ kind, v.kind? = some kind ∧ w.kind? = some kind := by
  rw [Apart.eq_def] at apart
  split at apart
  next a b =>
    obtain ⟨p, q, first, second⟩ := places_of_apart apart
    exact ⟨.number, by rw [kind?_number, first]; rfl, by rw [kind?_number, second]; rfl⟩
  next => exact ⟨.text, rfl, rfl⟩
  -- The other way round, no number is weighed against a text.
  next => exact back.elim
  next => exact ⟨.truth, rfl, rfl⟩
  next => exact apart.elim

theorem order_consistent {kind : Kind} (same : ∀ v ∈ values, v.kind? = some kind) : ConsistentOn values order := by
  cases kind with
  | number =>
      choose n p given place using fun v : values => kind?_eq_number (same v v.2)
      refine .of_keys comparePlaces p fun a b => ?_
      rw [given a, given b, order, compare?, compareDoubles?_of_places (place a) (place b)]
      rfl
  | text =>
      choose t given using fun v : values => kind?_eq_text (same v v.2)
      refine .of_keys compare t fun a b => ?_
      rw [given a, given b]
      rfl
  | truth =>
      choose t given using fun v : values => kind?_eq_truth (same v v.2)
      refine .of_keys (compareOn Bool.toNat) t fun a b => ?_
      rw [given a, given b]
      rfl

/-- Values a sort can put in order: all of one kind, unless no two of them are apart. -/
def Alike (values : Set Json) : Prop :=
  (∃ kind, ∀ v ∈ values, v.kind? = some kind) ∨ ∀ v ∈ values, ∀ w ∈ values, ¬v.Apart w

theorem tied_iff : v.order w = .eq ↔ ¬v.Apart w := by
  rw [← order_ne_eq_iff, not_not]

theorem order_consistent_iff : ConsistentOn values order ↔ Alike values := by
  constructor
  · intro consistent
    by_cases tied : ∀ v ∈ values, ∀ w ∈ values, ¬v.Apart w
    · exact .inr tied
    · push Not at tied
      obtain ⟨v, first, w, second, apart⟩ := tied
      have told {x y : Json} (one : x ∈ values) (other : y ∈ values) (differ : x.Apart y) :
          ∃ kind, x.kind? = some kind ∧ y.kind? = some kind := by
        refine same_kind differ (order_ne_eq_iff.mp fun back => ?_)
        exact tied_iff.mp (consistent.tied_back other one back) differ
      obtain ⟨kind, kind_v, kind_w⟩ := told first second apart
      refine .inl ⟨kind, fun u third => ?_⟩
      -- A value that ties with both would make them tie.
      by_cases tied_v : v.order u = .eq
      · have differ : u.order w ≠ .eq := fun tied_w =>
          tied_iff.mp (consistent.tied_through first third second tied_v tied_w) apart
        obtain ⟨other, kind_u, same⟩ := told third second (order_ne_eq_iff.mp differ)
        rw [kind_u, ← same, kind_w]
      · obtain ⟨other, same, kind_u⟩ := told first third (order_ne_eq_iff.mp tied_v)
        rw [kind_u, ← same, kind_v]
  · rintro (⟨kind, same⟩ | together)
    · exact order_consistent same
    · have tied {v w : Json} (first : v ∈ values) (second : w ∈ values) : v.order w = .eq :=
        tied_iff.mpr (together v first w second)
      refine ⟨fun v first w second => ?_, fun v first w second u third _ _ => ?_⟩
      · rw [tied first second, tied second first]
        rfl
      · simp [tied first third]

end Json

/-! ## Hits by their values -/

namespace Memory

/-- What a sort reads at a field: a null counts as missing. -/
def valueAt (field : FieldPath) (hit : Hit) : Option Json :=
  (field.lookup hit.source).filter fun v => !v.isNull

def valuesAt (field : FieldPath) (hits : Set Hit) : Set Json :=
  {v | ∃ hit ∈ hits, valueAt field hit = some v}

def weigh (direction : Direction) (v w : Json) : Ordering :=
  if direction = .desc then (v.order w).swap else v.order w

def compareAt (key : SortKey) (a b : Hit) : Ordering :=
  match valueAt key.field a, valueAt key.field b with
  | none, none => .eq
  | none, some _ => .gt
  | some _, none => .lt
  | some v, some w => weigh key.direction v w

variable {key : SortKey} {sort : List SortKey} {hits : Set Hit}

theorem compareHits_cons (key : SortKey) (rest : List SortKey) (a b : Hit) :
    compareHits a b (key :: rest) = (compareAt key a b).then (compareHits a b rest) := by
  have read : compareHits a b (key :: rest) =
      if compareAt key a b = .eq then compareHits a b rest else compareAt key a b := rfl
  rw [read]
  cases compareAt key a b <;> rfl

theorem weigh_consistent {values : Set Json} (direction : Direction) (consistent : ConsistentOn values Json.order) :
    ConsistentOn values (weigh direction) := by
  cases direction with
  | asc => exact consistent
  | desc => exact consistent.swapped

theorem compareAt_consistent (consistent : ConsistentOn (valuesAt key.field hits) Json.order) :
    ConsistentOn hits (compareAt key) := by
  have weighed := weigh_consistent key.direction consistent
  have value {hit : Hit} {v : Json} (listed : hit ∈ hits) (read : valueAt key.field hit = some v) :
      v ∈ valuesAt key.field hits := ⟨hit, listed, read⟩
  refine ⟨fun a first b second => ?_, fun a first b second c third => ?_⟩
  · rw [compareAt, compareAt]
    cases one : valueAt key.field a with
    | none => cases valueAt key.field b <;> rfl
    | some v => cases other : valueAt key.field b with
      | none => rfl
      | some w => exact weighed.turned v (value first one) w (value second other)
  · rw [compareAt, compareAt, compareAt]
    cases one : valueAt key.field a with
    | none => cases valueAt key.field b <;> cases valueAt key.field c <;> simp
    | some v => cases other : valueAt key.field b with
      | none => cases valueAt key.field c <;> simp
      | some w => cases last : valueAt key.field c with
        | none => simp
        | some u => exact weighed.carried v (value first one) w (value second other) u (value third last)

theorem compareHits_consistent
    (consistent : ∀ key ∈ sort, ConsistentOn (valuesAt key.field hits) Json.order) :
    ConsistentOn hits fun a b => compareHits a b sort := by
  induction sort with
  | nil => exact ⟨fun _ _ _ _ => rfl, fun _ _ _ _ _ _ _ _ => by simp [compareHits]⟩
  | cons key rest ih =>
      simp only [compareHits_cons]
      exact (compareAt_consistent (consistent key List.mem_cons_self)).andThen
        (ih fun later listed => consistent later (List.mem_cons_of_mem key listed))

theorem order_of_compareHits {field : FieldPath}
    (consistent : ConsistentOn hits fun a b => compareHits a b [⟨field, .asc⟩]) :
    ConsistentOn (valuesAt field hits) Json.order := by
  have read {a b : Hit} {v w : Json} (one : valueAt field a = some v) (other : valueAt field b = some w) :
      compareHits a b [⟨field, .asc⟩] = v.order w := by
    rw [compareHits_cons, compareAt, one, other]
    exact Ordering.then_eq
  refine ⟨?_, ?_⟩
  · rintro v ⟨a, first, one⟩ w ⟨b, second, other⟩
    rw [← read one other, ← read other one]
    exact consistent.turned a first b second
  · rintro v ⟨a, first, one⟩ w ⟨b, second, other⟩ u ⟨c, third, last⟩
    rw [← read one other, ← read other last, ← read one last]
    exact consistent.carried a first b second c third

/-! ## Sorted hits -/

theorem insertHit_sorted (consistent : ConsistentOn hits fun a b => compareHits a b sort) {hit : Hit} (listed : hit ∈ hits)
    {sorted : List Hit} (among : ∀ other ∈ sorted, other ∈ hits)
    (ordered : sorted.Pairwise fun later earlier => compareHits earlier later sort ≠ .gt) :
    (insertHit sort hit sorted).Pairwise fun later earlier => compareHits earlier later sort ≠ .gt := by
  induction sorted with
  | nil => exact List.pairwise_singleton _ _
  | cons last earlier ih =>
      obtain ⟨last_listed, rest_listed⟩ := List.forall_mem_cons.mp among
      obtain ⟨after, rest⟩ := List.pairwise_cons.mp ordered
      rw [insertHit]
      split
      next before =>
        refine List.pairwise_cons.mpr ⟨fun other member => ?_, ih rest_listed rest⟩
        rcases List.mem_cons.mp ((insertHit_perm sort hit earlier).subset member) with rfl | old
        · simp [before]
        · exact after other old
      next behind =>
        -- The insertion compares one way only; a consistent order gives the other.
        have last_first : compareHits last hit sort ≠ .gt := by
          intro above
          exact behind (by rw [consistent.turned last last_listed hit listed, above]; rfl)
        refine List.pairwise_cons.mpr ⟨fun other member => ?_, ordered⟩
        rcases List.mem_cons.mp member with rfl | old
        · exact last_first
        · exact consistent.carried other (rest_listed other old) last last_listed hit listed (after other old) last_first

theorem sortHits_sorted (consistent : ConsistentOn hits fun a b => compareHits a b sort) {found : List Hit}
    (among : ∀ hit ∈ found, hit ∈ hits) :
    (sortHits sort found).Pairwise fun a b => compareHits a b sort ≠ .gt := by
  suffices kept : ∀ (found sorted : List Hit), (∀ hit ∈ found, hit ∈ hits) → (∀ hit ∈ sorted, hit ∈ hits) →
      sorted.Pairwise (fun later earlier => compareHits earlier later sort ≠ .gt) →
      (found.foldl (fun sorted hit => insertHit sort hit sorted) sorted).Pairwise
        fun later earlier => compareHits earlier later sort ≠ .gt from
    List.pairwise_reverse.mpr (kept found [] among (fun _ none => nomatch none) .nil)
  intro found
  induction found with
  | nil => exact fun _ _ _ ordered => ordered
  | cons hit rest ih =>
      intro sorted among placed ordered
      obtain ⟨listed, later⟩ := List.forall_mem_cons.mp among
      refine ih (insertHit sort hit sorted) later (fun other member => ?_)
        (insertHit_sorted consistent listed placed ordered)
      rcases List.mem_cons.mp ((insertHit_perm sort hit sorted).subset member) with rfl | old
      · exact listed
      · exact placed other old

/-- Sorts over some fields put hits in an order exactly if what the hits hold at each field is alike;
then every answer comes in that order. -/
theorem sorts_consistent_iff (fields : Set FieldPath) (hits : Set Hit) :
    ((∀ sort : List SortKey, (∀ key ∈ sort, key.field ∈ fields) → ConsistentOn hits fun a b => compareHits a b sort) ↔
      ∀ field ∈ fields, Json.Alike (valuesAt field hits)) ∧
    ((∀ field ∈ fields, Json.Alike (valuesAt field hits)) →
      ∀ sort : List SortKey, (∀ key ∈ sort, key.field ∈ fields) →
        ∀ found : List Hit, (∀ hit ∈ found, hit ∈ hits) →
          (sortHits sort found).Pairwise fun a b => compareHits a b sort ≠ .gt) := by
  have consistent (alike : ∀ field ∈ fields, Json.Alike (valuesAt field hits)) (sort : List SortKey)
      (within : ∀ key ∈ sort, key.field ∈ fields) : ConsistentOn hits fun a b => compareHits a b sort :=
    compareHits_consistent fun key listed => Json.order_consistent_iff.mpr (alike key.field (within key listed))
  refine ⟨⟨fun every field among => ?_, consistent⟩, fun alike sort within found => ?_⟩
  · refine Json.order_consistent_iff.mp (order_of_compareHits (every [⟨field, .asc⟩] ?_))
    exact List.forall_mem_singleton.mpr among
  · exact sortHits_sorted (consistent alike sort within)

def holding (v : Json) : Hit :=
  ⟨"notes", "1", none, .object [("v", v)]⟩

theorem numbers_fall_in_order :
    (sortHits [⟨⟨"v"⟩, .asc⟩] [holding (.ofNat 4), holding (.ofNat 3)]).Pairwise fun a b =>
      compareHits a b [⟨⟨"v"⟩, .asc⟩] ≠ .gt := by
  refine (sorts_consistent_iff {⟨"v"⟩} {holding (.ofNat 4), holding (.ofNat 3)}).2 ?_ [⟨⟨"v"⟩, .asc⟩] (by simp) _ (by simp)
  rintro field rfl
  refine .inl ⟨.number, ?_⟩
  rintro v ⟨hit, rfl | rfl, read⟩
  all_goals
    cases read
    rfl

theorem texts_among_numbers_disordered :
    ¬ ConsistentOn {holding (.ofNat 4), holding (.string "5"), holding (.ofNat 3)} fun a b =>
      compareHits a b [⟨⟨"v"⟩, .asc⟩] := by
  intro consistent
  have turned := consistent.turned (holding (.string "5")) (by simp) (holding (.ofNat 3)) (by simp)
  have text_first : compareHits (holding (.string "5")) (holding (.ofNat 3)) [⟨⟨"v"⟩, .asc⟩] = .gt := by
    decide +kernel
  have number_first : compareHits (holding (.ofNat 3)) (holding (.string "5")) [⟨⟨"v"⟩, .asc⟩] = .eq := by
    decide +kernel
  rw [text_first, number_first] at turned
  cases turned

end Memory
end DocMapper
