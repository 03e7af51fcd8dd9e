import DocMapper.Url.Basic
import DocMapper.Proofs.TrimmedText
/-!
What becomes of an address of the web when more is written behind its last slash. The scheme,
the credentials, the host and the port stay, and so do the segments in front of that slash:
the path goes on from them. Where the address has a query or a fragment by then, all that is
written behind it goes there, and the path stays as it was.
-/

namespace DocMapper

namespace Text

variable {c : Char}

theorem dropWhile_append_solid {p : Char → Bool} (solid : p c = false) (front back : List Char) :
    (front ++ c :: back).dropWhile p = front.dropWhile p ++ c :: back := by
  induction front with
  | nil => simp [solid]
  | cons first rest ih => by_cases dropped : p first = true <;> simp [dropped, ih]

theorem takeWhile_append_solid {p : Char → Bool} (solid : p c = false) (front back : List Char) :
    (front ++ c :: back).takeWhile p = front.takeWhile p := by
  induction front with
  | nil => simp [solid]
  | cons first rest ih => by_cases taken : p first = true <;> simp [taken, ih]

theorem cutAt?_append_of_not_mem {front : List Char} (absent : c ∉ front) (back : List Char) :
    cutAt? c (front ++ back) = (cutAt? c back).map fun cut => (front ++ cut.1, cut.2) := by
  induction front with
  | nil => simp
  | cons first rest ih =>
      have here : first ≠ c := fun same => absent (same ▸ List.mem_cons_self)
      have later := ih fun member => absent (List.mem_cons_of_mem first member)
      simp only [List.cons_append, cutAt?, here, ↓reduceIte, later, Option.map_map]
      rfl

theorem cutAt?_of_not_mem {text : List Char} (absent : c ∉ text) : cutAt? c text = none := by
  simpa [cutAt?] using cutAt?_append_of_not_mem absent []

theorem cutAt?_first {before : List Char} (absent : c ∉ before) (after : List Char) :
    cutAt? c (before ++ c :: after) = some (before, after) := by
  simp [cutAt?_append_of_not_mem absent, cutAt?]

end Text

namespace Url

/-! ## The end of an address -/

def isBlankEnd (c : Char) : Bool :=
  c.toNat ≤ 0x20

/-- Characters other than the breaks that do not count. -/
def counts (c : Char) : Bool :=
  c ≠ '\t' && c ≠ '\n' && c ≠ '\r'

/-- What counts of the end of an address. -/
def cleanedEnd (text : List Char) : List Char :=
  (text.reverse.dropWhile isBlankEnd).reverse.filter counts

theorem cleanedEnd_append {c : Char} (solid : isBlankEnd c = false) (front back : List Char) :
    cleanedEnd (front ++ c :: back) = front.filter counts ++ c :: cleanedEnd back := by
  have stays : counts c = true := by
    simp only [counts, Bool.and_eq_true, decide_eq_true_eq]
    constructor
    · constructor <;> rintro rfl <;> cases solid
    · rintro rfl
      cases solid
  rw [cleanedEnd, List.reverse_append, List.reverse_cons, List.append_assoc, List.singleton_append,
    Text.dropWhile_append_solid solid]
  simp [cleanedEnd, stays]

theorem cleaned_append (front : List Char) :
    ∃ head, ∀ tail, cleaned (front ++ '/' :: tail) = head ++ '/' :: cleanedEnd tail := by
  have solid : isBlankEnd '/' = false := rfl
  refine ⟨(front.dropWhile isBlankEnd).filter counts, fun tail => ?_⟩
  have same : cleaned (front ++ '/' :: tail) = cleanedEnd ((front ++ '/' :: tail).dropWhile isBlankEnd) := rfl
  rw [same, Text.dropWhile_append_solid solid, cleanedEnd_append solid]

theorem cutOff_first {c : Char} {before : List Char} (absent : c ∉ before) (after : List Char) :
    cutOff c (before ++ c :: after) = (before, some after) := by
  rw [cutOff, Text.cutAt?_first absent]

theorem cutOff_append_of_not_mem {c : Char} {front : List Char} (absent : c ∉ front) (back : List Char) :
    cutOff c (front ++ back) = (front ++ (cutOff c back).1, (cutOff c back).2) := by
  rw [cutOff, Text.cutAt?_append_of_not_mem absent, cutOff]
  cases Text.cutAt? c back <;> rfl

theorem cutOff_of_not_mem {c : Char} {text : List Char} (absent : c ∉ text) : cutOff c text = (text, none) := by
  rw [cutOff, Text.cutAt?_of_not_mem absent]

theorem cutOff_snd_eq_none_iff {c : Char} {text : List Char} : (cutOff c text).2 = none ↔ c ∉ text := by
  by_cases there : c ∈ text
  · obtain ⟨before, after, rfl, absent⟩ := List.eq_append_cons_of_mem there
    simp [cutOff_first absent]
  · simp [cutOff_of_not_mem there, there]

theorem cutOff_fst {c : Char} {text : List Char} : (cutOff c text).1.Sublist text ∧ c ∉ (cutOff c text).1 := by
  by_cases there : c ∈ text
  · obtain ⟨before, after, rfl, absent⟩ := List.eq_append_cons_of_mem there
    rw [cutOff_first absent]
    exact ⟨List.sublist_append_left before (c :: after), absent⟩
  · rw [cutOff_of_not_mem there]
    exact ⟨List.Sublist.refl text, there⟩

/-- What is left of a text without the query and the fragment behind it. -/
def withoutQuery (text : List Char) : List Char :=
  (cutOff '?' (cutOff '#' text).1).1

/-- Whether a query or a fragment begins in a text. -/
def isMarked (text : List Char) : Bool :=
  text.contains '#' || text.contains '?'

theorem bare_iff {text : List Char} :
    (cutOff '?' (cutOff '#' text).1).2 = none ∧ (cutOff '#' text).2 = none ↔ isMarked text = false := by
  rw [cutOff_snd_eq_none_iff, cutOff_snd_eq_none_iff]
  by_cases hash : '#' ∈ text
  · simp [isMarked, hash]
  · simp [isMarked, hash, cutOff_of_not_mem hash]

theorem withoutQuery_of_marked {front : List Char} (marked : isMarked front = true) (back : List Char) :
    withoutQuery (front ++ back) = withoutQuery front := by
  by_cases hash : '#' ∈ front
  · obtain ⟨before, after, rfl, absent⟩ := List.eq_append_cons_of_mem hash
    rw [List.append_assoc, List.cons_append, withoutQuery, withoutQuery, cutOff_first absent, cutOff_first absent]
  · have mark : '?' ∈ front := by simpa [isMarked, hash] using marked
    rw [withoutQuery, withoutQuery, cutOff_append_of_not_mem hash, cutOff_of_not_mem hash]
    obtain ⟨before, after, rfl, absent⟩ := List.eq_append_cons_of_mem mark
    dsimp only
    rw [List.append_assoc, List.cons_append, cutOff_first absent, cutOff_first absent]

theorem withoutQuery_of_unmarked {front : List Char} (unmarked : isMarked front = false) (back : List Char) :
    withoutQuery (front ++ back) = front ++ withoutQuery back := by
  have absent : '#' ∉ front ∧ '?' ∉ front := by simpa [isMarked] using unmarked
  rw [withoutQuery, cutOff_append_of_not_mem absent.1, cutOff_append_of_not_mem absent.2, withoutQuery]

theorem scheme?_append {head rest : List Char} {scheme : String}
    (read : scheme? (head ++ ['/']) = some (scheme, rest)) :
    ∃ more, ∀ tail, scheme? (head ++ '/' :: tail) = some (scheme, more ++ '/' :: tail) := by
  by_cases colon : ':' ∈ head
  · obtain ⟨before, after, rfl, absent⟩ := List.eq_append_cons_of_mem colon
    refine ⟨after, fun tail => ?_⟩
    rw [List.append_assoc, List.cons_append, scheme?, Text.cutAt?_first absent] at read ⊢
    dsimp only at read ⊢
    split at read
    · next letters =>
        rw [if_pos letters]
        exact congrArg (fun s => some (s, after ++ '/' :: tail)) (Prod.mk.inj (Option.some.inj read)).1
    · cases read
  · have none := Text.cutAt?_append_of_not_mem colon ['/']
    rw [scheme?, none] at read
    cases read

/-! ## Paths -/

/-- A path in reverse after a segment that is not its last. -/
def step (path : List String) (segment : List Char) : List String :=
  if isUp segment then path.tail else if isHere segment then path else encodeSegment segment :: path

theorem follow_append {front back : List (List Char)} (more : back ≠ []) (path : List String) :
    follow path (front ++ back) = follow (front.foldl step path) back := by
  induction front generalizing path with
  | nil => rfl
  | cons segment rest ih =>
      cases tail : rest ++ back with
      | nil => exact absurd (List.append_eq_nil_iff.mp tail).2 more
      | cons next others =>
          rw [List.cons_append, tail, follow, List.foldl_cons, step, ← tail, ih, ih, ih]
          by_cases up : isUp segment = true
          · simp only [up, ↓reduceIte]
          · by_cases here : isHere segment = true <;> simp only [up, here, Bool.false_eq_true, ↓reduceIte]

/-- Only a segment that is no dots makes a path longer. -/
theorem step_eq_cons {folder : List String} {segment : List Char} {name : String}
    (longer : step folder segment = name :: folder) :
    isHere segment = false ∧ isUp segment = false ∧ encodeSegment segment = name := by
  have lengths := congrArg List.length longer
  rw [step, List.length_cons] at lengths
  rw [step] at longer
  by_cases up : isUp segment = true
  · rw [if_pos up, List.length_tail] at lengths
    omega
  · by_cases here : isHere segment = true
    · rw [if_neg up, if_pos here] at lengths
      omega
    · rw [if_neg up, if_neg here] at longer
      exact ⟨Bool.eq_false_iff.mpr here, Bool.eq_false_iff.mpr up, (List.cons.inj longer).1⟩

theorem cutPath_ne_nil (special : Bool) (path : List Char) : cutPath special path ≠ [] :=
  Text.pieces_ne_nil '/' _

theorem cutPath_append (special : Bool) (front back : List Char) :
    cutPath special (front ++ '/' :: back) = cutPath special front ++ cutPath special back := by
  have slash : isSlash special '/' = true := rfl
  rw [cutPath, List.map_append, List.map_cons, slash, if_pos rfl, Text.pieces_append]
  rfl

theorem segmentsOf_append {front : List Char} (slash : front.head?.all (isSlash true) = true) :
    ∃ folder, ∀ tail, segmentsOf true (front ++ '/' :: tail) = (follow folder (cutPath true tail)).reverse := by
  cases front with
  | nil => exact ⟨[], fun tail => rfl⟩
  | cons first rest =>
      have first_slash : isSlash true first = true := by simpa using slash
      refine ⟨(cutPath true rest).foldl step [], fun tail => ?_⟩
      rw [List.cons_append, segmentsOf, if_pos first_slash, cutPath_append,
        follow_append (cutPath_ne_nil true tail)]

/-- The segments that are written at the end of an address, before any of them is followed. -/
def endSegments (text : List Char) : List (List Char) :=
  cutPath true (withoutQuery (cleanedEnd text))

/-! ## Hosts -/

theorem located?_of_web {scheme : String} (web : scheme = "http" ∨ scheme = "https") (text : List Char) :
    located? scheme text =
      (authority? scheme ((text.dropWhile (isSlash true)).takeWhile fun c => !isSlash true c)).map fun a =>
        (some a, .segments (segmentsOf true ((text.dropWhile (isSlash true)).dropWhile fun c => !isSlash true c))) := by
  have special : isSpecialScheme scheme = true := by rcases web with rfl | rfl <;> rfl
  have noFile : scheme ≠ "file" := by rcases web with rfl | rfl <;> decide
  simp [located?, special, noFile]

theorem authority?_nil {scheme : String} (web : scheme = "http" ∨ scheme = "https") : authority? scheme [] = none := by
  rcases web with rfl | rfl <;> rfl

theorem head?_behind_name (text : List Char) :
    (text.dropWhile fun c => !isSlash true c).head?.all (isSlash true) = true := by
  have stopped := List.head?_dropWhile_not (fun c => !isSlash true c) text
  cases found : (text.dropWhile fun c => !isSlash true c).head? with
  | none => rfl
  | some c =>
      rw [found] at stopped
      simpa using stopped

theorem located?_append {scheme : String} (web : scheme = "http" ∨ scheme = "https") {text : List Char}
    {authority : Option Authority} {path : UrlPath}
    (read : located? scheme (text ++ ['/']) = some (authority, path)) :
    ∃ folder, ∀ tail, located? scheme (text ++ '/' :: tail) =
      some (authority, .segments (follow folder (cutPath true tail)).reverse) := by
  have slash : isSlash true '/' = true := rfl
  -- A text of slashes only names no authority, and then nothing is read.
  cases start : text.dropWhile (isSlash true) with
  | nil =>
      have nothing : (text ++ ['/']).dropWhile (isSlash true) = [] := by
        rw [List.dropWhile_append, start]
        rfl
      rw [located?_of_web web, nothing, List.takeWhile_nil, authority?_nil web] at read
      cases read
  | cons first rest =>
      have opened (tail : List Char) :
          (text ++ '/' :: tail).dropWhile (isSlash true) = (first :: rest) ++ '/' :: tail := by
        rw [List.dropWhile_append, start]
        rfl
      have ends : (!isSlash true '/') = false := rfl
      obtain ⟨folder, goes⟩ := segmentsOf_append (head?_behind_name (first :: rest))
      refine ⟨folder, fun tail => ?_⟩
      rw [located?_of_web web, opened, Text.takeWhile_append_solid ends, Text.dropWhile_append_solid ends] at read ⊢
      rw [goes]
      obtain ⟨a, named, whole⟩ := Option.map_eq_some_iff.mp read
      obtain ⟨rfl, -⟩ := Prod.mk.inj whole
      rw [named]
      rfl

/-- The path goes on behind a slash, unless a query or a fragment has begun in front of it. -/
theorem located?_below {scheme : String} (web : scheme = "http" ∨ scheme = "https") {front : List Char}
    {authority : Option Authority} {path : UrlPath}
    (read : located? scheme (withoutQuery (front ++ ['/'])) = some (authority, path)) :
    (isMarked front = true ∧
        ∀ tail, located? scheme (withoutQuery (front ++ '/' :: tail)) = some (authority, path)) ∨
      (isMarked front = false ∧ ∃ folder, path = .segments (folder.reverse ++ [""]) ∧
        ∀ tail, located? scheme (withoutQuery (front ++ '/' :: tail)) =
          some (authority, .segments (follow folder (cutPath true (withoutQuery tail))).reverse)) := by
  -- A mark in the front takes the slash and the rest into the query or the fragment.
  by_cases marked : isMarked front = true
  · left
    refine ⟨marked, fun tail => ?_⟩
    rw [withoutQuery_of_marked marked] at read ⊢
    exact read
  · right
    have unmarked : isMarked front = false := Bool.eq_false_iff.mpr marked
    have slashUnmarked : isMarked ['/'] = false := rfl
    have slash (tail : List Char) : withoutQuery ('/' :: tail) = '/' :: withoutQuery tail :=
      withoutQuery_of_unmarked slashUnmarked tail
    rw [withoutQuery_of_unmarked unmarked, slash] at read
    obtain ⟨folder, goes⟩ := located?_append web read
    have here := (goes []).symm.trans read
    refine ⟨unmarked, folder, ?_, fun tail => ?_⟩
    · rw [← (Prod.mk.inj (Option.some.inj here)).2]
      exact congrArg UrlPath.segments List.reverse_cons
    · rw [withoutQuery_of_unmarked unmarked, slash, goes]

/-! ## Addresses -/

/-- The address that parts which have been read make up. -/
def assembled (scheme : String) (authority : Option Authority) (path : UrlPath)
    (query fragment : Option (List Char)) : Url where
  scheme := scheme
  username := (authority.map Authority.username).getD ""
  password := authority.bind Authority.password
  host := authority.map Authority.host
  port := authority.bind Authority.port
  path := path
  query := query.map fun q =>
    String.ofList (Percent.encode (if isSpecialScheme scheme then Percent.inSpecialQuery else Percent.inQuery) q)
  fragment := fragment.map fun f => String.ofList (Percent.encode Percent.inFragment f)

theorem parse?_eq_some_iff {text : String} {url : Url} :
    parse? text = some url ↔ ∃ scheme rest authority path,
      scheme? (cleaned text.toList) = some (scheme, rest) ∧
      located? scheme (withoutQuery rest) = some (authority, path) ∧
      url = assembled scheme authority path (cutOff '?' (cutOff '#' rest).1).2 (cutOff '#' rest).2 := by
  rw [parse?]
  cases scheme? (cleaned text.toList) with
  | none => simp
  | some read =>
      obtain ⟨scheme, rest⟩ := read
      dsimp only [Option.bind_eq_bind, Option.bind_some]
      rw [← withoutQuery]
      constructor
      · intro parsed
        cases located : located? scheme (withoutQuery rest) with
        | none =>
            rw [located] at parsed
            cases parsed
        | some place =>
            rw [located] at parsed
            exact ⟨scheme, rest, place.1, place.2, rfl, located, (Option.some.inj parsed).symm⟩
      · rintro ⟨scheme', rest', authority, path, read, located, rfl⟩
        obtain ⟨rfl, rfl⟩ := Prod.mk.inj (Option.some.inj read)
        rw [located]
        rfl

/-- Addresses that differ below their hosts only. -/
structure SameSite (url base : Url) : Prop where
  scheme : url.scheme = base.scheme
  username : url.username = base.username
  password : url.password = base.password
  host : url.host = base.host
  port : url.port = base.port

theorem SameSite.withPairs {url base : Url} (site : url.SameSite base) (pairs : List (String × String)) :
    (url.withPairs pairs).SameSite base :=
  ⟨site.scheme, site.username, site.password, site.host, site.port⟩

/-- Whatever is written behind a slash, the address is one of the same site with its path at a place. -/
def LeadsTo (front : List Char) (base : Url) (place : List Char → UrlPath) : Prop :=
  ∀ tail, ∃ url, parse? (String.ofList (front ++ '/' :: tail)) = some url ∧ url.SameSite base ∧
    url.path = place tail

/-- What is written behind a slash belongs to the path, or to the query or fragment before it. -/
theorem parse?_below {front : List Char} {base : Url}
    (parsed : parse? (String.ofList (front ++ ['/'])) = some base)
    (web : base.scheme = "http" ∨ base.scheme = "https") :
    (¬(base.query = none ∧ base.fragment = none) ∧ LeadsTo front base fun _ => base.path) ∨
      ((base.query = none ∧ base.fragment = none) ∧ ∃ folder, base.path = .segments (folder.reverse ++ [""]) ∧
        LeadsTo front base fun tail => .segments (follow folder (endSegments tail)).reverse) := by
  obtain ⟨head, clean⟩ := cleaned_append front
  obtain ⟨scheme, first, authority, path, read, located, rfl⟩ := parse?_eq_some_iff.mp parsed
  rw [String.toList_ofList, clean, show cleanedEnd [] = [] from rfl] at read
  obtain ⟨rest, schemes⟩ := scheme?_append read
  obtain rfl : rest ++ ['/'] = first := (Prod.mk.inj (Option.some.inj ((schemes []).symm.trans read))).2
  -- The scheme is read before the slash, so it is the same for every tail.
  have cut (tail : List Char) : scheme? (cleaned (String.ofList (front ++ '/' :: tail)).toList) =
      some (scheme, rest ++ '/' :: cleanedEnd tail) := by
    rw [String.toList_ofList, clean, schemes]
  have slash : isMarked (rest ++ ['/']) = isMarked rest := by simp [isMarked]
  simp only [assembled, Option.map_eq_none_iff, bare_iff, slash]
  rcases located?_below web located with ⟨marked, goes⟩ | ⟨unmarked, folder, ends, goes⟩
  · refine .inl ⟨by simp [marked], fun tail => ?_⟩
    have longer := parse?_eq_some_iff.mpr ⟨scheme, _, authority, path, cut tail, goes _, rfl⟩
    exact ⟨_, longer, ⟨rfl, rfl, rfl, rfl, rfl⟩, rfl⟩
  · refine .inr ⟨unmarked, folder, ends, fun tail => ?_⟩
    have longer := parse?_eq_some_iff.mpr ⟨scheme, _, authority, _, cut tail, goes _, rfl⟩
    exact ⟨_, longer, ⟨rfl, rfl, rfl, rfl, rfl⟩, rfl⟩

end Url

end DocMapper
