import DocMapper.Settings.Loose
/-!
Settings in layers. Values laid over others hide them, but the members of objects are laid
over one another one by one; `find?_overlaidMembers` says what a member then is.

The name of an environment variable says where its value goes: after the word that all such
names begin with, two underscores part one level from the next, and case does not count.
-/

namespace DocMapper.Settings

mutual

/-- One value over another: members of objects are laid over one another one by one, anything
else hides what is under it. -/
def overlaid (under : Json) : Json → Json
  | .object members =>
      match under with
      | .object below => .object (overlaidMembers below members)
      | _ => .object members
  | value => value

def overlaidMembers (under : Dict Json) : List (String × Json) → Dict Json
  | [] => under
  | (key, value) :: rest =>
      let value := match Dict.find? key under with
        | some below => overlaid below value
        | none => value
      overlaidMembers (Dict.put key value under) rest

end

theorem find?_overlaidMembers (key : String) (members : List (String × Json)) (under : Dict Json)
    (distinct : (Dict.keys members).Nodup) :
    Dict.find? key (overlaidMembers under members) =
      match Dict.find? key members, Dict.find? key under with
      | some value, some below => some (overlaid below value)
      | some value, none => some value
      | none, below => below := by
  induction members generalizing under with
  | nil => rfl
  | cons entry rest ih =>
      obtain ⟨k, v⟩ := entry
      have tail : (Dict.keys rest).Nodup := (List.nodup_cons.mp distinct).2
      have fresh : k ∉ Dict.keys rest := (List.nodup_cons.mp distinct).1
      rw [overlaidMembers, ih _ tail, Dict.find?_put, Dict.find?_cons]
      by_cases same : k = key
      · subst same
        rw [Dict.find?_eq_none fresh]
        cases Dict.find? k under <;> simp
      · simp [same]

/-! ## Environment variables -/

/-- The word that names of variables with settings begin with. -/
def namespaceWord : String := "KDM_"

/-- What follows a word at the start of a text, where case does not count. -/
def afterWord? (word : String) (text : List Char) : Option (List Char) :=
  let n := word.length
  if (text.take n).map Char.toLower = word.toList.map Char.toLower then some (text.drop n) else none

/-- Two underscores are a point. -/
def pointed : List Char → List Char
  | '_' :: '_' :: rest => '.' :: pointed rest
  | c :: rest => c :: pointed rest
  | [] => []

/-- The levels that a name leads through; none if the name is that of another variable or
has an empty level. -/
def levels? (name : String) : Option (List String) := do
  let rest ← afterWord? namespaceWord (Text.trimChars name.toList)
  let levels := Text.split '.' (String.ofList (Text.trimChars (pointed rest))).toLower
  if levels.any String.isEmpty then none else some levels

def nested (value : Json) : List String → Json
  | [] => value
  | key :: rest => .object [(key, nested value rest)]

def ofVariables (process : Dict String) : Json :=
  -- The settings that a process finds in its variables. Of two with the same name but for case,
  -- the later in order counts.
  process.foldl (fun settings (name, text) =>
    match levels? name with
    | some levels => overlaid settings (nested (loose text) levels)
    | none => settings) (.object [])

end DocMapper.Settings
