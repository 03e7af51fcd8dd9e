import DocMapper.Json.Basic
/-!
The tables of a TOML document while it is read. A table is opened by its header, or comes
about because it holds another one, or by keys joined with points; of these only a table that
merely came about may still be opened, and only one made by joined keys may be given more
of them. The item of a list of tables that counts is the last.
-/

namespace DocMapper.Toml

inductive Origin where
  /-- By a header of its own. -/
  | opened
  /-- By the header of a table inside it. -/
  | implied
  /-- By keys joined with points. -/
  | joined
deriving DecidableEq

inductive Entry where
  | value (value : Json)
  | table (origin : Origin) (entries : List (String × Entry))
  /-- A list of tables: those before the last, and the last. -/
  | tables (before : List Json) (last : List (String × Entry))

abbrev Entries := Dict Entry

mutual

def Entry.toJson : Entry → Json
  | .value value => value
  | .table _ entries => .object (membersOf entries)
  | .tables before last => .array (before ++ [.object (membersOf last)])

def membersOf : List (String × Entry) → List (String × Json)
  | [] => []
  | (key, entry) :: rest => (key, entry.toJson) :: membersOf rest

end

namespace Entries

/-- Goes down to the table under a path, through the last items of lists, changes it, and
puts it back. Tables that are not there yet come about on the way. -/
def inside? (f : Entries → Option Entries) : List String → Entries → Option Entries
  | [], entries => f entries
  | key :: path, entries => do
      let entry ← match Dict.find? key entries with
        | none => (inside? f path []).map (.table .implied)
        | some (.table origin inner) => (inside? f path inner).map (.table origin)
        | some (.tables before last) => (inside? f path last).map (.tables before)
        | some (.value _) => none
      return Dict.put key entry entries

def opened? (key : String) (entries : Entries) : Option Entries :=
  match Dict.find? key entries with
  | none => some (Dict.put key (.table .opened []) entries)
  | some (.table .implied inner) => some (Dict.put key (.table .opened inner) entries)
  | some _ => none

/-- Begins the next item of the list of tables with a key. -/
def extended? (key : String) (entries : Entries) : Option Entries :=
  match Dict.find? key entries with
  | none => some (Dict.put key (.tables [] []) entries)
  | some (.tables before last) =>
      some (Dict.put key (.tables (before ++ [.object (membersOf last)]) []) entries)
  | some _ => none

def added? (key : String) (value : Json) (entries : Entries) : Option Entries :=
  if Dict.has key entries then none else some (Dict.put key (.value value) entries)

/-- Gives a value to joined keys. The table that holds the value must itself have come about
by joined keys, those further out must not have been opened. -/
def joined? (key : String) (value : Json) : List String → Entries → Option Entries
  | [], entries => added? key value entries
  | [last], entries => do
      let inner ← match Dict.find? last entries with
        | none => some []
        | some (.table .joined inner) => some inner
        | some _ => none
      return Dict.put last (.table .joined (← added? key value inner)) entries
  | outer :: path, entries => do
      let entry ← match Dict.find? outer entries with
        | none => (joined? key value path []).map (.table .joined)
        | some (.table .opened _) | some (.value _) => none
        | some (.table origin inner) => (joined? key value path inner).map (.table origin)
        | some (.tables before last) => (joined? key value path last).map (.tables before)
      return Dict.put outer entry entries

end Entries

end DocMapper.Toml
