/-!
Maps from names to values, kept as lists in key order. Every walk over a map goes
through its keys in that order, so nothing here depends on how a map was filled:
`find?_put` says what one write does to a look-up, and `put_put` that the last write
under a key wins.
-/

namespace DocMapper

abbrev Dict (α : Type) := List (String × α)

namespace Dict

variable {α β : Type}

def find? (key : String) : Dict α → Option α
  | [] => none
  | (k, v) :: rest => if k = key then some v else find? key rest

def has (key : String) (d : Dict α) : Bool :=
  (find? key d).isSome

/-- Writes under a key, in place when the key is there and in key order when it is not. -/
def put (key : String) (value : α) : Dict α → Dict α
  | [] => [(key, value)]
  | (k, v) :: rest =>
      if key = k then (key, value) :: rest
      else if key < k then (key, value) :: (k, v) :: rest
      else (k, v) :: put key value rest

def remove (key : String) (d : Dict α) : Dict α :=
  d.filter fun entry => entry.1 ≠ key

/-- The later of two entries under one key is kept. -/
def ofPairs (pairs : List (String × α)) : Dict α :=
  pairs.foldl (fun d entry => put entry.1 entry.2 d) []

def keys (d : Dict α) : List String :=
  d.map Prod.fst

def mapValues (f : String → α → β) (d : Dict α) : Dict β :=
  d.map fun entry => (entry.1, f entry.1 entry.2)

def modify (key : String) (f : α → α) (d : Dict α) : Dict α :=
  d.map fun entry => if entry.1 = key then (entry.1, f entry.2) else entry

/-- Keys strictly increase, so a map has one list of entries. -/
def Ordered (d : Dict α) : Prop :=
  d.Pairwise fun a b => a.1 < b.1

@[simp] theorem find?_nil (key : String) : find? key ([] : Dict α) = none := rfl

theorem find?_cons (key k : String) (v : α) (rest : Dict α) :
    find? key ((k, v) :: rest) = if k = key then some v else find? key rest := rfl

theorem find?_eq_none {key : String} {d : Dict α} (absent : key ∉ d.keys) : find? key d = none := by
  induction d with
  | nil => rfl
  | cons entry rest ih =>
      simp only [keys, List.map_cons, List.mem_cons, not_or] at absent
      rw [find?, if_neg (Ne.symm absent.1), ih absent.2]

theorem find?_put (key other : String) (value : α) (d : Dict α) :
    find? other (put key value d) = if key = other then some value else find? other d := by
  induction d with
  | nil => rfl
  | cons entry rest ih => grind [put, find?]

theorem find?_put_same (key : String) (value : α) (d : Dict α) :
    find? key (put key value d) = some value := by
  simp [find?_put]

theorem put_put (key : String) (first second : α) (d : Dict α) :
    put key second (put key first d) = put key second d := by
  induction d with
  | nil => simp [put]
  | cons entry rest ih => grind [put]

end Dict

end DocMapper
