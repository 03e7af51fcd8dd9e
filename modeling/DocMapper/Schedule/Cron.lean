import DocMapper.Time.Calendar
/-!
Calendar expressions: six fields for second, minute, hour, day of month, month and day of
week, and perhaps one for the year. A field is a list of numbers, ranges and stars, each with
an optional step; months and weekdays have names, and the fields for days take `?` for any
value. Sunday is the first day of the week.

`next?` finds the next instant all of whose parts are in their fields.
-/

namespace DocMapper

/-- The values each part of an instant may have, in increasing order. -/
structure Cron where
  source : String
  seconds : List Nat
  minutes : List Nat
  hours : List Nat
  days : List Nat
  months : List Nat
  weekdays : List Nat
  years : List Nat
deriving DecidableEq, Repr

namespace Cron

/-- The values a field can have and the names for some of them. -/
structure Unit where
  least : Nat
  most : Nat
  names : List (String × Nat)

namespace Unit

def second : Unit := ⟨0, 59, []⟩

def minute : Unit := ⟨0, 59, []⟩

def hour : Unit := ⟨0, 23, []⟩

def day : Unit := ⟨1, 31, []⟩

def month : Unit := ⟨1, 12, [
  ("jan", 1), ("january", 1), ("feb", 2), ("february", 2), ("mar", 3), ("march", 3), ("apr", 4), ("april", 4),
  ("may", 5), ("jun", 6), ("june", 6), ("jul", 7), ("july", 7), ("aug", 8), ("august", 8), ("sep", 9),
  ("september", 9), ("oct", 10), ("october", 10), ("nov", 11), ("november", 11), ("dec", 12), ("december", 12)]⟩

def weekday : Unit := ⟨1, 7, [
  ("sun", 1), ("sunday", 1), ("mon", 2), ("monday", 2), ("tue", 3), ("tues", 3), ("tuesday", 3),
  ("wed", 4), ("wednesday", 4), ("thu", 5), ("thurs", 5), ("thursday", 5), ("fri", 6), ("friday", 6),
  ("sat", 7), ("saturday", 7)]⟩

def year : Unit := ⟨1970, 2100, []⟩

def range (low high : Nat) : List Nat :=
  (List.range (high + 1 - low)).map (· + low)

def all (u : Unit) : List Nat :=
  range u.least u.most

def has (u : Unit) (n : Nat) : Bool :=
  u.least ≤ n && n ≤ u.most

def named? (u : Unit) (name : List Char) : Option Nat :=
  u.names.lookup (String.ofList (name.map Char.toLower))

end Unit

inductive Specifier where
  | all
  | point (n : Nat)
  | range (low high : Nat)
  | namedRange (low high : List Char)

inductive Item where
  | plain (s : Specifier)
  | stepped (s : Specifier) (step : Nat)
  | named (name : List Char)

def skip (text : List Char) : List Char :=
  text.dropWhile fun c => c = ' ' || c = '\t'

def number? (text : List Char) : Option (Nat × List Char) :=
  -- A number with blanks around it.
  let text := skip text
  let digits := text.takeWhile Char.isDigit
  let n := digits.foldl (fun n c => 10 * n + (c.toNat - '0'.toNat)) 0
  if digits.isEmpty || n ≥ 1 <<< 32 then none else some (n, skip (text.dropWhile Char.isDigit))

def name? (text : List Char) : Option (List Char × List Char) :=
  let text := skip text
  let name := text.takeWhile Char.isAlpha
  if name.isEmpty then none else some (name, skip (text.dropWhile Char.isAlpha))

def range? (text : List Char) : Option (Specifier × List Char) :=
  match number? text with
  | some (low, '-' :: rest) => (number? rest).map fun (high, rest) => (.range low high, rest)
  | _ => none

def namedRange? (text : List Char) : Option (Specifier × List Char) :=
  match name? text with
  | some (low, '-' :: rest) => (name? rest).map fun (high, rest) => (.namedRange low high, rest)
  | _ => none

def specifier? (any : Bool) (text : List Char) : Option (Specifier × List Char) :=
  match text with
  | '*' :: rest => some (.all, rest)
  | '?' :: rest => if any then some (.all, rest) else none
  | text =>
      match range? text with
      | some read => some read
      | none =>
          match number? text with
          | some (n, rest) => some (.point n, rest)
          | none => namedRange? text

def item? (any : Bool) (text : List Char) : Option (Item × List Char) :=
  match specifier? any text with
  | some (s, '/' :: rest) =>
      match number? rest with
      | some (step, rest) => some (.stepped s step, rest)
      | none => some (.plain s, '/' :: rest)
  | some (s, rest) => some (.plain s, rest)
  | none => (name? text).map fun (name, rest) => (.named name, rest)

/-- Further items, each after a comma. -/
def moreItems (any : Bool) : Nat → List Char → List Item × List Char
  | 0, text => ([], text)
  | fuel + 1, text =>
      match text with
      | ',' :: rest =>
          match item? any rest with
          | some (item, rest) =>
              let (items, rest) := moreItems any fuel rest
              (item :: items, rest)
          | none => ([], text)
      | _ => ([], text)

def items? (any : Bool) (text : List Char) : Option (List Item × List Char) :=
  (item? any (skip text)).map fun (first, rest) =>
    let (more, rest) := moreItems any rest.length rest
    (first :: more, skip rest)

namespace Specifier

def between? (u : Unit) (low high : Nat) : Option (List Nat) :=
  if u.has low && u.has high && low ≤ high then some (Unit.range low high) else none

def values? (u : Unit) : Specifier → Option (List Nat)
  | .all => some u.all
  | .point n => some [n]
  | .range low high => between? u low high
  | .namedRange low high => do between? u (← u.named? low) (← u.named? high)

def stepBase? (u : Unit) : Specifier → Option (List Nat)
  -- What a step starts from: a number stands for the range from it on.
  | .point n => if u.has n then some (Unit.range n u.most) else none
  | s => s.values? u

end Specifier

/-- Every `step`-th value, from the first on. -/
def everyNth (step : Nat) : Nat → List Nat → List Nat
  | _, [] => []
  | 0, n :: rest => n :: everyNth step (step - 1) rest
  | wait + 1, _ :: rest => everyNth step wait rest

def Item.values? (u : Unit) : Item → Option (List Nat)
  | .plain s => s.values? u
  | .stepped s step =>
      if step = 0 || u.most < step then none else (s.stepBase? u).map (everyNth step 0)
  | .named name => (u.named? name).map fun n => [n]

/-- The values of a field, which all have to be ones its unit has. -/
def values? (u : Unit) (items : List Item) : Option (List Nat) :=
  (items.mapM (Item.values? u)).bind fun found =>
    let values := found.flatten
    if values.all u.has then some (u.all.filter values.contains) else none

def field? (u : Unit) (any : Bool) (text : List Char) : Option (List Nat × List Char) := do
  let (items, rest) ← items? any text
  return (← values? u items, rest)

def longhand? (source : String) : Option Cron := do
  -- The fields in order; the one for the year may be missing.
  let (seconds, text) ← field? .second false source.toList
  let (minutes, text) ← field? .minute false text
  let (hours, text) ← field? .hour false text
  let (days, text) ← field? .day true text
  let (months, text) ← field? .month false text
  let (weekdays, text) ← field? .weekday true text
  let (years, text) := (field? .year false text).getD (Unit.year.all, text)
  if text.isEmpty then some { source, seconds, minutes, hours, days, months, weekdays, years } else none

def shorthand? (source : String) : Option Cron :=
  let hourly : Cron := {
    source
    seconds := [0]
    minutes := [0]
    hours := Unit.hour.all
    days := Unit.day.all
    months := Unit.month.all
    weekdays := Unit.weekday.all
    years := Unit.year.all }
  let daily := { hourly with hours := [0] }
  let monthly := { daily with days := [1] }
  let word := String.ofList ((skip (skip source.toList).reverse).reverse)
  if word = "@hourly" then some hourly
  else if word = "@daily" then some daily
  else if word = "@weekly" then some { daily with weekdays := [1] }
  else if word = "@monthly" then some monthly
  else if word = "@yearly" then some { monthly with months := [1] }
  else none

def parse? (source : String) : Option Cron :=
  match shorthand? source with
  | some c => some c
  | none => longhand? source

/-- The first second of a day, from `earliest` on, that the fields allow. -/
def secondOfDay? (c : Cron) (earliest : Nat) : Option Nat :=
  c.hours.findSome? fun h => c.minutes.findSome? fun m => c.seconds.findSome? fun s =>
    let second := h * 3600 + m * 60 + s
    if earliest ≤ second then some second else none

/-- The first second from `start`, given in seconds since 1970, that falls on a date. -/
def onDate? (c : Cron) (start : Int) (d : Date) : Option Int :=
  let days := d.toDays
  if d.day ≤ Date.daysInMonth d.year d.month && c.weekdays.contains (d.daysFromSunday + 1) &&
      start / 86400 ≤ days then
    (c.secondOfDay? (start - days * 86400).toNat).map fun second => days * 86400 + second
  else none

/-- The next instant after a given one; none when the years have run out. -/
def next? (c : Cron) (after : Instant) : Option Instant :=
  let start := after.secs + 1
  let first := Instant.date ⟨start, 0⟩
  let found : Option Int := c.years.findSome? fun (year : Nat) =>
    if (year : Int) < first.year || first.year < 0 then none
    else c.months.findSome? fun month => c.days.findSome? fun day =>
      c.onDate? start ⟨year, month, day⟩
  found.map fun secs => ⟨secs, 0⟩

end Cron

end DocMapper
