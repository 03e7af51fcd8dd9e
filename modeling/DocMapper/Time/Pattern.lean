import DocMapper.Time.Calendar
import DocMapper.Text.Blank
/-!
Time patterns: texts with `%` specifiers that an instant is written into. A pattern is a list
of pieces; reading one gives nothing if a specifier is unknown or cut off. Three letters may
stand between `%` and a numeric specifier to say how it is padded: `-` not at all, `0` with
zeros, `_` with blanks.
-/

namespace DocMapper

namespace TimePattern

inductive Padding where
  | none
  | zero
  | blank
deriving DecidableEq, Repr

inductive Field where
  | year
  | century
  | yearOfCentury
  | isoYear
  | isoYearOfCentury
  | quarter
  | month
  | day
  | weekFromSunday
  | weekFromMonday
  | isoWeek
  | daysFromSunday
  | dayOfWeek
  | ordinal
  | hour
  | hourOfHalfDay
  | minute
  | second
  | nanosecond
  | timestamp
deriving DecidableEq, Repr

inductive Wording where
  | shortMonth
  | longMonth
  | shortWeekday
  | longWeekday
  | lowerHalfDay
  | upperHalfDay
  /-- A point and as many groups of three places as the fraction needs, or nothing. -/
  | fraction
  | fractionOf (places : Nat)
  | bareFraction (places : Nat)
  | zoneName
  | offset
  | offsetColon
  | offsetSeconds
  | offsetHours
  /-- An offset that can be read but has no written form. -/
  | offsetAnyForm
  | full
deriving DecidableEq, Repr

inductive Piece where
  | literal (text : List Char)
  | space (text : List Char)
  | field (f : Field) (padding : Padding)
  | wording (w : Wording)
deriving DecidableEq, Repr

namespace Piece

def zeroed (f : Field) : Piece := .field f .zero

def lit (c : Char) : Piece := .literal [c]

def gap : Piece := .space [' ']

def clock : List Piece :=
  [zeroed .hour, lit ':', zeroed .minute, lit ':', zeroed .second]

def slashDate : List Piece :=
  [zeroed .month, lit '/', zeroed .day, lit '/', zeroed .yearOfCentury]

/-- What a single letter after `%` stands for. -/
def ofLetter? (c : Char) : Option (List Piece) :=
  match c with
  | 'A' => some [.wording .longWeekday]
  | 'B' => some [.wording .longMonth]
  | 'C' => some [zeroed .century]
  | 'D' => some slashDate
  | 'F' => some [zeroed .year, lit '-', zeroed .month, lit '-', zeroed .day]
  | 'G' => some [zeroed .isoYear]
  | 'H' => some [zeroed .hour]
  | 'I' => some [zeroed .hourOfHalfDay]
  | 'M' => some [zeroed .minute]
  | 'P' => some [.wording .lowerHalfDay]
  | 'R' => some [zeroed .hour, lit ':', zeroed .minute]
  | 'S' => some [zeroed .second]
  | 'T' => some clock
  | 'U' => some [zeroed .weekFromSunday]
  | 'V' => some [zeroed .isoWeek]
  | 'W' => some [zeroed .weekFromMonday]
  | 'X' => some clock
  | 'Y' => some [zeroed .year]
  | 'Z' => some [.wording .zoneName]
  | 'a' => some [.wording .shortWeekday]
  | 'b' => some [.wording .shortMonth]
  | 'c' => some ([.wording .shortWeekday, gap, .wording .shortMonth, gap, .field .day .blank, gap] ++
      clock ++ [gap, zeroed .year])
  | 'd' => some [zeroed .day]
  | 'e' => some [.field .day .blank]
  | 'f' => some [zeroed .nanosecond]
  | 'g' => some [zeroed .isoYearOfCentury]
  | 'h' => some [.wording .shortMonth]
  | 'j' => some [zeroed .ordinal]
  | 'k' => some [.field .hour .blank]
  | 'l' => some [.field .hourOfHalfDay .blank]
  | 'm' => some [zeroed .month]
  | 'n' => some [.space ['\n']]
  | 'p' => some [.wording .upperHalfDay]
  | 'q' => some [.field .quarter .none]
  | 'r' => some [zeroed .hourOfHalfDay, lit ':', zeroed .minute, lit ':', zeroed .second, gap,
      .wording .upperHalfDay]
  | 's' => some [.field .timestamp .none]
  | 't' => some [.space ['\t']]
  | 'u' => some [.field .dayOfWeek .none]
  | 'v' => some [.field .day .blank, lit '-', .wording .shortMonth, lit '-', zeroed .year]
  | 'w' => some [.field .daysFromSunday .none]
  | 'x' => some slashDate
  | 'y' => some [zeroed .yearOfCentury]
  | 'z' => some [.wording .offset]
  | '+' => some [.wording .full]
  | '%' => some [lit '%']
  | _ => Option.none

def repad? (padding : Padding) : List Piece → Option (List Piece)
  -- Other padding is for a specifier that is one number.
  | [.field f _] => some [.field f padding]
  | _ => Option.none

end Piece

def specifier? (text : List Char) : Option (List Piece × List Char) :=
  match text with
  | '-' :: c :: rest => ((Piece.ofLetter? c).bind (Piece.repad? .none)).map fun ps => (ps, rest)
  | '0' :: c :: rest => ((Piece.ofLetter? c).bind (Piece.repad? .zero)).map fun ps => (ps, rest)
  | '_' :: c :: rest => ((Piece.ofLetter? c).bind (Piece.repad? .blank)).map fun ps => (ps, rest)
  | '#' :: 'z' :: rest => some ([.wording .offsetAnyForm], rest)
  | ':' :: ':' :: ':' :: 'z' :: rest => some ([.wording .offsetHours], rest)
  | ':' :: ':' :: 'z' :: rest => some ([.wording .offsetSeconds], rest)
  | ':' :: 'z' :: rest => some ([.wording .offsetColon], rest)
  | '.' :: 'f' :: rest => some ([.wording .fraction], rest)
  | '.' :: '3' :: 'f' :: rest => some ([.wording (.fractionOf 3)], rest)
  | '.' :: '6' :: 'f' :: rest => some ([.wording (.fractionOf 6)], rest)
  | '.' :: '9' :: 'f' :: rest => some ([.wording (.fractionOf 9)], rest)
  | '3' :: 'f' :: rest => some ([.wording (.bareFraction 3)], rest)
  | '6' :: 'f' :: rest => some ([.wording (.bareFraction 6)], rest)
  | '9' :: 'f' :: rest => some ([.wording (.bareFraction 9)], rest)
  | c :: rest => (Piece.ofLetter? c).map fun ps => (ps, rest)
  | [] => Option.none

def isLiteral (c : Char) : Bool :=
  c ≠ '%' && !Text.isBlank c

def read? : Nat → List Char → Option (List Piece)
  -- Pieces of a pattern; every round reads at least one character.
  | _, [] => some []
  | 0, _ :: _ => Option.none
  | fuel + 1, c :: rest =>
      if c = '%' then do
        let (pieces, rest) ← specifier? rest
        return pieces ++ (← read? fuel rest)
      else if Text.isBlank c then do
        let blanks := rest.takeWhile Text.isBlank
        return .space (c :: blanks) :: (← read? fuel (rest.dropWhile Text.isBlank))
      else do
        let text := rest.takeWhile isLiteral
        return .literal (c :: text) :: (← read? fuel (rest.dropWhile isLiteral))

def parse? (pattern : String) : Option (List Piece) :=
  read? pattern.toList.length pattern.toList

def isValid (pattern : String) : Bool :=
  (parse? pattern).isSome

def padLeft (fill : Char) (width : Nat) (text : String) : String :=
  String.ofList (List.replicate (width - text.length) fill) ++ text

def twoDigits (padding : Padding) (n : Nat) : String :=
  -- Two digits; a number below ten is padded.
  match padding with
  | .none => toString n
  | .zero => padLeft '0' 2 (toString n)
  | .blank => padLeft ' ' 2 (toString n)

/-- A whole number of at least `width` places. -/
def signed (padding : Padding) (width : Nat) (n : Int) : String :=
  let digits := toString n.natAbs
  let sign := if n < 0 then "-" else ""
  match padding with
  | .none => sign ++ digits
  | .zero => sign ++ padLeft '0' (width - sign.length) digits
  | .blank => padLeft ' ' width (sign ++ digits)

def yearText (padding : Padding) (year : Int) : String :=
  -- A year; one that is negative or has more than four digits always has a sign.
  if 0 ≤ year && year < 10000 then signed padding 4 year
  else
    let digits := toString year.natAbs
    let sign := if year < 0 then "-" else "+"
    match padding with
    | .none => sign ++ digits
    | .zero => sign ++ padLeft '0' 4 digits
    | .blank => padLeft ' ' 5 (sign ++ digits)

/-- Weeks of a year that begin on the day `daysSince` counts from. -/
def weekOf (d : Date) (daysSince : Nat) : Nat :=
  (d.ordinal + 6 - daysSince) / 7

def hourOfHalfDay (i : Instant) : Nat :=
  if i.hour % 12 = 0 then 12 else i.hour % 12

namespace Field

def text (f : Field) (padding : Padding) (i : Instant) : String :=
  let d := i.date
  match f with
  | .year => yearText padding d.year
  | .century => twoDigits padding (d.year / 100 % 256).toNat
  | .yearOfCentury => twoDigits padding (d.year % 100).toNat
  | .isoYear => yearText padding d.isoWeek.1
  | .isoYearOfCentury => twoDigits padding (d.isoWeek.1 % 100).toNat
  | .quarter => toString d.quarter
  | .month => twoDigits padding d.month
  | .day => twoDigits padding d.day
  | .weekFromSunday => twoDigits padding (weekOf d d.daysFromSunday)
  | .weekFromMonday => twoDigits padding (weekOf d d.daysFromMonday)
  | .isoWeek => twoDigits padding d.isoWeek.2
  | .daysFromSunday => toString d.daysFromSunday
  | .dayOfWeek => toString (d.daysFromMonday + 1)
  | .ordinal => signed padding 3 d.ordinal
  | .hour => twoDigits padding i.hour
  | .hourOfHalfDay => twoDigits padding (TimePattern.hourOfHalfDay i)
  | .minute => twoDigits padding i.minute
  | .second => twoDigits padding (i.second + i.nanos / 1000000000)
  | .nanosecond => signed padding 9 (i.nanos % 1000000000 : Nat)
  | .timestamp => signed padding 9 i.secs

end Field

def monthNames : List String :=
  ["January", "February", "March", "April", "May", "June", "July", "August", "September", "October",
    "November", "December"]

def weekdayNames : List String :=
  ["Monday", "Tuesday", "Wednesday", "Thursday", "Friday", "Saturday", "Sunday"]

def monthName (d : Date) : String :=
  monthNames.getD (d.month - 1) ""

def weekdayName (d : Date) : String :=
  weekdayNames.getD d.daysFromMonday ""

def short (name : String) : String :=
  String.ofList (name.toList.take 3)

/-- The first places of a fraction of a second. -/
def fractionDigits (places nanos : Nat) : String :=
  padLeft '0' places (toString (nanos % 1000000000 / Nat.pow 10 (9 - places)))

def fractionText (nanos : Nat) : String :=
  let n := nanos % 1000000000
  if n = 0 then ""
  else if n % 1000000 = 0 then "." ++ fractionDigits 3 n
  else if n % 1000 = 0 then "." ++ fractionDigits 6 n
  else "." ++ fractionDigits 9 n

def fullText (i : Instant) : String :=
  yearText .zero i.date.year ++ "-" ++ Field.month.text .zero i ++ "-" ++ Field.day.text .zero i ++ "T" ++
    Field.hour.text .zero i ++ ":" ++ Field.minute.text .zero i ++ ":" ++ Field.second.text .zero i ++
    fractionText i.nanos ++ "+00:00"

namespace Wording

def text? (w : Wording) (i : Instant) : Option String :=
  match w with
  | .shortMonth => some (short (monthName i.date))
  | .longMonth => some (monthName i.date)
  | .shortWeekday => some (short (weekdayName i.date))
  | .longWeekday => some (weekdayName i.date)
  | .lowerHalfDay => some (if i.hour < 12 then "am" else "pm")
  | .upperHalfDay => some (if i.hour < 12 then "AM" else "PM")
  | .fraction => some (fractionText i.nanos)
  | .fractionOf places => some ("." ++ fractionDigits places i.nanos)
  | .bareFraction places => some (fractionDigits places i.nanos)
  | .zoneName => some "UTC"
  | .offset => some "+0000"
  | .offsetColon => some "+00:00"
  | .offsetSeconds => some "+00:00:00"
  | .offsetHours => some "+00"
  | .offsetAnyForm => none
  | .full => some (fullText i)

end Wording

namespace Piece

def text? (p : Piece) (i : Instant) : Option String :=
  match p with
  | .literal text | .space text => some (String.ofList text)
  | .field f padding => some (f.text padding i)
  | .wording w => w.text? i

end Piece

def expandPieces? (pieces : List Piece) (i : Instant) : Option String :=
  (pieces.mapM fun (p : Piece) => p.text? i).map String.join

def expand? (pattern : String) (i : Instant) : Option String :=
  (parse? pattern).bind fun pieces => expandPieces? pieces i

def isJoint (c : Char) : Bool :=
  -- Marks between specifiers that a wildcard takes in.
  c = '.' || c = '-' || c = '_' || c = '/' || c = ':'

/-- Adds a piece to a wildcard that is kept last character first. -/
def addWildcard (reversed : List Char) : Piece → List Char
  | .literal text | .space text => text.reverse ++ reversed
  | .field _ _ | .wording _ =>
      let trimmed := reversed.dropWhile isJoint
      if trimmed.head? = some '*' then trimmed else '*' :: reversed

/-- A wildcard for all names a pattern expands to. Specifiers become stars, and stars with
nothing but marks between them become one. -/
def wildcard (pattern : String) : String :=
  String.ofList (((parse? pattern).getD []).foldl addWildcard []).reverse

end TimePattern

end DocMapper
