import DocMapper.Schedule.Cron
import DocMapper.Text.Pieces
/-!
Schedules: when a job comes due. A job either comes due at a fixed interval, which is never
zero, or on the instants a calendar expression names. An initial delay takes the place of
the wait before the first time.
-/

namespace DocMapper

inductive Recurrence where
  | every (interval : Duration)
  | calendar (c : Cron)
deriving DecidableEq, Repr

structure Schedule where
  recurrence : Recurrence
  initialDelay : Option Duration
deriving DecidableEq, Repr

namespace Schedule

/-- Once a minute, where nothing else is configured. -/
def minutely : Schedule := ⟨.every (.ofSecs 60), none⟩

def every (interval : Duration) : Except ConfigError Schedule :=
  if interval = .zero then .error (.invalidSchedule s!"@every {interval.format}")
  else .ok ⟨.every interval, none⟩

def words : List Char → List (List Char)
  | [] => []
  | c :: rest =>
      if Text.isBlank c then words rest
      else match rest with
        | [] => [[c]]
        | d :: more =>
            if Text.isBlank d then [c] :: words more
            else match words (d :: more) with
              | [] => [[c]]
              | word :: others => (c :: word) :: others

def wordCount (text : List Char) : Nat :=
  (words text).length

def cron (expression : String) : Except ConfigError Schedule :=
  -- A calendar expression; five fields mean that the second is zero.
  let trimmed := Text.trim expression
  let source := if wordCount trimmed.toList = 5 then "0 " ++ trimmed else trimmed
  match Cron.parse? source with
  | some c => .ok ⟨.calendar c, none⟩
  | none => .error (.invalidSchedule expression)

def withInitialDelay (s : Schedule) (delay : Duration) : Schedule :=
  { s with initialDelay := some delay }

def interval? (s : Schedule) : Option Duration :=
  match s.recurrence with
  | .every interval => some interval
  | .calendar _ => none

/-- How long after `now` the job comes due again. -/
def delayAfter (s : Schedule) (now : Instant) : Option Duration :=
  match s.recurrence with
  | .every interval => some interval
  | .calendar c => (c.next? now).map fun next => next.since now

def firstDelay (s : Schedule) (now : Instant) : Option Duration :=
  match s.initialDelay with
  | some delay => some delay
  | none => s.delayAfter now

/-- What follows `every`, with or without its mark. -/
def amountText (expression : List Char) : List Char :=
  Text.trimChars (((Text.after? "@every".toList expression).orElse fun _ =>
    Text.after? "every".toList expression).getD expression)

def parse (raw : String) : Except ConfigError Schedule :=
  let expression := canonicalChars raw
  let word := String.ofList expression
  if word = "@minutely" then every (.ofSecs 60)
  else if word = "@midnight" then cron "@daily"
  else if word = "@annually" then cron "@yearly"
  else if word = "@hourly" || word = "@daily" || word = "@weekly" || word = "@monthly" || word = "@yearly" then
    cron word
  else if 5 ≤ wordCount expression then cron raw
  else match Duration.read? (canonicalChars (String.ofList (amountText expression))) with
    | some interval => if interval = .zero then .error (.invalidSchedule raw) else every interval
    | none => .error (.invalidSchedule raw)

def format (s : Schedule) : String :=
  (match s.recurrence with
    | .every interval => s!"@every {interval.format}"
    | .calendar c => s!"cron '{c.source}'") ++
  (match s.initialDelay with
    | some delay => s!" (first after {delay.format})"
    | none => "")

end Schedule

end DocMapper
