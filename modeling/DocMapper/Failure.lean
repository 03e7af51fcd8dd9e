import DocMapper.Rollover.Tick
/-!
What goes wrong while a program works with its documents: a cause, and what was being done
when it came up, from the outside in.
-/

namespace DocMapper

inductive Cause where
  | config (e : ConfigError)
  | derivation (e : DerivationError)
  /-- A record that became no engine document. -/
  | mapping (type reason : String)
  /-- An engine document that became no record. -/
  | reading (reason : String)
  | rollover (e : RolloverError)
  | engine (f : Fault)
deriving DecidableEq, Repr

def Cause.message : Cause → String
  | .config e => e.message
  | .derivation e => e.message
  | .mapping type reason =>
      s!"💀 A '{type}' record could not be mapped to an engine document: {reason}"
  | .reading reason => reason
  | .rollover e => e.message
  | .engine f => f.message

inductive Activity where
  | creatingIndex (index type : String)
  | saving (type target : String)
  | searching (target type : String)
  | counting (type target : String)
  | bootstrapping (type : String)
  | validating
  | readingDefaultSchedule
deriving DecidableEq, Repr

def Activity.message : Activity → String
  | .creatingIndex index type => s!"💀 Could not create index '{index}' for '{type}'"
  | .saving type target => s!"💀 Saving a '{type}' into '{target}' did not work out"
  | .searching target type => s!"💀 Searching '{target}' for '{type}' failed"
  | .counting type target => s!"💀 Counting '{type}' in '{target}' failed"
  | .bootstrapping type => s!"💀 Bootstrapping '{type}' went sideways"
  | .validating => "💀 A document type failed validation. Nothing was started."
  | .readingDefaultSchedule => "💀 scheduler.default_rollover_schedule is not a schedule we can read"

structure Failure where
  activities : List Activity
  cause : Cause
deriving DecidableEq, Repr

namespace Failure

def of (cause : Cause) : Failure := ⟨[], cause⟩

def during (activity : Activity) (f : Failure) : Failure :=
  { f with activities := activity :: f.activities }

/-- All that is known, from the outside in. -/
def sentences (f : Failure) : List String :=
  f.activities.map Activity.message ++ [f.cause.message]

def headline (f : Failure) : String :=
  f.sentences.headD ""

def story (f : Failure) : String :=
  String.intercalate ": " f.sentences

end Failure

/-- Adds what was being done to the way an attempt may end. -/
def Attempt.during {α : Type} (activity : Activity) (a : Attempt Failure α) : Attempt Failure α :=
  a.adapt (Failure.during activity)

end DocMapper
