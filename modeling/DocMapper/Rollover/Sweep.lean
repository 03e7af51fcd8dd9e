import DocMapper.Repository
/-!
One attempt for every series of a repository, in the order of the types' names. Each series is
got ready first; a sweep ends early when that fails, but an attempt that fails is only an
outcome like any other.
-/

namespace DocMapper

/-- The outcomes, with the types they belong to, and why there are no more of them. -/
structure Sweep where
  outcomes : List (String × Except RolloverError RolloverReport)
  failure? : Option Failure

namespace Sweep

def complete : Sweep := ⟨[], none⟩

def broken (f : Failure) : Sweep := ⟨[], some f⟩

def after (type : String) (outcome : Except RolloverError RolloverReport) (s : Sweep) : Sweep :=
  { s with outcomes := (type, outcome) :: s.outcomes }

end Sweep

namespace Repository

/-- Gets the series of a type ready and makes one attempt; types without a series are passed
over. -/
def attemptOnce (r : Repository) (name : String) :
    Attempt Failure (Option (Except RolloverError RolloverReport)) := do
  let t ← Attempt.lift (r.find name)
  if !t.isRolloverBacked then return none
  let _ ← r.bootstrap name
  let (t, _) ← Attempt.lift (r.rolloverTrigger name none)
  return some (← ExceptT.lift (Rollover.tick t).run)

def sweep (r : Repository) : List String → Program Sweep
  | [] => return .complete
  | name :: rest => do
      match ← (r.attemptOnce name).run with
      | .error f => return .broken f
      | .ok none => sweep r rest
      | .ok (some outcome) => return (← sweep r rest).after name outcome

end Repository

end DocMapper
