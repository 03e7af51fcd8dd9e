import DocMapper.Engine.Outage
import DocMapper.Proofs.SeriesCalls
/-!
Programs whose calls may fail. Every call meets a moment of its own: the clock may have gone
on since the last call, and the call may fail before the engine sees it, which touches nothing.
An engine with outages is one way to fill in the moments, so what holds at all moments holds
of it too.
-/

namespace DocMapper

/-- What one call meets: the time, and what makes it fail, if anything does. -/
structure Moment where
  now : Instant
  fault? : Option Fault

/-- An engine, and the moments that the next calls will meet. -/
structure Course where
  moments : Nat → Moment
  memory : Memory

namespace Course

def later (moments : Nat → Moment) : Nat → Moment :=
  fun k => moments (k + 1)

/-- A moment, and the moments after it. -/
def starting (first : Moment) (rest : Nat → Moment) : Nat → Moment
  | 0 => first
  | k + 1 => rest k

def answer (c : Call) (s : Course) : Except Fault c.Reply × Course :=
  match (s.moments 0).fault? with
  | some fault => (.error fault, ⟨later s.moments, s.memory⟩)
  | none =>
      let (reply, memory) := Memory.answer (s.moments 0).now c s.memory
      (reply, ⟨later s.moments, memory⟩)

/-- The result of a program, and the engine it leaves behind. -/
def run {α : Type} (moments : Nat → Moment) (program : Program α) (m : Memory) : α × Memory :=
  let (result, s) := program.conduct answer ⟨moments, m⟩
  (result, s.memory)

/-- No call fails from here on. -/
def Steady (moments : Nat → Moment) : Prop :=
  ∀ k, (moments k).fault? = none

variable {α : Type} {moments : Nat → Moment} {m : Memory}

theorem Steady.later (steady : Steady moments) : Steady (later moments) :=
  fun k => steady (k + 1)

@[simp] theorem run_done (a : α) : run moments (.done a) m = (a, m) := rfl

theorem run_ask_failed {c : Call} {next : Except Fault c.Reply → Program α} {fault : Fault}
    (failed : (moments 0).fault? = some fault) :
    run moments (.ask c next) m = run (later moments) (next (.error fault)) m := by
  simp only [run, Dialogue.conduct_ask, answer, failed]

theorem run_ask_answered {c : Call} {next : Except Fault c.Reply → Program α}
    (answered : (moments 0).fault? = none) :
    run moments (.ask c next) m =
      run (later moments) (next (Memory.answer (moments 0).now c m).1) (Memory.answer (moments 0).now c m).2 := by
  simp only [run, Dialogue.conduct_ask, answer, answered]

theorem run_ask (moments : Nat → Moment) {c : Call} (next : Except Fault c.Reply → Program α) (m : Memory) :
    (∃ fault, run moments (.ask c next) m = run (later moments) (next (.error fault)) m) ∨
      run moments (.ask c next) m =
        run (later moments) (next (Memory.answer (moments 0).now c m).1) (Memory.answer (moments 0).now c m).2 := by
  cases met : (moments 0).fault? with
  | none => exact .inr (run_ask_answered met)
  | some fault => exact .inl ⟨fault, run_ask_failed met⟩

theorem run_attempt_granted {ε : Type} {fault : Fault → ε} {c : Call} {next : c.Reply → Attempt ε α}
    (steady : Steady moments) {reply : c.Reply} {after : Memory}
    (granted : Memory.answer (moments 0).now c m = (.ok reply, after)) :
    run moments (c.attempt fault >>= next).run m = run (later moments) (next reply).run after := by
  rw [run_attempt_bind, run_ask_answered (steady 0), granted]
  rfl

/-- A program that has the engine to itself meets the same quiet moment again and again. -/
theorem run_alone (now : Instant) (program : Program α) (m : Memory) :
    run (fun _ => ⟨now, none⟩) program m = Memory.run now program m := by
  induction program generalizing m with
  | done a => rfl
  | ask c next ih =>
      rw [run_ask_answered rfl]
      exact ih _ _

theorem run_outages (now : Instant) (program : Program α) (s : UnsteadyMemory) :
    ∃ moments, run moments program s.memory =
      ((UnsteadyMemory.run now program s).1, (UnsteadyMemory.run now program s).2.memory) := by
  -- The first call decides the first moment, and the calls after it the moments after it.
  induction program generalizing s with
  | done a => exact ⟨fun _ => ⟨now, none⟩, rfl⟩
  | ask c next ih =>
      obtain ⟨rest, same⟩ := ih (UnsteadyMemory.answer now c s).1 (UnsteadyMemory.answer now c s).2
      have goesOn : UnsteadyMemory.run now (.ask c next) s =
          UnsteadyMemory.run now (next (UnsteadyMemory.answer now c s).1) (UnsteadyMemory.answer now c s).2 := rfl
      by_cases out : ∃ left, Dict.find? c.name s.outages = some (left + 1)
      · obtain ⟨left, out⟩ := out
        have failed : UnsteadyMemory.answer now c s =
            (.error (.unavailable c.name), { s with outages := Dict.put c.name left s.outages }) := by
          rw [UnsteadyMemory.answer, out]
        refine ⟨starting ⟨now, some (.unavailable c.name)⟩ rest, ?_⟩
        rw [run_ask_failed rfl, goesOn, ← same, failed]
        rfl
      · have answered : UnsteadyMemory.answer now c s =
            ((Memory.answer now c s.memory).1, { s with memory := (Memory.answer now c s.memory).2 }) := by
          rw [UnsteadyMemory.answer]
          split
          · next left found => exact absurd ⟨left, found⟩ out
          · rfl
        refine ⟨starting ⟨now, none⟩ rest, ?_⟩
        rw [run_ask_answered rfl, goesOn, ← same, answered]
        rfl

end Course

end DocMapper
