import DocMapper.Engine.Memory
/-!
An engine in memory some of whose calls go wrong for a while. A call that goes wrong this way
touches nothing.
-/

namespace DocMapper

structure UnsteadyMemory where
  memory : Memory
  /-- How many of the next calls of each kind go wrong. -/
  outages : Dict Nat

namespace UnsteadyMemory

def answer (now : Instant) (c : Call) (m : UnsteadyMemory) : Except Fault c.Reply × UnsteadyMemory :=
  match Dict.find? c.name m.outages with
  | some (left + 1) => (.error (.unavailable c.name), { m with outages := Dict.put c.name left m.outages })
  | _ =>
      let (reply, memory) := Memory.answer now c m.memory
      (reply, { m with memory })

def run {α : Type} (now : Instant) (program : Program α) (m : UnsteadyMemory) : α × UnsteadyMemory :=
  program.conduct (answer now) m

end UnsteadyMemory

end DocMapper
