import DocMapper.Cluster.Client
import DocMapper.CommandLine.Help
import DocMapper.Json.Parser
import DocMapper.Rollover.Sweep
import DocMapper.Settings.Deployment
import DocMapper.Text.Table
/-!
What a run of the program comes to: the texts it prints, the errors it logs, and the code it
ends with. Whatever a command prints it prints at its end, so a command that fails has
printed nothing.
-/

namespace DocMapper.CommandLine

structure Report where
  code : Nat
  /-- Texts for the output, each of them followed by a line end. -/
  printed : List String
  logged : List String
  /-- Texts for whoever called the program the wrong way. -/
  complaints : List String
deriving DecidableEq, Repr

/-- What there is under the name of a file. -/
inductive File where
  | missing
  | unreadable
  | readable (text : String)

namespace File

/-- The text of a file, which need not be there; nothing if it is there and cannot be read. -/
def text? : File → Option (Option String)
  | .missing => some none
  | .unreadable => none
  | .readable text => some (some text)

end File

/-! ## Commands -/

def checkedTypes (d : Deployment) (process : Dict String) : Except Failure (List DocumentType) :=
  (d.registry process).validateAll.1.mapError fun e => .of (.config e)

/-- Where every type is read from, and where a document without a time would be written. -/
def routes (d : Deployment) (process : Dict String) (now : Instant) : Except Failure (List String) := do
  let types ← checkedTypes d process
  return Text.Table.lines {
    header := ["Document type", "Mode", "Read target", "Write target"]
    rows := types.map fun t =>
      [t.name, t.addressing.name, Routing.readTarget t, Routing.writeTarget t now none] }

def argumentOf (text : String) : Argument :=
  -- An argument is read as JSON; a text that is not JSON stands for itself.
  .ofJson ((Json.parse? text).getD (.string text))

/-- The search that a method name becomes, first in words and then as the engine gets it. -/
def compile (d : Deployment) (process : Dict String) (type method : String) (arguments : List String) :
    Except Failure (List String) := do
  let t ← ((d.registry process).get type).1.mapError fun e => .of (.config e)
  let query ← (Query.compileMethod t.resolve method (arguments.map argumentOf)).mapError fun e =>
    .of (.derivation e)
  return [s!"🔍 {query.subject.name} {type}: {query.criteria.format}",
    (query.criteria.renderSearch query.sort query.limit).renderIndented]

def outcomeCells : Except RolloverError RolloverReport → List String
  | .ok (.notNeeded index stats) => ["not needed", s!"{index}: {stats.docs} docs, {stats.bytes} bytes"]
  | .ok (.rolledOver source target reasons) =>
      let met := String.intercalate ", " (reasons.map RolloverReason.format)
      ["rolled over", s!"{source} → {target} ({met})"]
  | .error e => ["failed", e.message]

def outcomeTable (s : Sweep) : List String :=
  Text.Table.lines {
    header := ["Document type", "Outcome", "Detail"]
    rows := s.outcomes.map fun (type, outcome) => type :: outcomeCells outcome }

/-- Series that cannot go on without help are logged; other attempts that failed are only
outcomes. -/
def stops (s : Sweep) : List String :=
  s.outcomes.filterMap fun (type, outcome) =>
    match outcome with
    | .error (.collision c) => some s!"💀 Rollover of '{type}' stopped: {c.message}"
    | _ => none

/-- Looks at every series once, provided that the cluster can be reached. -/
def sweepOnce (d : Deployment) (process : Dict String) (now : Instant) : Http.Exchange Sweep := do
  match ← (Cluster.ping d.cluster).run with
  | .error f => return .broken (.of (.engine f))
  | .ok () =>
      match d.repository process with
      | .error f => return .broken f
      | .ok r => Cluster.carry d.cluster now (r.sweep r.registry.names)

/-! ## Reports -/

/-- Whether a request found nobody to answer it. -/
def isUnanswered : Cause → Bool
  | .engine f | .rollover (.engine f) =>
      match f with
      | .clusterOutOfReach _ .unreachable | .notSent _ .unreachable => true
      | _ => false
  | _ => false

def hint (url : String) : String :=
  s!"🔧 hint: the cluster at '{url}' isn't reachable. Is it running? \x60docker ps\x60 knows. ☕"

def failureLog (d : Deployment) (f : Failure) : List String :=
  s!"💀 error: {f.headline}" :: if isUnanswered f.cause then [hint d.cluster.url] else []

namespace Report

def success (printed : List String) : Report := ⟨0, printed, [], []⟩

def failure (d : Deployment) (f : Failure) : Report := ⟨1, [], failureLog d f, []⟩

def ofResult (d : Deployment) : Except Failure (List String) → Report
  | .ok printed => success printed
  | .error f => failure d f

def ofSweep (d : Deployment) (s : Sweep) : Report :=
  let report := match s.failure? with
    | none => success (outcomeTable s)
    | some f => failure d f
  { report with logged := stops s ++ report.logged }

def badSettings : Report :=
  ⟨1, [], [], ["Error: 💀 In kdm-cli, main, we couldn't load the config. " ++
    "Take a look at the file and the KDM_* variables."]⟩

def misuse (e : UsageError) : Report := ⟨2, [], [], [e.message]⟩

end Report

/-- Carries out a command with a deployment. `lasting` is how long series are kept going
before the program is told to stop. -/
def perform (d : Deployment) (process : Dict String) (wall : Nat → Instant) (lasting : Duration) :
    Command → Http.Exchange Report
  | .routes => return .ofResult d (routes d process (wall 0))
  | .compile type method arguments => return .ofResult d (compile d process type method arguments)
  | .rollover true => do return .ofSweep d (← sweepOnce d process (wall 0))
  | .rollover false => do
      let (result, _) ← Cluster.carry d.cluster (wall 0) (d.serve process wall lasting)
      return .ofResult d (result.map fun _ => [])

/-- The name of the file that a run with these arguments looks at. -/
def configOf? (arguments : List String) : Option String :=
  match read arguments with
  | .ok (.invoke invocation) => some invocation.config
  | _ => none

def run (files : String → File) (process : Dict String) (wall : Nat → Instant) (lasting : Duration)
    (arguments : List String) : Http.Exchange Report :=
  match read arguments with
  | .error e => return .misuse e
  | .ok (.help topic) => return .success topic.text
  | .ok (.invoke invocation) =>
      match (files invocation.config).text?.bind fun file => Deployment.load? file process with
      | none => return .badSettings
      | some d => perform d process wall lasting invocation.command

end DocMapper.CommandLine
