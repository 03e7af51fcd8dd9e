import DocMapper.Cluster.Config
import DocMapper.Service
/-!
What a program is deployed with: where the cluster is, values for placeholders, whether and
how often series are looked after, and the document types. Everything has a default.
-/

namespace DocMapper

structure SchedulerConfig where
  /-- Whether triggers are started at all. -/
  enabled : Bool
  /-- For series whose type has no schedule of its own. -/
  defaultRolloverSchedule : String
deriving DecidableEq, Repr

structure Deployment where
  cluster : ClusterConfig
  /-- Values for placeholders; they come before those of the process environment. -/
  properties : Dict String
  scheduler : SchedulerConfig
  documentTypes : List TypeConfig

open Json.Decode

namespace SchedulerConfig

def default : SchedulerConfig := ⟨true, "@every 1m"⟩

def ofJson? (value : Json) : Option SchedulerConfig := do
  let members ← value.record? ["enabled", "default_rollover_schedule"]
  return {
    enabled := ← withDefault? "enabled" default.enabled Json.bool? members
    defaultRolloverSchedule := ←
      withDefault? "default_rollover_schedule" default.defaultRolloverSchedule Json.text? members }

def defaultSchedule (c : SchedulerConfig) : Except ConfigError Schedule :=
  Schedule.parse c.defaultRolloverSchedule

end SchedulerConfig

namespace Deployment

def default : Deployment := ⟨.default, [], .default, []⟩

def propertiesOf? (value : Json) : Option (Dict String) :=
  value.members?.bind fun members => members.mapM fun (key, v) => v.text?.map fun text => (key, text)

def typesOf? (value : Json) : Option (List TypeConfig) :=
  value.items?.bind fun items => items.mapM TypeConfig.ofJson?

def ofJson? (value : Json) : Option Deployment := do
  let members ← value.record? ["cluster", "properties", "scheduler", "document_types"]
  return {
    cluster := ← withDefault? "cluster" default.cluster ClusterConfig.ofJson? members
    properties := ← withDefault? "properties" default.properties propertiesOf? members
    scheduler := ← withDefault? "scheduler" default.scheduler SchedulerConfig.ofJson? members
    documentTypes := ← withDefault? "document_types" default.documentTypes typesOf? members }

/-- What placeholders stand for, where the process has an environment of its own. -/
def environment (d : Deployment) (process : Dict String) : Environment :=
  ⟨[d.properties, process]⟩

def registry (d : Deployment) (process : Dict String) : Registry :=
  .ofConfigs (d.environment process) d.documentTypes

/-- The repository of a deployment, once every type and the default schedule have been
checked. -/
def repository (d : Deployment) (process : Dict String) : Except Failure Repository := do
  let (checked, registry) := (d.registry process).validateAll
  let _ ← checked.mapError fun e => (Failure.of (.config e)).during .validating
  let defaultSchedule ← d.scheduler.defaultSchedule.mapError fun e =>
    (Failure.of (.config e)).during .readingDefaultSchedule
  return ⟨registry, .renaming, defaultSchedule⟩

/-- Keeps everything that is deployed going for a while. -/
def serve (d : Deployment) (process : Dict String) (wall : Nat → Instant) (lasting : Duration) :
    Program (Except Failure Unit × Service) :=
  match d.repository process with
  | .error f => return (.error f, .empty wall)
  | .ok r => Service.serve r d.scheduler.enabled lasting (.empty wall)

end Deployment

end DocMapper
