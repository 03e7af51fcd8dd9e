import DocMapper.DocumentType.Registry
import DocMapper.Proofs.DictLaws
import Mathlib.Data.List.Induction
/-!
What a registry answers after any run of requests. It keeps every type that it has built, and this
never shows: what it has built under a name is what it would build now, since a new description
takes away what was built from the old one, and a fault is not kept. So each answer is found from
the descriptions alone, and of these from the last one under each name.
-/

namespace DocMapper.Registry

/-- What can come to a registry. -/
inductive Request where
  | register (config : TypeConfig)
  | get (name : String)
  | validateAll

namespace Request

/-- What a request leaves of a registry. -/
def act : Request → Registry → Registry
  | .register config, r => r.register config
  | .get name, r => (r.get name).2
  | .validateAll, r => r.validateAll.2

def config? : Request → Option TypeConfig
  | .register config => some config
  | .get _ | .validateAll => none

end Request

def after (r : Registry) (requests : List Request) : Registry :=
  requests.foldl (fun r request => request.act r) r

/-- The descriptions that requests bring, the last one first. -/
def described (requests : List Request) : List TypeConfig :=
  (requests.filterMap Request.config?).reverse

/-- What the last description under a name comes to, built anew. -/
def builtAnew (env : Environment) (configs : List TypeConfig) (name : String) : Except ConfigError DocumentType :=
  match configs.find? fun config => config.name = name with
  | some config => DocumentType.build env config
  | none => .error (.unknownDocumentType name)

theorem after_append (r : Registry) (requests : List Request) (request : Request) :
    r.after (requests ++ [request]) = request.act (r.after requests) := by
  simp [after]

theorem described_append (requests : List Request) (request : Request) :
    described (requests ++ [request]) = request.config?.toList ++ described requests := by
  cases config : request.config? <;> simp [described, config]

/-- A registry has the last description under each name, and what it has built it would build again. -/
structure Current (env : Environment) (configs : List TypeConfig) (r : Registry) : Prop where
  readsFrom : r.env = env
  ordered : Dict.Ordered r.configs
  latest : ∀ name, Dict.find? name r.configs = configs.find? fun config => config.name = name
  built : ∀ name t, Dict.find? name r.built = some t → builtAnew env configs name = .ok t

section Steps

variable {env : Environment} {configs : List TypeConfig} {r : Registry} {name : String}

theorem current_empty (env : Environment) : Current env [] (Registry.empty env) where
  readsFrom := rfl
  ordered := Dict.ordered_nil
  latest _ := rfl
  built _ _ none := by cases none

theorem Current.register (current : Current env configs r) (config : TypeConfig) :
    Current env (config :: configs) (r.register config) where
  readsFrom := current.readsFrom
  ordered := current.ordered.put config.name config
  latest name := by
    rw [Registry.register, Dict.find?_put, current.latest, List.find?_cons]
    by_cases same : config.name = name <;> simp [same]
  built name t found := by
    rw [Registry.register, Dict.find?_remove] at found
    split at found
    · cases found
    · next other =>
        -- A description under another name changes nothing for this one.
        have kept := current.built name t found
        rwa [builtAnew, List.find?_cons_of_neg (by simpa using Ne.symm other), ← builtAnew]

/-- A type that is asked for is answered as if nothing had been built before. -/
theorem Current.get (current : Current env configs r) (name : String) :
    (r.get name).1 = builtAnew env configs name ∧ Current env configs (r.get name).2 := by
  have latest := current.latest name
  cases described : Dict.find? name r.configs with
  | none =>
      rw [described] at latest
      rw [Registry.get, described, builtAnew, ← latest]
      exact ⟨rfl, current⟩
  | some config =>
      rw [described] at latest
      have anew : builtAnew env configs name = DocumentType.build r.env config := by
        rw [builtAnew, ← latest, current.readsFrom]
      -- A type kept from before was built from the configuration that still holds.
      cases kept : Dict.find? name r.built with
      | some t =>
          rw [Registry.get, described, kept]
          exact ⟨(current.built name t kept).symm, current⟩
      | none =>
          cases outcome : DocumentType.build r.env config with
          | error fault =>
              have asked : r.get name = (.error fault, r) := by simp only [Registry.get, described, kept, outcome]
              rw [asked, anew, outcome]
              exact ⟨rfl, current⟩
          | ok t =>
              have asked : r.get name = (.ok t, { r with built := Dict.put name t r.built }) := by
                simp only [Registry.get, described, kept, outcome]
              rw [asked, anew, outcome]
              refine ⟨rfl, current.readsFrom, current.ordered, current.latest, fun other u found => ?_⟩
              rw [Dict.find?_put] at found
              split at found
              · next same =>
                  cases found
                  rw [← same, anew, outcome]
              · exact current.built other u found

theorem Current.getEach (current : Current env configs r) (names : List String) :
    (r.getEach names).1 = names.mapM (builtAnew env configs) ∧ Current env configs (r.getEach names).2 := by
  induction names generalizing r with
  | nil => exact ⟨rfl, current⟩
  | cons name rest ih =>
      obtain ⟨first, kept⟩ := current.get name
      rw [Registry.getEach, List.mapM_cons, ← first]
      cases asked : r.get name with
      | mk outcome next =>
          rw [asked] at kept
          cases outcome with
          | error fault => exact ⟨rfl, kept⟩
          | ok t =>
              obtain ⟨others, still⟩ := ih kept
              rw [← others]
              dsimp only
              cases further : next.getEach rest with
              | mk outcome last =>
                  rw [further] at still
                  cases outcome with
                  | error fault => exact ⟨rfl, still⟩
                  | ok ts => exact ⟨rfl, still⟩

theorem Current.mem_names_iff (current : Current env configs r) :
    name ∈ r.names ↔ ∃ config ∈ configs, config.name = name := by
  have listed : name ∈ r.names ↔ Dict.has name r.configs = true := by
    refine ⟨fun member => ?_, Dict.mem_keys⟩
    obtain ⟨entry, stored, rfl⟩ := List.mem_map.mp member
    exact Dict.has_of_mem stored
  rw [listed, Dict.has, current.latest, List.find?_isSome]
  simp

theorem Current.act (current : Current env configs r) (request : Request) :
    Current env (request.config?.toList ++ configs) (request.act r) := by
  cases request with
  | register config => exact current.register config
  | get name => exact (current.get name).2
  | validateAll => exact (current.getEach r.names).2

end Steps

theorem after_current (env : Environment) (requests : List Request) :
    Current env (described requests) ((Registry.empty env).after requests) := by
  induction requests using List.reverseRecOn with
  | nil => exact current_empty env
  | append_singleton requests request ih =>
      rw [after_append, described_append]
      exact ih.act request

/-- After any run of requests a type that is asked for is the one that would be built anew from the
last description under its name, and the types of all names in order are answered up to the first
one that cannot be built. -/
theorem answers_as_built_anew (env : Environment) (requests : List Request) :
    (∀ name, (((Registry.empty env).after requests).get name).1 = builtAnew env (described requests) name) ∧
      ∃ names : List String, names.Pairwise (· < ·) ∧
        (∀ name, name ∈ names ↔ ∃ config ∈ described requests, config.name = name) ∧
        ((Registry.empty env).after requests).validateAll.1 = names.mapM (builtAnew env (described requests)) := by
  have current := after_current env requests
  refine ⟨fun name => (current.get name).1, _, ?_, fun name => current.mem_names_iff, (current.getEach _).1⟩
  exact List.pairwise_map.mpr current.ordered

end DocMapper.Registry
