import PayloadCipher.Proofs.Boot

/-! Requests that bear on the registry, on the variables or on the settings, in any order. For each of
these three parts of the state, what a request does to it hangs on the part itself, and on the
variables where settings are read. -/

namespace PayloadCipher

def Json.ofIdentifier : Option String → Json
  | some a => .text a
  | none => .null

inductive Request where
  | register (algorithm : Option String) (factory : Factory)
  | unregister (algorithm : Option String)
  | available
  | create (key : Value) (algorithm : Option String) (name : String)
  | giveVariable (name value : Json)
  | takeVariable (name : Json)
  | clearCache (base cipher : Bool)
  | readBase
  | readCipher
  | validate
  | start

namespace Request
open Service

def operation : Request → Operation
  | register algorithm factory => .register algorithm factory
  | unregister algorithm => .unregister (.ofIdentifier algorithm)
  | available => .observe fun s => .ok (.array (s.registry.identifiers.map Json.text))
  | create key algorithm name => .create (.value key) (.ofIdentifier algorithm) name
  | giveVariable name value => .giveVariable name value
  | takeVariable name => .takeVariable name
  | clearCache base cipher => .clearCache base cipher
  | readBase => .readBase
  | readCipher => .readCipher
  | validate => .validate
  | start => .start

def reach (s : Service) (requests : List Request) : Service :=
  (performAll (requests.map operation) s).2

def onRegistry : Request → Registry → Registry
  | register algorithm factory, r => (r.register algorithm factory).toOption.getD r
  | unregister algorithm, r => (r.unregister (.ofIdentifier algorithm)).toOption.getD r
  | _, r => r

def onVariables : Request → Variables → Variables
  | giveVariable name value, vars => (vars.give name value).toOption.getD vars
  | takeVariable name, vars => (vars.take name).toOption.getD vars
  | _, vars => vars

def readsBase : Request → Bool
  | readBase | validate | start => true
  | _ => false

def readsCipher : Request → Bool
  | readCipher | validate | start => true
  | create _ algorithm _ => !(Json.ofIdentifier algorithm).isTruthy
  | _ => false

def clearsBase : Request → Bool
  | clearCache base _ => base
  | _ => false

def clearsCipher : Request → Bool
  | clearCache _ cipher => cipher
  | _ => false

def onCache (r : Request) (vars : Variables) (cache : SettingsCache) : SettingsCache where
  base := if r.clearsBase then none
    else if r.readsBase then some (cache.readBase vars).1 else cache.base
  cipher := if r.clearsCipher then none
    else if r.readsCipher then some (cache.readCipher vars).1 else cache.cipher

/-- What a request does to the parts it bears on. -/
structure Effect (r : Request) (s t : Service) : Prop where
  registry_eq : t.registry = r.onRegistry s.registry
  environment_eq : t.environment = r.onVariables s.environment
  cache_eq : t.cache = r.onCache s.environment s.cache

end Request

namespace Service
open Request

variable (s : Service)

theorem snd_perform_register (algorithm : Option String) (factory : Factory) :
    (perform (.register algorithm factory) s).2 =
      { s with registry := (s.registry.register algorithm factory).toOption.getD s.registry } := by
  rw [perform, Action.ask_bind]
  cases s.registry.register algorithm factory <;> rfl

theorem snd_perform_unregister (algorithm : Json) :
    (perform (.unregister algorithm) s).2 =
      { s with registry := (s.registry.unregister algorithm).toOption.getD s.registry } := by
  rw [perform, Action.ask_bind]
  cases s.registry.unregister algorithm <;> rfl

theorem snd_perform_giveVariable (name value : Json) :
    (perform (.giveVariable name value) s).2 =
      { s with environment := (s.environment.give name value).toOption.getD s.environment } := by
  rw [perform, Action.ask_bind]
  cases s.environment.give name value <;> rfl

theorem snd_perform_takeVariable (name : Json) :
    (perform (.takeVariable name) s).2 =
      { s with environment := (s.environment.take name).toOption.getD s.environment } := by
  rw [perform, Action.ask_bind]
  cases s.environment.take name <;> rfl

theorem snd_perform_clearCache (base cipher : Bool) :
    (perform (.clearCache base cipher) s).2 =
      { s with cache :=
          { base := if base then none else s.cache.base
            cipher := if cipher then none else s.cache.cipher } } := by
  rw [perform]
  cases base <;> cases cipher <;> rfl

theorem snd_perform_validate : (perform .validate s).2 = (validateSettings s).2 := by
  rw [perform, Action.snd_bind_pure]

theorem snd_perform_start : (perform .start s).2 = (Service.start s).2 := by
  rw [perform]
  cases h : Service.start s with
  | mk result t =>
    cases result with
    | ok _ => rw [Action.bind_of_ok h]; rfl
    | error fault => rw [Action.bind_of_error h]

theorem snd_start : ∃ lines,
    (Service.start s).2 = { s.prepared with written := s.written ++ lines } := by
  rw [start_apply]
  exact report_snd _ _ s.prepared

theorem snd_perform_create (key : Value) (algorithm : Json) (name : String) :
    ∃ named count, (perform (.create (.value key) algorithm name) s).2 =
      { (Service.create key algorithm s).2 with named := named, namesGiven := count } := by
  obtain ⟨serial, count, hperform⟩ := perform_create (.value key) algorithm name s
  have hcreated : created (.value key) algorithm s = create key algorithm s := rfl
  rw [hperform, hcreated]
  cases create key algorithm s with
  | mk result t =>
    cases result with
    | ok product => exact ⟨_, _, rfl⟩
    | error fault => exact ⟨t.named, t.namesGiven, rfl⟩

theorem effect_create (key : Value) (algorithm : Option String) (name : String) :
    Effect (.create key algorithm name) s
      (perform (.create (.value key) (.ofIdentifier algorithm) name) s).2 := by
  obtain ⟨named, count, hperform⟩ := snd_perform_create s key (.ofIdentifier algorithm) name
  obtain ⟨lines, calls, hcreate⟩ := create_snd key (.ofIdentifier algorithm) s
  rw [hperform, hcreate]
  refine ⟨rfl, rfl, ?_⟩
  cases h : (Json.ofIdentifier algorithm).isTruthy <;>
    simp [onCache, readsBase, readsCipher, clearsBase, clearsCipher, SettingsCache.readCipher, h]

end Service

namespace Request
open Service

theorem effect (r : Request) (s : Service) : r.Effect s (perform r.operation s).2 := by
  cases r with
  | register algorithm factory =>
    rw [operation, snd_perform_register]
    exact ⟨rfl, rfl, rfl⟩
  | unregister algorithm =>
    rw [operation, snd_perform_unregister]
    exact ⟨rfl, rfl, rfl⟩
  | available => exact ⟨rfl, rfl, rfl⟩
  | create key algorithm name => exact effect_create s key algorithm name
  | giveVariable name value =>
    rw [operation, snd_perform_giveVariable]
    exact ⟨rfl, rfl, rfl⟩
  | takeVariable name =>
    rw [operation, snd_perform_takeVariable]
    exact ⟨rfl, rfl, rfl⟩
  | clearCache base cipher =>
    rw [operation, snd_perform_clearCache]
    exact ⟨rfl, rfl, rfl⟩
  | readBase => exact ⟨rfl, rfl, rfl⟩
  | readCipher => exact ⟨rfl, rfl, rfl⟩
  | validate =>
    obtain ⟨lines, h⟩ := validateSettings_snd s
    rw [operation, snd_perform_validate, h]
    exact ⟨rfl, rfl, rfl⟩
  | start =>
    obtain ⟨lines, h⟩ := snd_start s
    rw [operation, snd_perform_start, h]
    exact ⟨rfl, rfl, rfl⟩

theorem reach_append (s : Service) (requests more : List Request) :
    reach s (requests ++ more) = reach (reach s requests) more := by
  rw [reach, List.map_append, performAll_append, reach, reach]

theorem reach_singleton (s : Service) (r : Request) : reach s [r] = (perform r.operation s).2 := by
  rw [reach, List.map_singleton, performAll_cons, performAll]

end Request
end PayloadCipher
