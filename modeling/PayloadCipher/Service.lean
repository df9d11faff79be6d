import PayloadCipher.Correlation
import PayloadCipher.Log.Root
import PayloadCipher.Registry
import PayloadCipher.Settings

/-! The state of a running service, and actions on it. An action yields a result or ends in a fault;
what it changed before a fault stays changed. Everything that comes from outside, such as generated
identifiers and random seeds, is drawn from a supply that the state holds. -/

namespace PayloadCipher

/-- The identifiers and seeds to come, by how many were drawn before. -/
structure Supply where
  identifier : Nat → String
  seed : Nat → Rsa.Seed

/-- A value under a name. Two names with one serial number hold the same object. -/
structure Named where
  value : Value
  serial : Nat

structure Service where
  supply : Supply
  environment : Variables := {}
  cache : SettingsCache := {}
  registry : Registry := Registry.initial
  correlation : Correlation := {}
  root : Log.Root := Log.Root.initial
  clock : Log.Instant := {}
  seedsDrawn : Nat := 0
  /-- All that was written so far, one text for each record and handler. -/
  written : List String := []
  /-- All calls of factories so far, with the keys they were given. -/
  factoryCalls : List (Factory × Value) := []
  named : Fields Named := []
  namesGiven : Nat := 0
  /-- Members that objects took over from outside, by serial number, the latest state first. -/
  members : List (Nat × List String) := []
  kept : Fields Bytes := []
  tokens : Fields Token := []
  scopes : Fields Token := []

def Action (α : Type) : Type := Service → Except Fault α × Service

namespace Action

variable {α β : Type}

def yield (a : α) : Action α := fun s => (.ok a, s)

def fail (fault : Fault) : Action α := fun s => (.error fault, s)

def andThen (first : Action α) (next : α → Action β) : Action β := fun s =>
  match first s with
  | (.ok a, s) => next a s
  | (.error fault, s) => (.error fault, s)

instance : Monad Action where
  pure := yield
  bind := andThen

@[simp] theorem pure_apply (a : α) (s : Service) : (pure a : Action α) s = (.ok a, s) := rfl

@[simp] theorem fail_apply (fault : Fault) (s : Service) :
    (fail fault : Action α) s = (.error fault, s) := rfl

theorem bind_of_ok {first : Action α} {next : α → Action β} {s t : Service} {a : α}
    (h : first s = (.ok a, t)) : (first >>= next) s = next a t := by
  show andThen first next s = _
  simp [andThen, h]

theorem bind_of_error {first : Action α} {next : α → Action β} {s t : Service} {fault : Fault}
    (h : first s = (.error fault, t)) : (first >>= next) s = (.error fault, t) := by
  show andThen first next s = _
  simp [andThen, h]

def ofExcept (result : Except Fault α) : Action α := fun s => (result, s)

def always (change : Service → α × Service) : Action α := fun s =>
  let (a, t) := change s
  (.ok a, t)

def ask (view : Service → α) : Action α := fun s => (.ok (view s), s)

def update (change : Service → Service) : Action Unit := fun s => (.ok (), change s)

section Bind

variable (next : α → Action β) (s : Service)

@[simp] theorem ofExcept_ok_bind (a : α) : (ofExcept (.ok a) >>= next) s = next a s := rfl

@[simp] theorem ofExcept_error_bind (fault : Fault) :
    (ofExcept (.error fault) >>= next) s = (.error fault, s) := rfl

@[simp] theorem ask_bind (view : Service → α) : (ask view >>= next) s = next (view s) s := rfl

@[simp] theorem snd_bind_pure (first : Action α) (f : α → β) :
    ((first >>= fun a => pure (f a)) s).2 = (first s).2 := by
  show (andThen first (fun a => yield (f a)) s).2 = _
  rw [andThen]
  split <;> simp [yield, *]

end Bind
end Action

namespace Service

def baseSettings : Action BaseSettings := fun s =>
  let (settings, cache) := s.cache.readBase s.environment
  (.ok settings, { s with cache := cache })

def cipherSettings : Action CipherSettings := fun s =>
  let (settings, cache) := s.cache.readCipher s.environment
  (.ok settings, { s with cache := cache })

def log (call : Log.Call) : Action Unit := fun s =>
  match s.root.log s.correlation.current s.clock call with
  | .ok lines => (.ok (), { s with written := s.written ++ lines })
  | .error fault => (.error fault, s)

def configureLogging (level : String) (service : Json) (source : Log.CorrelationSource) :
    Action Unit :=
  fun s =>
    match Log.Root.configure level service source with
    | .ok root => (.ok (), { s with root := root })
    | .error fault => (.error fault, s)

def bindCorrelation (identifier : Json) : Action Token := fun s =>
  let (token, correlation) := s.correlation.bind s.supply.identifier identifier
  (.ok token, { s with correlation := correlation })

/-- Runs a body under a correlation identifier and restores what was in force before, whether the
body succeeds or not. -/
def withCorrelation {α : Type} (identifier : Json) (body : Json → Action α) : Action α := fun s =>
  let (token, correlation) := s.correlation.bind s.supply.identifier identifier
  match body correlation.current { s with correlation := correlation } with
  | (result, t) => (result, { t with correlation := t.correlation.restore token })

theorem current_withCorrelation {α : Type} (identifier : Json) (body : Json → Action α)
    (s : Service) :
    (withCorrelation identifier body s).2.correlation.current = s.correlation.current := by
  simp [withCorrelation, Correlation.restore, Correlation.previous_bind]

def drawSeed : Action Rsa.Seed := fun s =>
  (.ok (s.supply.seed s.seedsDrawn), { s with seedsDrawn := s.seedsDrawn + 1 })

end Service
end PayloadCipher
