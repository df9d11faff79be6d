import PayloadCipher.Proofs.Registry

/-! Creation of a cipher once its algorithm is selected. The look-up decides whether a factory is
called, and which. Besides that call and lines in the log nothing changes, and neither the variables
nor the cached settings are looked at. The product then gets its name. -/

namespace PayloadCipher

/-- The action neither looks at what the change sets nor changes it. -/
def Action.Ignores {α : Type} (change : Service → Service) (a : Action α) : Prop :=
  ∀ s, a (change s) = ((a s).1, change (a s).2)

namespace Action.Ignores

variable {α β : Type} {change : Service → Service}

theorem pure (a : α) : (Pure.pure a : Action α).Ignores change := fun _ => rfl

theorem ofExcept (result : Except Fault α) : (Action.ofExcept result).Ignores change :=
  fun _ => rfl

theorem ask {view : Service → α} (h : ∀ s, view (change s) = view s) :
    (Action.ask view).Ignores change := by
  intro s
  simp [Action.ask, h]

theorem bind {a : Action α} {f : α → Action β} (ha : a.Ignores change)
    (hf : ∀ x, (f x).Ignores change) : (a >>= f).Ignores change := by
  intro s
  have hfirst := ha s
  cases ht : a s with
  | mk result t =>
    rw [ht] at hfirst
    cases result with
    | ok x => rw [bind_of_ok ht, bind_of_ok hfirst, hf]
    | error fault => rw [bind_of_error ht, bind_of_error hfirst]

theorem ite {c : Prop} [Decidable c] {a b : Action α} (ha : a.Ignores change)
    (hb : b.Ignores change) : (if c then a else b).Ignores change := by
  split
  · exact ha
  · exact hb

end Action.Ignores

def Action.Anonymous {α : Type} (a : Action α) : Prop := ∀ s : Service, (a s).2.named = s.named

namespace Action.Anonymous

variable {α β : Type}

theorem still {a : Action α} (h : a.Still) : a.Anonymous := fun s => congrArg Service.named (h s)

theorem bind {a : Action α} {f : α → Action β} (ha : a.Anonymous) (hf : ∀ x, (f x).Anonymous) :
    (a >>= f).Anonymous :=
  bind_relates (R := fun s t => t.named = s.named) (fun h h' => h'.trans h) ha hf

end Action.Anonymous

theorem SettingsCache.readCipher_of_some {cache : SettingsCache} {settings : CipherSettings}
    (h : cache.cipher = some settings) (vars : Variables) :
    cache.readCipher vars = (settings, cache) := by
  rw [readCipher, h, Option.getD_some, ← h]

def Value.signature? (product : Value) : Except Fault (Option Json) :=
  if product.satisfies Contract.keyNaming then product.signature.map some else .ok none

namespace Service

theorem log_snd (call : Log.Call) (s : Service) :
    ∃ lines, (log call s).2 = { s with written := s.written ++ lines } := by
  rw [log]
  split
  · exact ⟨_, rfl⟩
  · exact ⟨[], by simp⟩

def told (algorithm : Json) (decryption signature : Option Json) : Fields Json :=
  [("component", .text "cipher_registry"), ("algorithm", algorithm)] ++
    (decryption.map fun v => ("can_decrypt", v)).toList ++
    (signature.map fun v => ("key_signature", v)).toList

theorem announcementOf_eq (product : Value) :
    announcementOf product =
      product.algorithm.bind fun algorithm => product.canDecrypt?.bind fun decryption =>
        product.signature?.map (told algorithm decryption) := by
  rw [announcementOf, Value.signature?]
  cases product.algorithm with
  | error fault => rfl
  | ok algorithm =>
    cases product.canDecrypt? with
    | error fault => rfl
    | ok decryption =>
      simp only [bind, Except.bind, pure, Except.pure]
      split
      case isTrue => cases product.signature <;> simp [told, Except.map]
      case isFalse => simp [told, Except.map]

theorem announcementOf_eq_ok_iff {product : Value} {extras : Fields Json} :
    announcementOf product = .ok extras ↔ ∃ algorithm decryption signature,
      product.algorithm = .ok algorithm ∧ product.canDecrypt? = .ok decryption ∧
      product.signature? = .ok signature ∧ extras = told algorithm decryption signature := by
  rw [announcementOf_eq]
  cases product.algorithm with
  | error fault => simp [Except.bind]
  | ok algorithm =>
    cases product.canDecrypt? with
    | error fault => simp [Except.bind]
    | ok decryption =>
      cases product.signature? with
      | error fault => simp [Except.bind, Except.map]
      | ok signature => simp [Except.bind, Except.map, eq_comm]

theorem announce_snd (product : Value) (s : Service) :
    ∃ lines, (announce product s).2 = { s with written := s.written ++ lines } := by
  have still : ∃ lines, s = { s with written := s.written ++ lines } := ⟨[], by simp⟩
  rw [announce, Action.ask_bind]
  split
  · cases announcementOf product with
    | ok extras =>
      rw [Action.ofExcept_ok_bind]
      exact log_snd _ s
    | error fault => exact still
  · exact still

theorem selectedAlgorithm_apply (algorithm : Json) (s : Service) :
    selectedAlgorithm algorithm s =
      (.ok (if algorithm.isTruthy then algorithm
          else .text (s.cache.readCipher s.environment).1.algorithm),
        { s with
          cache := if algorithm.isTruthy then s.cache
            else (s.cache.readCipher s.environment).2 }) := by
  rw [selectedAlgorithm]
  split <;> rfl

/-- What comes before the announcement in a creation. -/
def made (key : Value) (algorithm : Json) : Action Value := do
  let selected ← selectedAlgorithm algorithm
  let registry ← Action.ask (·.registry)
  let factory ← Action.ofExcept (registry.select selected)
  callFactory factory key

theorem create_eq (key : Value) (algorithm : Json) :
    create key algorithm = (do
      let product ← made key algorithm
      announce product
      return product) := by
  rw [create, made, Action.bind_assoc]
  congr
  funext selected
  rw [Action.bind_assoc]
  congr
  funext registry
  rw [Action.bind_assoc]

theorem made_apply (key : Value) (algorithm : Json) (s : Service) :
    made key algorithm s =
      match s.registry.select (if algorithm.isTruthy then algorithm
          else .text (s.cache.readCipher s.environment).1.algorithm) with
      | .error fault => (.error fault,
          { s with
            cache := if algorithm.isTruthy then s.cache
              else (s.cache.readCipher s.environment).2 })
      | .ok factory => (factory.make key,
          { s with
            cache := if algorithm.isTruthy then s.cache
              else (s.cache.readCipher s.environment).2
            factoryCalls := s.factoryCalls ++ [(factory, key)] }) := by
  rw [made, Action.bind_of_ok (selectedAlgorithm_apply algorithm s), Action.ask_bind]
  dsimp only
  cases s.registry.select (if algorithm.isTruthy then algorithm
      else .text (s.cache.readCipher s.environment).1.algorithm) with
  | error fault => rw [Action.ofExcept_error_bind]
  | ok factory =>
    rw [Action.ofExcept_ok_bind]
    rfl

theorem made_snd (key : Value) (algorithm : Json) (s : Service) : ∃ calls,
    (made key algorithm s).2 =
      { s with
        cache := if algorithm.isTruthy then s.cache else (s.cache.readCipher s.environment).2
        factoryCalls := s.factoryCalls ++ calls } := by
  rw [made_apply]
  split
  · exact ⟨[], by simp⟩
  · exact ⟨_, rfl⟩

def createSelected (key : Value) (selected : Json) : Action Value := do
  let registry ← Action.ask (·.registry)
  let factory ← Action.ofExcept (registry.select selected)
  let product ← callFactory factory key
  announce product
  return product

theorem create_of_truthy {algorithm : Json} (h : algorithm.isTruthy = true) (key : Value)
    (s : Service) : create key algorithm s = createSelected key algorithm s := by
  rw [create, selectedAlgorithm, if_pos h]
  rfl

theorem create_of_falsy {algorithm : Json} (h : algorithm.isTruthy = false) (key : Value)
    (s : Service) :
    create key algorithm s =
      createSelected key (.text (s.cache.readCipher s.environment).1.algorithm)
        { s with cache := (s.cache.readCipher s.environment).2 } := by
  rw [create, selectedAlgorithm, if_neg (by simp [h])]
  rfl

theorem createSelected_of_select {selected : Json} {factory : Factory} {s : Service}
    (h : s.registry.select selected = .ok factory) (key : Value) :
    createSelected key selected s =
      (do
        let product ← callFactory factory key
        announce product
        return product : Action Value) s := by
  rw [createSelected, Action.ask_bind, h, Action.ofExcept_ok_bind]

theorem createSelected_of_refused {selected : Json} {fault : Fault} {s : Service}
    (h : s.registry.select selected = .error fault) (key : Value) :
    createSelected key selected s = (.error fault, s) := by
  rw [createSelected, Action.ask_bind, h, Action.ofExcept_error_bind]

theorem createSelected_snd_of_select {selected : Json} {factory : Factory} {s : Service}
    (h : s.registry.select selected = .ok factory) (key : Value) :
    ∃ lines, (createSelected key selected s).2 =
      { s with
        written := s.written ++ lines
        factoryCalls := s.factoryCalls ++ [(factory, key)] } := by
  rw [createSelected_of_select h]
  cases hcall : callFactory factory key s with
  | mk result t =>
    have ht : t = { s with factoryCalls := s.factoryCalls ++ [(factory, key)] } :=
      (congrArg Prod.snd hcall).symm
    cases result with
    | ok product =>
      obtain ⟨lines, hlines⟩ := announce_snd product t
      rw [Action.bind_of_ok hcall, Action.snd_bind_pure, hlines, ht]
      exact ⟨lines, rfl⟩
    | error fault =>
      rw [Action.bind_of_error hcall, ht]
      exact ⟨[], by simp⟩

theorem select_of_find? {r : Registry} {a : String} {factory : Factory}
    (h : r.find? a = some factory) : r.select (.text a) = .ok factory := by
  rw [Registry.select, h]

theorem select_of_find?_eq_none {r : Registry} {a : String} (h : r.find? a = none) :
    r.select (.text a) = .error (.unsupportedAlgorithm a r.identifiers) := by
  rw [Registry.select, h]

theorem create_snd (key : Value) (algorithm : Json) (s : Service) :
    ∃ lines calls, (create key algorithm s).2 =
      { s with
        cache := if algorithm.isTruthy then s.cache else (s.cache.readCipher s.environment).2
        written := s.written ++ lines
        factoryCalls := s.factoryCalls ++ calls } := by
  obtain ⟨calls, hsnd⟩ := made_snd key algorithm s
  rw [create_eq]
  cases hmade : made key algorithm s with
  | mk result t =>
    rw [hmade] at hsnd
    obtain rfl : t = _ := hsnd
    cases result with
    | error fault =>
      rw [Action.bind_of_error hmade]
      exact ⟨[], calls, by simp⟩
    | ok product =>
      rw [Action.bind_of_ok hmade, Action.snd_bind_pure]
      obtain ⟨lines, hlines⟩ := announce_snd product _
      exact ⟨lines, calls, hlines⟩

def created (key : Argument) (algorithm : Json) : Action Value := do
  let v ← resolve key
  create v algorithm

theorem created_anonymous (key : Argument) (algorithm : Json) :
    (created key algorithm).Anonymous :=
  .bind (.still (resolve_still key)) fun v s => by
    obtain ⟨lines, calls, h⟩ := create_snd v algorithm s
    rw [h]

theorem exists_serialOf {key : Argument} {algorithm : Json} {s t : Service} {product : Value}
    (h : created key algorithm s = (.ok product, t)) :
    ∃ serial, serialOf key t = (.ok serial, t) := by
  cases key with
  | named name =>
    have hnamed := created_anonymous (.named name) algorithm s
    rw [h] at hnamed
    cases hobject : Fields.get? s.named name with
    | some object =>
      rw [← hnamed] at hobject
      exact ⟨_, Action.bind_of_ok (lookUp_of_some hobject)⟩
    | none =>
      rw [created, resolve, Action.bind_of_error (Action.bind_of_error (lookUp_of_none hobject))] at h
      cases h
  | _ => exact ⟨none, rfl⟩

/-- A creation that succeeds names its product, which may be an object that has a name already. -/
theorem perform_create (key : Argument) (algorithm : Json) (name : String) (s : Service) :
    ∃ serial count, perform (.create key algorithm name) s =
      match created key algorithm s with
      | (.ok product, t) =>
        (.ok (.product product.summary), { t with
            named := Fields.set name ⟨product, serial⟩ t.named
            namesGiven := count })
      | (.error fault, t) => (.error fault, t) := by
  rw [perform, ← Action.bind_assoc]
  cases h : created key algorithm s with
  | mk result t =>
    cases result with
    | error fault =>
      rw [created] at h
      rw [Action.bind_of_error h]
      exact ⟨0, 0, rfl⟩
    | ok product =>
      obtain ⟨serial, hserial⟩ := exists_serialOf h
      rw [created] at h
      rw [Action.bind_of_ok h, Action.ask_bind]
      split
      · rw [Action.bind_of_ok hserial]
        exact ⟨_, _, rfl⟩
      · exact ⟨_, _, rfl⟩

section Ignores

variable (cache : SettingsCache) (vars : Variables)

def withSources (s : Service) : Service := { s with cache := cache, environment := vars }

theorem log_ignores (call : Log.Call) : (log call).Ignores (withSources cache vars) := by
  intro s
  have hlog : (withSources cache vars s).root.log (withSources cache vars s).correlation.current
      (withSources cache vars s).clock call =
        s.root.log s.correlation.current s.clock call := rfl
  rw [log, log, hlog]
  cases s.root.log s.correlation.current s.clock call <;> rfl

theorem announce_ignores (product : Value) :
    (announce product).Ignores (withSources cache vars) :=
  .bind (.ask fun _ => rfl) fun _ =>
    .ite (.bind (.ofExcept _) fun _ => log_ignores cache vars _) (.pure _)

theorem createSelected_ignores (key : Value) (selected : Json) :
    (createSelected key selected).Ignores (withSources cache vars) :=
  .bind (.ask fun _ => rfl) fun _ => .bind (.ofExcept _) fun _ => .bind (fun _ => rfl) fun product =>
    .bind (announce_ignores cache vars product) fun _ => .pure _

end Ignores

end Service
end PayloadCipher
