import PayloadCipher.Proofs.Startup

/-! Which algorithm counts. One that is given overrides the settings, which are then neither looked at
nor read into the cache. A missing and an empty one are the same, and both stand for the configured
algorithm, whether that is cached or has to be read. -/

namespace PayloadCipher

theorem Action.bind_eq_of_eq {α β : Type} {a b : Action α} {s t : Service} (h : a s = b t)
    (f : α → Action β) : (a >>= f) s = (b >>= f) t := by
  show andThen a f s = andThen b f t
  rw [andThen, andThen, h]

namespace Service
open PayloadCipher.Action (Ignores)

section Ignores

variable {change : Service → Service}

theorem lookUp_ignores {α : Type} {fields : Service → Fields α}
    (h : ∀ s, fields (change s) = fields s) (name : String) :
    (lookUp fields name).Ignores change := by
  intro s
  rw [lookUp, lookUp, h]
  cases Fields.get? (fields s) name <;> rfl

theorem resolve_ignores (hnamed : ∀ s, (change s).named = s.named)
    (hkept : ∀ s, (change s).kept = s.kept) (a : Argument) : (resolve a).Ignores change := by
  cases a with
  | value v => exact .pure v
  | named name => exact .bind (lookUp_ignores hnamed name) fun _ => .pure _
  | kept name edits =>
    exact .bind (lookUp_ignores hkept name) fun _ => .bind (.ofExcept _) fun _ => .pure _

theorem serialOf_ignores (hnamed : ∀ s, (change s).named = s.named) (a : Argument) :
    (serialOf a).Ignores change := by
  cases a with
  | named name => exact .bind (lookUp_ignores hnamed name) fun _ => .pure _
  | _ => exact .pure _

theorem answering_ignores (hwritten : ∀ s, (change s).written = s.written) {action : Action Reply}
    (h : action.Ignores change) (op : Operation) (s : Service) :
    answering op action (change s) =
      ((answering op action s).1, change (answering op action s).2) := by
  simp only [answering, h s, hwritten]

end Ignores

theorem resolve_ignores_sources (cache : SettingsCache) (vars : Variables) (a : Argument) :
    (resolve a).Ignores (withSources cache vars) := by
  have hnamed (s : Service) : (withSources cache vars s).named = s.named := rfl
  have hkept (s : Service) : (withSources cache vars s).kept = s.kept := rfl
  exact resolve_ignores hnamed hkept a

section Given

variable {algorithm : Json} (hgiven : algorithm.isTruthy = true)
include hgiven

theorem create_ignores (cache : SettingsCache) (vars : Variables) (key : Value) :
    (create key algorithm).Ignores (withSources cache vars) := by
  intro s
  rw [create_of_truthy hgiven, create_of_truthy hgiven]
  exact createSelected_ignores cache vars key algorithm s

theorem perform_create_ignores (cache : SettingsCache) (vars : Variables) (key : Argument)
    (name : String) :
    (perform (.create key algorithm name)).Ignores (withSources cache vars) := by
  rw [perform]
  refine .bind (resolve_ignores_sources cache vars key) fun v =>
    .bind (create_ignores hgiven cache vars v) fun product => .bind (.ask fun _ => rfl) fun _ =>
      .ite ?_ ?_
  · have hnamed (s : Service) : (withSources cache vars s).named = s.named := rfl
    exact .bind (serialOf_ignores hnamed key) fun _ => .bind (fun _ => rfl) fun _ => .pure _
  · exact .bind (.pure _) fun _ => .bind (fun _ => rfl) fun _ => .pure _

end Given

theorem perform_create_of_resolve {key : Argument} {v : Value} {s : Service}
    (h : (resolve key s).1 = .ok v) (algorithm : Json) (name : String) :
    perform (.create key algorithm name) s =
      (do
        let product ← create v algorithm
        let serial ← if ← Action.ask lastReturnsKey then serialOf key else pure none
        nameValue name product serial
        return .product product.summary : Action Reply) s := by
  rw [perform, (resolve_still key).bind_of_ok h]

theorem perform_create_of_unresolved {key : Argument} {fault : Fault} {s : Service}
    (h : (resolve key s).1 = .error fault) (algorithm : Json) (name : String) :
    perform (.create key algorithm name) s = (.error fault, s) := by
  rw [perform, (resolve_still key).bind_of_error h]

def withCipherSettings (s : Service) : Service :=
  withSources (s.cache.readCipher s.environment).2 s.environment s

theorem create_of_configured {algorithm : Json} (h : algorithm.isTruthy = false) {s : Service}
    (hconfigured : s.cipherSettingsOf.algorithm ≠ "") (key : Value) :
    create key algorithm s = create key (.text s.cipherSettingsOf.algorithm) s.withCipherSettings := by
  have hgiven : (Json.text s.cipherSettingsOf.algorithm).isTruthy = true := by
    simpa [Json.isTruthy] using hconfigured
  rw [create_of_falsy h, create_of_truthy hgiven]
  rfl

theorem perform_create_of_configured {key : Argument} {v : Value} {s : Service}
    (hkey : (resolve key s).1 = .ok v) {algorithm : Json} (h : algorithm.isTruthy = false)
    (hconfigured : s.cipherSettingsOf.algorithm ≠ "") (name : String) :
    perform (.create key algorithm name) s =
      perform (.create key (.text s.cipherSettingsOf.algorithm) name) s.withCipherSettings := by
  have hread : (resolve key s.withCipherSettings).1 = .ok v := by
    rw [withCipherSettings, resolve_ignores_sources, hkey]
  rw [perform_create_of_resolve hkey, perform_create_of_resolve hread]
  exact Action.bind_eq_of_eq (create_of_configured h hconfigured v) _

theorem factoryCalls_create_text {a : String} (ha : a ≠ "") (key : Value) (s : Service) :
    (create key (.text a) s).2.factoryCalls =
      s.factoryCalls ++ ((s.registry.find? a).map fun factory => (factory, key)).toList := by
  have hgiven : (Json.text a).isTruthy = true := by simpa [Json.isTruthy] using ha
  rw [create_of_truthy hgiven]
  cases hfind : s.registry.find? a with
  | some factory =>
    obtain ⟨lines, hlines⟩ := createSelected_snd_of_select (select_of_find? hfind) key
    rw [hlines]
    rfl
  | none =>
    rw [createSelected_of_refused (select_of_find?_eq_none hfind)]
    exact (List.append_nil _).symm

theorem factoryCalls_perform_create (key : Argument) (algorithm : Json) (name : String)
    (s : Service) : (perform (.create key algorithm name) s).2.factoryCalls =
      (created key algorithm s).2.factoryCalls := by
  obtain ⟨serial, count, hperform⟩ := perform_create key algorithm name s
  rw [hperform]
  split
  case h_1 hcreated => rw [hcreated]
  case h_2 hcreated => rw [hcreated]

/-- An algorithm that is given overrides the settings: whatever the variables and the cache are, the
answer is the same, down to the lines and to the rest of the state, and the factory that is
registered under the algorithm is the one that is called. No algorithm and the empty one are the same
in every respect. They stand for the configured algorithm, if there is one, which may have to be read
into the cache first. -/
theorem given_algorithm_overrides (key : Argument) (name : String) (s : Service) :
    let answer (algorithm : Json) :=
      answering (.create key algorithm name) (perform (.create key algorithm name))
    let configured := s.cipherSettingsOf.algorithm
    (∀ algorithm, algorithm.isTruthy = true → ∀ cache vars,
      answer algorithm (withSources cache vars s) =
        ((answer algorithm s).1, withSources cache vars (answer algorithm s).2)) ∧
    (∀ a v, a ≠ "" → (resolve key s).1 = .ok v → (answer (.text a) s).2.factoryCalls =
      s.factoryCalls ++ ((s.registry.find? a).map fun factory => (factory, v)).toList) ∧
    answer .null s = answer (.text "") s ∧
    (configured ≠ "" → (answer .null s).1 = (answer (.text configured) s).1 ∧
      ∃ cache, (answer .null s).2 =
        withSources cache s.environment (answer (.text configured) s).2) := by
  intro answer configured
  have hsources (cache : SettingsCache) (vars : Variables) (t : Service) :
      (withSources cache vars t).written = t.written := rfl
  refine ⟨fun algorithm hgiven cache vars => ?_, fun a v ha hkey => ?_, ?_, fun hconfigured => ?_⟩
  · exact answering_ignores (hsources cache vars)
      (perform_create_ignores hgiven cache vars key name) _ s
  · have hcreated : created key (.text a) s = create v (.text a) s :=
      (resolve_still key).bind_of_ok hkey _
    exact (factoryCalls_perform_create key (.text a) name s).trans
      (hcreated ▸ factoryCalls_create_text ha v s)
  · have hsame : perform (.create key .null name) s = perform (.create key (.text "") name) s := by
      rw [perform, perform]
      rfl
    simp only [answer, answering, hsame]
  · cases hkey : (resolve key s).1 with
    | ok v =>
      -- the configured algorithm is given after the settings were read, which it does not notice
      have hgiven : (Json.text configured).isTruthy = true := by
        simpa [Json.isTruthy] using hconfigured
      have hperform : perform (.create key .null name) s =
          perform (.create key (.text configured) name) s.withCipherSettings :=
        perform_create_of_configured hkey rfl hconfigured name
      have hnull : answer .null s = answer (.text configured) s.withCipherSettings := by
        simp only [answer, answering, hperform]
        rfl
      rw [hnull, withCipherSettings]
      simp only [answer]
      rw [answering_ignores (hsources _ _) (perform_create_ignores hgiven _ _ key name)]
      exact ⟨rfl, _, rfl⟩
    | error fault =>
      simp only [answer, answering, perform_create_of_unresolved hkey]
      exact ⟨trivial, s.cache, rfl⟩

theorem given_algorithm_overrides_blanks :
    let s : Service :=
      { supply := constantSupply, environment := { cipherAlgorithm := some " other " },
        registry := ⟨[(Cipher.algorithm, .builtIn), ("other", .keyItself)]⟩,
        root := .configured .debug (.text "envelope") .current }
    let key : Value := .publicKey (.rsa ⟨3233, 17⟩)
    let answer (algorithm : Json) := answering (.create (.value key) algorithm "c")
      (perform (.create (.value key) algorithm "c"))
    s.cipherSettingsOf.algorithm = "other" ∧
    (answer (.text Cipher.algorithm) (withSources {} {} s)).1 =
      (answer (.text Cipher.algorithm) s).1 ∧
    (answer (.text Cipher.algorithm) s).2.factoryCalls = [(.builtIn, key)] ∧
    (answer .null s).1 = (answer (.text "other") s).1 ∧
    (answer (.text "other") s).2.factoryCalls = [(.keyItself, key)] := by
  intro s key answer
  have hconfigured : s.cipherSettingsOf.algorithm = "other" := by decide +kernel
  obtain ⟨hsources, hcalls, -, hsame⟩ := given_algorithm_overrides (.value key) "c" s
  rw [hconfigured] at hsame
  have hother : "other" ≠ "" := by decide
  have hown : Cipher.algorithm ≠ "" := by decide
  exact ⟨hconfigured, (Prod.ext_iff.1 (hsources (.text Cipher.algorithm) rfl {} {})).1,
    hcalls Cipher.algorithm key hown rfl, (hsame hother).1, hcalls "other" key hother rfl⟩

end Service
end PayloadCipher
