import PayloadCipher.Proofs.Request
import PayloadCipher.Proofs.Scopes

/-! What operations leave behind when they fail. Most of them look at everything before they change
anything, and then a failure leaves the state as it was. The others are those that draw from the
supply, read settings or configure the log on the way, and no more than that stays of them. -/

namespace PayloadCipher

namespace Action

variable {α β : Type}

def Sure (a : Action α) : Prop := ∀ s : Service, ∃ x, (a s).1 = .ok x

namespace Sure

theorem pure (a : α) : (Pure.pure a : Action α).Sure := fun _ => ⟨a, rfl⟩

theorem ask (view : Service → α) : (Action.ask view).Sure := fun s => ⟨view s, rfl⟩

theorem update (change : Service → Service) : (Action.update change).Sure := fun _ => ⟨(), rfl⟩

theorem bind {a : Action α} {f : α → Action β} (ha : a.Sure) (hf : ∀ x, (f x).Sure) :
    (a >>= f).Sure := by
  intro s
  obtain ⟨x, hx⟩ := ha s
  have ht : a s = (.ok x, (a s).2) := Prod.ext hx rfl
  rw [bind_of_ok ht]
  exact hf x _

end Sure

/-- Nothing has changed if the action fails. -/
def Careful (a : Action α) : Prop :=
  ∀ (s : Service) (fault : Fault), (a s).1 = .error fault → (a s).2 = s

namespace Careful

theorem still {a : Action α} (h : a.Still) : a.Careful := fun s _ _ => h s

theorem sure {a : Action α} (h : a.Sure) : a.Careful := by
  intro s fault hfault
  obtain ⟨x, hx⟩ := h s
  rw [hx] at hfault
  cases hfault

theorem after_still {a : Action α} {f : α → Action β} (ha : a.Still) (hf : ∀ x, (f x).Careful) :
    (a >>= f).Careful := by
  intro s fault hfault
  have hs := ha s
  cases ht : a s with
  | mk result t =>
    rw [ht] at hs
    obtain rfl : t = s := hs
    cases result with
    | ok x =>
      rw [bind_of_ok ht] at hfault ⊢
      exact hf x t fault hfault
    | error first => rw [bind_of_error ht]

theorem before_sure {a : Action α} {f : α → Action β} (ha : a.Careful) (hf : ∀ x, (f x).Sure) :
    (a >>= f).Careful := by
  intro s fault hfault
  cases ht : a s with
  | mk result t =>
    cases result with
    | ok x =>
      obtain ⟨y, hy⟩ := hf x t
      rw [bind_of_ok ht, hy] at hfault
      cases hfault
    | error first =>
      have hs := ha s first (by rw [ht])
      rw [ht] at hs
      rw [bind_of_error ht]
      exact hs

end Careful
end Action

/-- Operations that look at all they need before they change anything. -/
def Operation.checksFirst : Operation → Bool
  | .encrypt .. | .create .. | .start | .validate | .scope .. => false
  | _ => true

namespace Service
open PayloadCipher.Action (Sure Careful)

theorem log_careful (call : Log.Call) : (log call).Careful := by
  intro s fault hfault
  rw [log] at hfault ⊢
  split at hfault
  · cases hfault
  · rfl

theorem configureLogging_careful (level : String) (service : Json)
    (source : Log.CorrelationSource) : (configureLogging level service source).Careful := by
  intro s fault hfault
  rw [configureLogging] at hfault ⊢
  split at hfault
  · cases hfault
  · rfl

theorem announce_careful (product : Value) : (announce product).Careful := by
  refine .after_still (fun _ => rfl) fun enabled => ?_
  split
  · exact .after_still (.ofExcept _) fun _ => log_careful _
  · exact .still (.pure _)

theorem leaveScope_sure (name : String) (token : Token) : (leaveScope name token).Sure :=
  .update _

theorem vacate_sure (name : String) : (vacate name).Sure := by
  refine .bind (.ask _) fun scopes => ?_
  split
  · exact leaveScope_sure name _
  · exact .pure _

theorem perform_careful {op : Operation} (h : op.checksFirst = true) : (perform op).Careful := by
  cases op with
  | build builder key name =>
    rw [perform]
    exact .after_still (resolve_still key) fun v => .after_still (build_still v builder) fun _ =>
      .sure (.bind (.update _) fun _ => .pure _)
  | decrypt | signature | describe | same | contracts | observe =>
    exact .still (perform_still rfl)
  | changeField change name field =>
    rw [perform]
    exact .after_still (lookUp_still _ name) fun _ => .after_still (fun _ => rfl) fun _ =>
      .after_still (.ofExcept _) fun _ => .sure (.bind (.update _) fun _ => .pure _)
  | register algorithm factory =>
    rw [perform]
    exact .after_still (fun _ => rfl) fun _ => .after_still (.ofExcept _) fun _ =>
      .sure (.bind (.update _) fun _ => .pure _)
  | unregister algorithm =>
    rw [perform]
    exact .after_still (fun _ => rfl) fun _ => .after_still (.ofExcept _) fun _ =>
      .sure (.bind (.update _) fun _ => .pure _)
  | giveVariable name value =>
    rw [perform]
    exact .after_still (fun _ => rfl) fun _ => .after_still (.ofExcept _) fun _ =>
      .sure (.bind (.update _) fun _ => .pure _)
  | takeVariable name =>
    rw [perform]
    exact .after_still (fun _ => rfl) fun _ => .after_still (.ofExcept _) fun _ =>
      .sure (.bind (.update _) fun _ => .pure _)
  | clearCache base cipher =>
    rw [perform]
    cases base <;> cases cipher <;> exact .sure fun _ => ⟨_, rfl⟩
  | readBase | readCipher | readTwice | setClock | session =>
    rw [perform]
    exact .sure fun _ => ⟨_, rfl⟩
  | configure level service source =>
    rw [perform]
    exact .after_still (.ofExcept _) fun level =>
      .before_sure (configureLogging_careful level service source) fun _ =>
        .bind (.ask _) fun _ => .pure _
  | log logger severity message arguments extras =>
    rw [perform]
    refine .after_still (.ofExcept _) fun logger => ?_
    split
    · exact .before_sure (log_careful _) fun _ => .pure _
    · exact .sure (.pure _)
  | bind arguments name =>
    rw [perform]
    exact .after_still (.ofExcept _) fun identifier => .sure fun _ => ⟨_, rfl⟩
  | reset name =>
    rw [perform]
    exact .after_still (tokenOf_still name) fun _ => .after_still (fun _ => rfl) fun _ =>
      .after_still (.ofExcept _) fun _ => .sure (.bind (.update _) fun _ => .pure _)
  | enter arguments name =>
    rw [perform]
    exact .after_still (.ofExcept _) fun identifier => .sure <|
      .bind (vacate_sure name) fun _ _ => ⟨_, rfl⟩
  | leave name =>
    rw [perform]
    exact .after_still (lookUp_still _ name) fun token => .sure fun _ => ⟨_, rfl⟩
  | encrypt | create | start | validate | scope => cases h

/-- A failed operation that checks first leaves nothing for the ones after it to see: they answer as
if it had been left out. -/
theorem performAll_without_failed {op : Operation} (hop : op.checksFirst = true)
    {s : Service} {before : List Operation} {fault : Fault}
    (h : (perform op (performAll before s).2).1 = .error fault) (more : List Operation) :
    let t := (performAll before s).2
    performAll (before ++ op :: more) s =
        ((performAll before s).1 ++ (answering op (perform op) t).1 :: (performAll more t).1,
          (performAll more t).2) ∧
      performAll (before ++ more) s =
        ((performAll before s).1 ++ (performAll more t).1, (performAll more t).2) := by
  intro t
  refine ⟨?_, performAll_append before more s⟩
  rw [performAll_append, performAll_cons, perform_careful hop t fault h]

def Drawn (s t : Service) : Prop := ∃ drawn kept, t = { s with seedsDrawn := drawn, kept := kept }

theorem Drawn.trans {s t u : Service} : Drawn s t → Drawn t u → Drawn s u := by
  rintro ⟨_, _, rfl⟩ ⟨_, _, rfl⟩
  exact ⟨_, _, rfl⟩

theorem drawn_still {α : Type} {a : Action α} (h : a.Still) (s : Service) : Drawn s (a s).2 :=
  ⟨_, _, h s⟩

theorem drawn_perform_encrypt (cipher : Reference) (plaintext : Argument)
    (keepAs opener : Option String) (s : Service) :
    Drawn s (perform (.encrypt cipher plaintext keepAs opener) s).2 := by
  rw [perform]
  refine Action.bind_relates (R := Drawn) .trans (drawn_still (cipherOf_still cipher))
    (fun v => ?_) s
  refine Action.bind_relates (R := Drawn) .trans (drawn_still (resolve_still plaintext)) fun p => ?_
  exact encryptWith_relates (R := Drawn) (fun s => ⟨_, _, rfl⟩) .trans (fun _ => ⟨_, _, rfl⟩)
    (fun _ _ => ⟨_, _, rfl⟩) v p keepAs opener

theorem readCipher_snd_ne {cache : SettingsCache} {vars : Variables}
    (h : (cache.readCipher vars).2 ≠ cache) : cache.cipher = none ∧
      (cache.readCipher vars).2 = { cache with cipher := some (.ofVariables vars) } := by
  cases hcipher : cache.cipher with
  | none =>
    rw [SettingsCache.readCipher, hcipher]
    exact ⟨rfl, rfl⟩
  | some settings => exact absurd (by rw [SettingsCache.readCipher_of_some hcipher]) h

theorem snd_create_of_error {key : Value} {algorithm : Json} {s : Service} {fault : Fault}
    (h : (create key algorithm s).1 = .error fault) :
    (create key algorithm s).2 = (made key algorithm s).2 := by
  rw [create_eq] at h ⊢
  cases hmade : made key algorithm s with
  | mk result t =>
    cases result with
    | error first => rw [Action.bind_of_error hmade]
    | ok product =>
      rw [Action.bind_of_ok hmade] at h ⊢
      exact (announce_careful product).before_sure (fun _ => .pure _) t fault h

theorem snd_created_of_error {key : Argument} {algorithm : Json} {s t : Service} {fault : Fault}
    (h : created key algorithm s = (.error fault, t)) :
    t = s ∨ ∃ v, t = (made v algorithm s).2 := by
  have hstill := resolve_still key s
  rw [created] at h
  cases hresolve : resolve key s with
  | mk result u =>
    rw [hresolve] at hstill
    obtain rfl : u = s := hstill
    cases result with
    | error first =>
      rw [Action.bind_of_error hresolve] at h
      cases h
      exact .inl rfl
    | ok v =>
      rw [Action.bind_of_ok hresolve] at h
      have hcreate := snd_create_of_error (congrArg Prod.fst h)
      rw [h] at hcreate
      exact .inr ⟨v, hcreate⟩

end Service

/-- How a failed operation may have changed the state. Encryption draws seeds and may keep octets.
Creation calls factories, and loads the cipher settings if it has to look them up there and they were
not loaded. Validation and start fill both caches with the settings that reading them gives, and write
lines; a start configures the log as any other start with these base settings does, and just as a
request for that configuration. A scope puts the identifier back. Nothing else leaves anything. -/
def Operation.FailsInto : Operation → Service → Service → Prop
  | .encrypt .., s, t => s.Drawn t
  | .create _ algorithm _, s, t => ∃ cache calls,
    t = { s with cache := cache, factoryCalls := s.factoryCalls ++ calls } ∧
      (cache ≠ s.cache → algorithm.isTruthy = false ∧ s.cache.cipher = none ∧
        cache = { s.cache with cipher := some (.ofVariables s.environment) })
  | .validate, s, t => ∃ base cipher lines,
    (Service.perform .readBase s).1 = .ok (.base base) ∧
      (Service.perform .readCipher s).1 = .ok (.cipher cipher) ∧
      t = { s with cache := ⟨some base, some cipher⟩, written := s.written ++ lines }
  | .start, s, t => ∃ base cipher root lines,
    (Service.perform .readBase s).1 = .ok (.base base) ∧
      (Service.perform .readCipher s).1 = .ok (.cipher cipher) ∧
      t = { s with
        cache := ⟨some base, some cipher⟩
        root := root
        written := s.written ++ lines } ∧
      (∀ u, (Service.perform .readBase u).1 = .ok (.base base) →
        (Service.perform .start u).2.root = root) ∧
      Service.perform (.configure (.text base.startLevelName) (.text base.serviceName) .current) s =
        (.ok (.root root), { s with root := root })
  | .scope .., s, t => t.correlation.current = s.correlation.current
  | _, s, t => t = s

namespace Service

theorem failsInto_create {key : Argument} {algorithm : Json} {name : String} {s : Service}
    {fault : Fault} (h : (perform (.create key algorithm name) s).1 = .error fault) :
    (Operation.create key algorithm name).FailsInto s (perform (.create key algorithm name) s).2 := by
  obtain ⟨serial, count, hperform⟩ := perform_create key algorithm name s
  rw [hperform] at h ⊢
  cases hcreated : created key algorithm s with
  | mk result t =>
    rw [hcreated] at h
    cases result with
    | ok product => cases h
    | error first =>
      rcases snd_created_of_error hcreated with rfl | ⟨v, rfl⟩
      · exact ⟨t.cache, [], by rw [List.append_nil], fun hne => absurd rfl hne⟩
      · obtain ⟨calls, hmade⟩ := made_snd v algorithm s
        refine ⟨_, calls, hmade, fun hne => ?_⟩
        cases htruthy : algorithm.isTruthy with
        | true => exact absurd (if_pos htruthy) hne
        | false =>
          rw [htruthy] at hne
          exact ⟨rfl, readCipher_snd_ne hne⟩

theorem failsInto_start (s : Service) : Operation.start.FailsInto s (perform .start s).2 := by
  obtain ⟨lines, hstart⟩ := snd_start s
  refine ⟨(s.cache.readBase s.environment).1, s.cipherSettingsOf, s.prepared.root, lines, rfl, rfl,
    ?_, fun u hu => ?_, ?_⟩
  · rw [snd_perform_start, hstart]
    rfl
  · have hbase : (u.cache.readBase u.environment).1 = (s.cache.readBase s.environment).1 :=
      Reply.base.inj (Except.ok.inj hu)
    rw [snd_perform_start, root_start, prepared, hbase]
    rfl
  · have hlevel : (Json.text (s.cache.readBase s.environment).1.startLevelName).textFor "upper" =
        .ok (s.cache.readBase s.environment).1.startLevelName := rfl
    rw [perform_configure, hlevel]
    dsimp only
    rw [BaseSettings.parse?_startLevelName]
    rfl

/-- An operation that fails leaves the state as it was, but for what its kind allows. -/
theorem failure_leaves_state {op : Operation} {s : Service} {fault : Fault}
    (h : (perform op s).1 = .error fault) : op.FailsInto s (perform op s).2 := by
  cases op with
  | encrypt cipher plaintext keepAs opener =>
    exact drawn_perform_encrypt cipher plaintext keepAs opener s
  | create key algorithm name => exact failsInto_create h
  | start => exact failsInto_start s
  | validate =>
    obtain ⟨lines, hvalidate⟩ := validateSettings_snd s
    refine ⟨(s.cache.readBase s.environment).1, s.cipherSettingsOf, lines, rfl, rfl, ?_⟩
    rw [snd_perform_validate, hvalidate]
    rfl
  | scope arguments steps first => exact Operation.current_perform_scope arguments steps first s
  | _ => exact perform_careful rfl s fault h

theorem failure_leaves_state_staging :
    let s : Service := { supply := constantSupply, environment := stagingVariables }
    let t := (perform .start s).2
    (∃ fault, (perform .start s).1 = .error fault) ∧
    t = { s with
      cache := ⟨some (.ofVariables stagingVariables), some (.ofVariables stagingVariables)⟩
      root := (perform (.configure (.text "INFO") (.text "") .current) s).2.root
      written := t.written } ∧
    (perform (.create (.value .absent) (.text "x") "own") s).2.cache = s.cache ∧
    (perform (.register (some "") .builtIn) s).2 = s := by
  intro s t
  have hloaded : s.LoadedFrom stagingVariables stagingVariables := ⟨rfl, rfl⟩
  have htime : (⟨⟨0⟩, ⟨0⟩⟩ : Log.Moment).text = .ok "1970-01-01 00:00:00,000" := by decide +kernel
  have hproblems : Variables.bootProblems stagingVariables stagingVariables Registry.initial ≠ [] := by
    decide +kernel
  have hstrict : stagingVariables.bootIsStrict = true := by decide +kernel
  have hstart := hloaded.start_eq rfl htime
  dsimp only at hstart
  rw [if_pos ⟨hproblems, hstrict⟩] at hstart
  obtain ⟨fault, hfault⟩ : ∃ fault, (perform .start s).1 = .error fault := by
    rw [perform, Action.bind_of_error hstart]
    exact ⟨_, rfl⟩
  have hregister : (perform (.register (some "") .builtIn) s).1 = .error .emptyIdentifier := rfl
  have hcreate : (perform (.create (.value .absent) (.text "x") "own") s).1 =
      .error (.unsupportedAlgorithm "x" ["RSA-OAEP-SHA512"]) := rfl
  refine ⟨⟨fault, hfault⟩, ?_, ?_, failure_leaves_state hregister⟩
  · obtain ⟨base, cipher, root, lines, hbase, hcipher, ht, -, hroot⟩ :=
      failure_leaves_state hfault
    obtain rfl : .ofVariables stagingVariables = base := Reply.base.inj (Except.ok.inj hbase)
    obtain rfl : .ofVariables stagingVariables = cipher := Reply.cipher.inj (Except.ok.inj hcipher)
    have hlevel : (BaseSettings.ofVariables stagingVariables).startLevelName = "INFO" := by
      decide +kernel
    have hservice : (BaseSettings.ofVariables stagingVariables).serviceName = "" := rfl
    rw [hlevel, hservice] at hroot
    have hwritten : t.written = s.written ++ lines := congrArg Service.written ht
    rw [hroot, hwritten]
    exact ht
  · obtain ⟨cache, calls, ht, hcache⟩ := failure_leaves_state hcreate
    rw [ht]
    by_contra hne
    obtain ⟨hfalsy, -⟩ := hcache hne
    exact absurd hfalsy (by decide)

end Service
end PayloadCipher
