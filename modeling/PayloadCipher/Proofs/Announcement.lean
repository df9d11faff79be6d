import PayloadCipher.Proofs.Boot

/-! What debugging changes in the creation of a cipher. Selection and the call of the factory do not
look at the log, and without debugging nothing comes after them. With debugging the product is
announced, which only a product that withholds an answer can make fail. -/

namespace PayloadCipher

namespace Value

/-- What comes of reading `can_decrypt` from the product, if it has such a member. -/
def ownCanDecrypt? : Value → Option (Except Fault Json)
  | cipher c => some (.ok (.bool c.canDecrypt))
  | testCipher c => c.canDecrypt
  | _ => none

theorem exists_canDecrypt?_iff {product : Value} {decryption : Option Json}
    (h : product.canDecrypt? = .ok decryption) :
    decryption.isSome = true ↔ ∃ v, product.ownCanDecrypt? = some (.ok v) ∧ v ≠ .null := by
  cases product with
  | cipher c =>
    cases h
    simp [ownCanDecrypt?]
  | testCipher c =>
    rw [canDecrypt?] at h
    rw [ownCanDecrypt?]
    split at h
    case h_1 hnone =>
      cases h
      simp [hnone]
    case h_2 hnull =>
      cases h
      simp [hnull]
    case h_3 v hne hsome =>
      cases h
      simpa [hsome] using hne
    case h_4 fault hfault =>
      split at h
      · cases h
        simp [hfault]
      · cases h
  | _ =>
    cases h
    simp [ownCanDecrypt?]

theorem canDecrypt?_eq_error_iff {product : Value} {fault : Fault} :
    product.canDecrypt? = .error fault ↔
      product.ownCanDecrypt? = some (.error fault) ∧ fault.isMissing = false := by
  cases product with
  | testCipher c =>
    rw [canDecrypt?, ownCanDecrypt?]
    split
    case h_4 raised hraised =>
      rw [hraised, Option.some.injEq, Except.error.injEq]
      split
      case isTrue hmissing =>
        simp only [reduceCtorEq, false_iff, not_and]
        rintro rfl
        simpa using hmissing
      case isFalse hmissing =>
        rw [Except.error.injEq, iff_self_and]
        rintro rfl
        simpa using hmissing
    all_goals simp [*]
  | _ => simp [canDecrypt?, ownCanDecrypt?]

/-- Asked for its algorithm, for whether it can decrypt, and for its signature if it names its key,
the product answers with a fault. The questions come in this order. -/
inductive Withholds (product : Value) : Fault → Prop
  | algorithm {fault : Fault} (h : product.algorithm = .error fault) : Withholds product fault
  | decryption {algorithm : Json} {fault : Fault} (halgorithm : product.algorithm = .ok algorithm)
      (h : product.ownCanDecrypt? = some (.error fault)) (hmissing : fault.isMissing = false) :
      Withholds product fault
  | signature {algorithm : Json} {decryption : Option Json} {fault : Fault}
      (halgorithm : product.algorithm = .ok algorithm)
      (hdecryption : product.canDecrypt? = .ok decryption)
      (hnames : product.satisfies Contract.keyNaming = true)
      (h : product.signature = .error fault) : Withholds product fault

theorem withholds_of_not_mem {product : Value}
    (h : "encryption_algorithm" ∉ Fields.names product.members) :
    product.Withholds (.missingMember product.fullTypeName "encryption_algorithm") := by
  refine .algorithm ?_
  cases product with
  | cipher c => simp [members, Fields.names] at h
  | testCipher c => simp [members, Fields.names] at h
  | _ => rfl

theorem not_withholds_cipher {c : Cipher} {numbers : Rsa.PublicNumbers}
    (h : c.publicKey = .rsa numbers) (fault : Fault) : ¬ (cipher c).Withholds fault := by
  intro hwithholds
  cases hwithholds with
  | algorithm hfault => cases hfault
  | decryption _ hfault => cases hfault
  | signature _ _ _ hfault =>
    rw [signature, Cipher.signature, h] at hfault
    cases hfault

inductive IsRsaKey : Value → Prop
  | publicKey (numbers : Rsa.PublicNumbers) : IsRsaKey (.publicKey (.rsa numbers))
  | privateKey (numbers : Rsa.PrivateNumbers) : IsRsaKey (.privateKey (.rsa numbers))

theorem IsRsaKey.exists_cipher {key : Value} (h : key.IsRsaKey) : ∃ c numbers,
    Factory.builtIn.make key = .ok (.cipher c) ∧ c.publicKey = .rsa numbers := by
  cases h with
  | publicKey numbers => exact ⟨⟨.rsa numbers, none, by simp⟩, numbers, rfl, rfl⟩
  | privateKey numbers =>
    exact ⟨⟨.rsa numbers.publicNumbers, some (.rsa numbers), by rintro k ⟨⟩; rfl⟩,
      numbers.publicNumbers, rfl, rfl⟩

end Value

namespace Service

theorem signature?_eq_error_iff {product : Value} {fault : Fault} :
    product.signature? = .error fault ↔
      product.satisfies Contract.keyNaming = true ∧ product.signature = .error fault := by
  rw [Value.signature?]
  split
  case isTrue hnames => cases product.signature <;> simp [hnames, Except.map]
  case isFalse hnames => simp [hnames]

theorem signature?_eq_ok {product : Value} {signature : Option Json}
    (h : product.signature? = .ok signature) :
    signature.isSome = product.satisfies Contract.keyNaming := by
  rw [Value.signature?] at h
  split at h
  case isTrue hnames =>
    rw [hnames]
    cases hsignature : product.signature with
    | ok v =>
      rw [hsignature] at h
      cases h
      rfl
    | error fault =>
      rw [hsignature] at h
      cases h
  case isFalse hnames =>
    cases h
    exact (Bool.eq_false_iff.2 hnames).symm

theorem announcementOf_eq_error_iff {product : Value} {fault : Fault} :
    announcementOf product = .error fault ↔ product.Withholds fault := by
  rw [announcementOf_eq]
  constructor
  · intro h
    cases halgorithm : product.algorithm with
    | error first =>
      rw [halgorithm] at h
      cases h
      exact .algorithm halgorithm
    | ok algorithm =>
      cases hdecryption : product.canDecrypt? with
      | error second =>
        rw [halgorithm, hdecryption] at h
        cases h
        obtain ⟨hown, hmissing⟩ := Value.canDecrypt?_eq_error_iff.1 hdecryption
        exact .decryption halgorithm hown hmissing
      | ok decryption =>
        cases hsignature : product.signature? with
        | error last =>
          rw [halgorithm, hdecryption, hsignature] at h
          cases h
          obtain ⟨hnames, hfault⟩ := signature?_eq_error_iff.1 hsignature
          exact .signature halgorithm hdecryption hnames hfault
        | ok signature =>
          rw [halgorithm, hdecryption, hsignature] at h
          cases h
  · intro h
    cases h with
    | algorithm h =>
      rw [h]
      rfl
    | decryption halgorithm hown hmissing =>
      rw [halgorithm, Value.canDecrypt?_eq_error_iff.2 ⟨hown, hmissing⟩]
      rfl
    | signature halgorithm hdecryption hnames h =>
      rw [halgorithm, hdecryption, signature?_eq_error_iff.2 ⟨hnames, h⟩]
      rfl

def withRoot (root : Log.Root) (s : Service) : Service := { s with root := root }

theorem selectedAlgorithm_ignores (root : Log.Root) (algorithm : Json) :
    (selectedAlgorithm algorithm).Ignores (withRoot root) :=
  .ite (.pure _) (.bind (fun _ => rfl) fun _ => .pure _)

theorem made_ignores (root : Log.Root) (key : Value) (algorithm : Json) :
    (made key algorithm).Ignores (withRoot root) :=
  .bind (selectedAlgorithm_ignores root algorithm) fun _ => .bind (.ask fun _ => rfl) fun _ =>
    .bind (.ofExcept _) fun _ _ => rfl

theorem made_fst (key : Value) (algorithm : Json) (s : Service) :
    (made key algorithm s).1 = (s.registry.select
      (if algorithm.isTruthy then algorithm else .text s.cipherSettingsOf.algorithm)).bind
        fun factory => factory.make key := by
  rw [made_apply, cipherSettingsOf]
  split
  case h_1 fault h => rw [h, Except.bind]
  case h_2 factory h => rw [h, Except.bind]

section Announce

variable {s : Service} {product : Value}

theorem announce_of_disabled (h : s.root.isEnabled Log.Level.debug.severity = false)
    (product : Value) : announce product s = (.ok (), s) := by
  rw [announce, Action.ask_bind, h]
  rfl

theorem announce_of_withholds (h : s.root.isEnabled Log.Level.debug.severity = true)
    {fault : Fault} (hfault : product.Withholds fault) :
    announce product s = (.error fault, s) := by
  rw [announce, Action.ask_bind, if_pos h, announcementOf_eq_error_iff.2 hfault,
    Action.ofExcept_error_bind]

def announcedFields (s : Service) (service : Json) (source : Log.CorrelationSource) (time : String)
    (extras : Fields Json) : Fields Json :=
  [("asctime", .text time), ("level", .text "DEBUG"), ("logger", .text loggerName),
   ("message", .text "cipher_created"),
   ("correlation_id", source.identifier s.correlation.current), ("service", service)] ++ extras

theorem plainNames_told (algorithm : Json) (decryption signature : Option Json) :
    Log.PlainNames (Fields.names (told algorithm decryption signature)) := by
  have hboth : Log.PlainNames ["component", "algorithm", "can_decrypt", "key_signature"] :=
    ⟨by decide, by decide, by decide⟩
  have hdecrypts : Log.PlainNames ["component", "algorithm", "can_decrypt"] :=
    ⟨by decide, by decide, by decide⟩
  have hsignature : Log.PlainNames ["component", "algorithm", "key_signature"] :=
    ⟨by decide, by decide, by decide⟩
  have hneither : Log.PlainNames ["component", "algorithm"] :=
    ⟨by decide, by decide, by decide⟩
  rw [told]
  cases decryption with
  | some v =>
    cases signature with
    | some w => exact hboth
    | none => exact hdecrypts
  | none =>
    cases signature with
    | some w => exact hsignature
    | none => exact hneither

/-- The answers that a product gives when it is announced. -/
structure Answers (product : Value) (algorithm : Json) (decryption signature : Option Json) :
    Prop where
  algorithm_eq : product.algorithm = .ok algorithm
  decryption_eq : product.canDecrypt? = .ok decryption
  signature_eq : product.signature? = .ok signature

theorem exists_answers {product : Value} (h : ∀ fault, ¬ product.Withholds fault) :
    ∃ algorithm decryption signature, Answers product algorithm decryption signature ∧
      announcementOf product = .ok (told algorithm decryption signature) := by
  cases hannouncement : announcementOf product with
  | error fault => exact absurd (announcementOf_eq_error_iff.1 hannouncement) (h fault)
  | ok extras =>
    obtain ⟨algorithm, decryption, signature, halgorithm, hdecryption, hsignature, rfl⟩ :=
      announcementOf_eq_ok_iff.1 hannouncement
    exact ⟨algorithm, decryption, signature, ⟨halgorithm, hdecryption, hsignature⟩, rfl⟩

theorem announce_of_answers {service : Json} {source : Log.CorrelationSource}
    (hroot : s.root = Log.Root.configured .debug service source) {now : Log.Moment} {time : String}
    (hnow : s.clock.moment = .ok now) (htime : now.text = .ok time) {algorithm : Json}
    {decryption signature : Option Json}
    (h : announcementOf product = .ok (told algorithm decryption signature)) :
    let fields := s.announcedFields service source time (told algorithm decryption signature)
    announce product s = (.ok (), { s with
      written := s.written ++ if (Json.object fields).isTooLong then []
        else [(Json.object fields).render] }) := by
  intro fields
  have henabled : s.root.isEnabled Log.Level.debug.severity = true := by
    rw [hroot]
    rfl
  have hlevel : Log.severityName Log.Level.debug.severity = "DEBUG" := rfl
  have hadmits : Log.Level.debug.admits Log.Level.debug.severity = true := rfl
  have hwhen (long : Bool) (line : String) :
      (if !long then [line] else []) = if long then [] else [line] := by cases long <;> rfl
  rw [announce, Action.ask_bind, if_pos henabled, h, Action.ofExcept_ok_bind,
    log_of_plain hroot hnow htime ⟨rfl, rfl, rfl, rfl, plainNames_told _ _ _⟩
      (Log.Level.isTooLong_severity .debug),
    Log.Call.plainFields, hadmits, hlevel, Bool.true_and, hwhen]
  rfl

end Announce

theorem Answers.mem_names_iff {product : Value} {algorithm : Json}
    {decryption signature : Option Json} (h : Answers product algorithm decryption signature)
    (s : Service) (service : Json) (source : Log.CorrelationSource) (time : String) :
    let names := Fields.names
      (s.announcedFields service source time (told algorithm decryption signature))
    ("key_signature" ∈ names ↔ product.satisfies Contract.keyNaming = true) ∧
      ("can_decrypt" ∈ names ↔ ∃ v, product.ownCanDecrypt? = some (.ok v) ∧ v ≠ .null) := by
  intro names
  rw [← signature?_eq_ok h.signature_eq, ← Value.exists_canDecrypt?_iff h.decryption_eq]
  simp only [names, announcedFields, told]
  cases decryption <;> cases signature <;> simp [Fields.names]

theorem isEnabled_configured_debug {level : Log.Level} (h : level ≠ .debug) (service : Json)
    (source : Log.CorrelationSource) :
    (Log.Root.configured level service source).isEnabled Log.Level.debug.severity = false := by
  cases level with
  | debug => exact absurd rfl h
  | _ => rfl

theorem create_withRoot (key : Value) (algorithm : Json) (s : Service) (root : Log.Root) :
    create key algorithm (s.withRoot root) =
      match (made key algorithm s).1 with
      | .error fault => (.error fault, (made key algorithm s).2.withRoot root)
      | .ok product =>
        (do
          announce product
          return product : Action Value) ((made key algorithm s).2.withRoot root) := by
  have hmade := made_ignores root key algorithm s
  rw [create_eq]
  cases hresult : (made key algorithm s).1 with
  | error fault =>
    rw [hresult] at hmade
    exact Action.bind_of_error hmade
  | ok product =>
    rw [hresult] at hmade
    exact Action.bind_of_ok hmade

theorem create_withRoot_snd (key : Value) (algorithm : Json) (s : Service) (root : Log.Root) :
    ∃ lines, (create key algorithm (s.withRoot root)).2 =
      { (made key algorithm s).2.withRoot root with
        written := (made key algorithm s).2.written ++ lines } := by
  rw [create_withRoot]
  split
  · exact ⟨[], by simp [withRoot]⟩
  case h_2 product _ =>
    rw [Action.snd_bind_pure]
    exact announce_snd product _

theorem create_of_disabled {root : Log.Root}
    (h : root.isEnabled Log.Level.debug.severity = false) (key : Value) (algorithm : Json)
    (s : Service) : create key algorithm (s.withRoot root) =
      ((made key algorithm s).1, (made key algorithm s).2.withRoot root) := by
  rw [create_withRoot]
  split
  case h_1 fault hresult => rw [hresult]
  case h_2 product hresult =>
    rw [Action.bind_of_ok (announce_of_disabled h product), hresult]
    rfl

section Debugging

variable {s : Service} {key : Value} {algorithm : Json} {product : Value}
  (hmade : (made key algorithm s).1 = .ok product)
include hmade

theorem create_of_withholds {root : Log.Root}
    (h : root.isEnabled Log.Level.debug.severity = true) {fault : Fault}
    (hfault : product.Withholds fault) : create key algorithm (s.withRoot root) =
      (.error fault, (made key algorithm s).2.withRoot root) := by
  rw [create_withRoot, hmade]
  exact Action.bind_of_error (announce_of_withholds h hfault)

theorem create_of_answers {now : Log.Moment} {time : String} (hnow : s.clock.moment = .ok now)
    (htime : now.text = .ok time) {name : Json} {decryption signature : Option Json}
    (h : announcementOf product = .ok (told name decryption signature)) (service : Json)
    (source : Log.CorrelationSource) :
    let fields := s.announcedFields service source time (told name decryption signature)
    create key algorithm (s.withRoot (.configured .debug service source)) =
      (.ok product, { (made key algorithm s).2.withRoot (.configured .debug service source) with
        written := s.written ++ if (Json.object fields).isTooLong then []
          else [(Json.object fields).render] }) := by
  intro fields
  obtain ⟨calls, hsnd⟩ := made_snd key algorithm s
  have hannounce := announce_of_answers
    (s := (made key algorithm s).2.withRoot (.configured .debug service source)) rfl
    (by rw [hsnd]; exact hnow) htime h
  rw [create_withRoot, hmade]
  dsimp only
  rw [Action.bind_of_ok hannounce, hsnd]
  rfl

end Debugging

/-- Debugging adds to a creation its announcement and no more, while the clock shows a time that can be
written. Without it, a creation ends as the selected factory does, and nothing is written. With it,
selection and the call of the factory are the same, and so is the end, with one line about the
product, unless the product withholds an answer: that fault is the only one that debugging brings
about, and then nothing is written and nothing gets the name. Nor is a line written that would show
an integer that is too long. The built-in factory makes no product of an RSA key that withholds
anything. -/
theorem debugging_only_announces {s : Service} {now : Log.Moment} {time : String}
    (hnow : s.clock.moment = .ok now) (htime : now.text = .ok time) {level : Log.Level}
    (hlevel : level ≠ .debug) (service : Json) (source : Log.CorrelationSource) (key : Value)
    (algorithm : Json) :
    let under (level : Log.Level) : Service := s.withRoot (.configured level service source)
    let quiet := create key algorithm (under level)
    let debug := create key algorithm (under .debug)
    let selection := s.registry.select
      (if algorithm.isTruthy then algorithm else .text s.cipherSettingsOf.algorithm)
    quiet.1 = (selection.bind fun factory => factory.make key) ∧ quiet.2.written = s.written ∧
    (∃ lines, debug.2 = { quiet.2 with
      root := .configured .debug service source
      written := s.written ++ lines }) ∧
    (∀ fault, quiet.1 = .error fault → debug.1 = .error fault ∧ debug.2.written = s.written) ∧
    (∀ product, quiet.1 = .ok product →
      (∀ fault, product.Withholds fault → debug.1 = .error fault ∧ debug.2.written = s.written ∧
        ∀ name, (perform (.create (.value key) algorithm name) (under .debug)).2.named = s.named) ∧
      ("encryption_algorithm" ∉ Fields.names product.members →
        debug.1 = .error (.missingMember product.fullTypeName "encryption_algorithm")) ∧
      ((∀ fault, ¬ product.Withholds fault) → debug.1 = .ok product ∧
        ∃ name decryption signature, Answers product name decryption signature ∧
          let fields := s.announcedFields service source time (told name decryption signature)
          debug.2.written = s.written ++ (if (Json.object fields).isTooLong then []
            else [(Json.object fields).render]) ∧
          Fields.get? fields "message" = some (.text "cipher_created") ∧
          ("key_signature" ∈ Fields.names fields ↔
            product.satisfies Contract.keyNaming = true) ∧
          ("can_decrypt" ∈ Fields.names fields ↔
            ∃ v, product.ownCanDecrypt? = some (.ok v) ∧ v ≠ .null))) ∧
    (selection = .ok Factory.builtIn → key.IsRsaKey →
      ∃ c, quiet.1 = .ok (.cipher c) ∧ debug.1 = .ok (.cipher c)) := by
  intro under quiet debug selection
  have hquiet : quiet = ((made key algorithm s).1,
      (made key algorithm s).2.withRoot (.configured level service source)) :=
    create_of_disabled (isEnabled_configured_debug hlevel service source) key algorithm s
  have hresult : quiet.1 = (made key algorithm s).1 := by rw [hquiet]
  have hmade : (made key algorithm s).1 = selection.bind fun factory => factory.make key :=
    made_fst key algorithm s
  obtain ⟨calls, hsnd⟩ := made_snd key algorithm s
  have hwritten : (made key algorithm s).2.written = s.written := by rw [hsnd]
  have hnamed : (made key algorithm s).2.named = s.named := by rw [hsnd]
  refine ⟨hresult.trans hmade, (congrArg (·.2.written) hquiet).trans hwritten, ?_, ?_, ?_, ?_⟩
  · obtain ⟨lines, hlines⟩ :=
      create_withRoot_snd key algorithm s (.configured .debug service source)
    refine ⟨lines, hlines.trans ?_⟩
    rw [hquiet, hwritten]
    rfl
  · intro fault hfault
    have hdebug := create_withRoot key algorithm s (.configured .debug service source)
    rw [← hresult, hfault] at hdebug
    exact ⟨congrArg Prod.fst hdebug, (congrArg (·.2.written) hdebug).trans hwritten⟩
  · intro product hproduct
    rw [hresult] at hproduct
    have hwithheld {fault : Fault} (h : product.Withholds fault) :
        debug = (.error fault,
          (made key algorithm s).2.withRoot (.configured .debug service source)) :=
      create_of_withholds hproduct rfl h
    refine ⟨fun fault h => ?_, fun h => ?_, fun h => ?_⟩
    · have hdebug := hwithheld h
      refine ⟨congrArg Prod.fst hdebug, (congrArg (·.2.written) hdebug).trans hwritten,
        fun name => ?_⟩
      obtain ⟨_, _, hperform⟩ := perform_create (.value key) algorithm name (under .debug)
      have hcreated : created (.value key) algorithm (under .debug) = debug := rfl
      rw [hperform, hcreated, hdebug]
      exact hnamed
    · exact congrArg Prod.fst (hwithheld (Value.withholds_of_not_mem h))
    · obtain ⟨name, decryption, signature, hanswers, htold⟩ := exists_answers h
      have hdebug : debug = _ := create_of_answers hproduct hnow htime htold service source
      exact ⟨congrArg Prod.fst hdebug, name, decryption, signature, hanswers,
        congrArg (·.2.written) hdebug, rfl, hanswers.mem_names_iff s service source time⟩
  · intro h hkey
    obtain ⟨c, numbers, hmake, hnumbers⟩ := hkey.exists_cipher
    rw [h, Except.bind, hmake] at hmade
    obtain ⟨_, _, _, -, htold⟩ := exists_answers (Value.not_withholds_cipher hnumbers)
    have hdebug := create_of_answers hmade hnow htime htold service source
    exact ⟨c, hresult.trans hmade, congrArg Prod.fst hdebug⟩

def namelessCipher : TestCipher where
  label := .text "nameless"
  keyType := "RSAPublicKey"
  algorithm := .ok (.text "nameless")
  canDecrypt := some (.ok .null)
  signature := some (.error (.raised .runtime [.text "no name"]))

theorem debugging_only_announces_nameless :
    let s : Service :=
      { supply := constantSupply,
        registry := ⟨[(Cipher.algorithm, .builtIn), ("nameless", .test namelessCipher)]⟩ }
    let under (level : Log.Level) : Service :=
      s.withRoot (.configured level (.text "envelope") .current)
    let key : Value := .publicKey (.rsa ⟨3233, 17⟩)
    (create key (.text "nameless") (under .info)).1 = .ok (.testCipher namelessCipher) ∧
    (create key (.text "nameless") (under .debug)).1 = .error (.raised .runtime [.text "no name"]) ∧
    (create key (.text "nameless") (under .debug)).2.written = [] ∧
    ∃ c, (create key .null (under .info)).1 = .ok (.cipher c) ∧
      (create key .null (under .debug)).1 = .ok (.cipher c) ∧
      ∃ line, (create key .null (under .debug)).2.written = [line] := by
  intro s under key
  have htime : (⟨⟨0⟩, ⟨0⟩⟩ : Log.Moment).text = .ok "1970-01-01 00:00:00,000" := by decide +kernel
  have hlevel : Log.Level.info ≠ .debug := by decide
  have hcompared := debugging_only_announces (s := s) rfl htime hlevel (.text "envelope") .current
    key
  have hnameless : (create key (.text "nameless") (under .info)).1 =
      .ok (.testCipher namelessCipher) := rfl
  obtain ⟨-, -, -, -, hproduct, -⟩ := hcompared (.text "nameless")
  obtain ⟨hdebug, hwritten, -⟩ := (hproduct _ hnameless).1 _ (.signature rfl rfl rfl rfl)
  have hsetting : s.cipherSettingsOf.algorithm = Cipher.algorithm := by decide +kernel
  have hselect : s.registry.select
      (if Json.null.isTruthy then .null else .text s.cipherSettingsOf.algorithm) =
        .ok .builtIn := by
    rw [hsetting]
    rfl
  obtain ⟨hresult, -, -, -, hcipher, hbuiltIn⟩ := hcompared .null
  obtain ⟨c, hquiet, hsame⟩ := hbuiltIn hselect (.publicKey _)
  have hc : .ok (.cipher c) = Factory.builtIn.make key := by
    rw [← hquiet, hresult, hselect]
    rfl
  have hanswers (fault : Fault) : ¬ (Value.cipher c).Withholds fault := by
    cases hc
    exact Value.not_withholds_cipher rfl fault
  obtain ⟨-, name, decryption, signature, htold, hline, -⟩ := (hcipher _ hquiet).2.2 hanswers
  refine ⟨hnameless, hdebug, hwritten, c, hquiet, hsame, ?_⟩
  have hshort : (Json.object (s.announcedFields (.text "envelope") .current
      "1970-01-01 00:00:00,000" (told name decryption signature))).isTooLong = false := by
    obtain ⟨halgorithm, hdecryption, hsignature⟩ := htold
    cases hc
    cases halgorithm
    cases hdecryption
    cases hsignature
    have hcurrent :
        (Log.CorrelationSource.current.identifier s.correlation.current).isTooLong = false := rfl
    simpa [announcedFields, told] using hcurrent
  rw [hline, hshort]
  exact ⟨_, rfl⟩

def undecidedCipher : TestCipher where
  label := .text "undecided"
  keyType := "NoneType"
  algorithm := .ok (.text "undecided")
  canDecrypt := some (.error (.raised .runtime [.text "no answer"]))
  signature := none

def vastCipher : TestCipher where
  label := .text "vast"
  keyType := "NoneType"
  algorithm := .ok (.text "vast")
  canDecrypt := some (.ok (.int Decimal.firstTooLong))
  signature := none

/-- Debugging changes more for a product that answers with its algorithm and names no key, and it
adds no line when what it would show has no text: the time of the clock or an integer. -/
theorem debugging_changes_more :
    let s : Service :=
      { supply := constantSupply,
        registry := ⟨[("undecided", .test undecidedCipher), ("vast", .test vastCipher)]⟩ }
    let late : Service := { supply := constantSupply, clock := ⟨.int 100000000000000000000, .int 0⟩ }
    let under (level : Log.Level) (s : Service) : Service :=
      s.withRoot (.configured level (.text "envelope") .current)
    let key : Value := .publicKey (.rsa ⟨3233, 17⟩)
    ((create .absent (.text "undecided") (under .info s)).1 = .ok (.testCipher undecidedCipher) ∧
      (Value.testCipher undecidedCipher).algorithm = .ok (.text "undecided") ∧
      (Value.testCipher undecidedCipher).satisfies Contract.keyNaming = false ∧
      (create .absent (.text "undecided") (under .debug s)).1 =
        .error (.raised .runtime [.text "no answer"])) ∧
    ((create .absent (.text "vast") (under .debug s)).1 = .ok (.testCipher vastCipher) ∧
      (create .absent (.text "vast") (under .debug s)).2.written = []) ∧
    (∃ product, (create key .null (under .debug late)).1 = .ok product) ∧
      (create key .null (under .debug late)).2.written = [] := by
  intro s late under key
  refine ⟨⟨rfl, rfl, rfl, rfl⟩, ⟨rfl, by decide +kernel⟩, ?_, by decide +kernel⟩
  have hsome : (create key .null (under .debug late)).1.toOption.isSome = true := by decide +kernel
  cases hresult : (create key .null (under .debug late)).1 with
  | ok product => exact ⟨product, rfl⟩
  | error fault =>
    rw [hresult] at hsome
    cases hsome

end Service
end PayloadCipher
