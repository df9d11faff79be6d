import PayloadCipher.Proofs.Creation

/-! Construction of ciphers. What a constructor makes of its arguments hangs on their types, and for
two keys also on whether they belong together. A cipher that has a name is never changed: the name
holds the same object until something else is built or created under it. -/

namespace PayloadCipher

/-- The ways to construct a cipher of a key. One of them takes a private key besides, or nothing in
its place. -/
inductive Constructor where
  | ofKey
  | ofPublicKey
  | ofPrivateKey
  | ofPair (privateKey : Value)

inductive Slot where
  | anyKey
  | publicKey
  | privateKey
  | optionalPrivateKey

def Slot.accepts : Slot → Value → Bool
  | anyKey, .publicKey _ | anyKey, .privateKey _ => true
  | publicKey, .publicKey _ => true
  | privateKey, .privateKey _ => true
  | optionalPrivateKey, .absent | optionalPrivateKey, .privateKey _ => true
  | _, _ => false

/-- The cipher holds the keys that are among the values, and no other private key. -/
structure Cipher.Holds (cipher : Cipher) (values : List Value) : Prop where
  publicKey_eq : ∀ key, .publicKey key ∈ values → cipher.publicKey = key
  privateKey_iff : ∀ key, cipher.privateKey = some key ↔ .privateKey key ∈ values

theorem Cipher.holds_of_publicKey {cipher : Cipher} (h : cipher.privateKey = none) :
    cipher.Holds [.publicKey cipher.publicKey] :=
  ⟨by simp [eq_comm], by simp [h]⟩

theorem Cipher.holds_of_privateKey {cipher : Cipher} {key : PrivateKey}
    (h : cipher.privateKey = some key) : cipher.Holds [.privateKey key] :=
  ⟨by simp, by simp [h, eq_comm]⟩

namespace Constructor

def construct (key : Value) : Constructor → Except Fault Cipher
  | ofKey => Cipher.ofKey key
  | ofPublicKey => Cipher.ofPublicKey key
  | ofPrivateKey => Cipher.ofPrivateKey key
  | ofPair privateKey => Cipher.ofPair key privateKey

def arguments (key : Value) : Constructor → List (Slot × Value)
  | ofKey => [(.anyKey, key)]
  | ofPublicKey => [(.publicKey, key)]
  | ofPrivateKey => [(.privateKey, key)]
  | ofPair privateKey => [(.publicKey, key), (.optionalPrivateKey, privateKey)]

section Outcome

variable (c : Constructor) (key : Value)

def values : List Value := (c.arguments key).map Prod.snd

def firstUnfit? : Option Value :=
  ((c.arguments key).find? fun a => !a.1.accepts a.2).map Prod.snd

def Mismatched : Prop :=
  ∃ k p, c = ofPair (.privateKey p) ∧ key = .publicKey k ∧ p.publicKey.identity ≠ k.identity

def Fits : Prop :=
  (∀ a ∈ c.arguments key, a.1.accepts a.2 = true) ∧ ¬ c.Mismatched key

variable {c key}

theorem firstUnfit?_eq_none_iff :
    c.firstUnfit? key = none ↔ ∀ a ∈ c.arguments key, a.1.accepts a.2 = true := by
  simp [firstUnfit?]

theorem construct_of_unfit {v : Value} (h : c.firstUnfit? key = some v) :
    c.construct key = .error (.invalidKeyType v.typeName) := by
  cases c with
  | ofPair privateKey => cases key <;> cases privateKey <;> cases h <;> rfl
  | _ => cases key <;> cases h <;> rfl

theorem construct_of_mismatched (h : c.Mismatched key) : c.construct key = .error .keyMismatch := by
  obtain ⟨k, p, rfl, rfl, hne⟩ := h
  rw [construct, Cipher.ofPair, dif_neg hne]

theorem exists_construct_of_fits (h : c.Fits key) : ∃ cipher, c.construct key = .ok cipher := by
  obtain ⟨haccepts, hpaired⟩ := h
  rw [← firstUnfit?_eq_none_iff] at haccepts
  cases c with
  | ofPair privateKey =>
    cases key with
    | publicKey k =>
      cases privateKey with
      | absent => exact ⟨_, rfl⟩
      | privateKey p =>
        have heq : p.publicKey.identity = k.identity :=
          Decidable.by_contra fun hne => hpaired ⟨k, p, rfl, rfl, hne⟩
        rw [construct, Cipher.ofPair, dif_pos heq]
        exact ⟨_, rfl⟩
      | _ => cases haccepts
    | _ => cases privateKey <;> cases haccepts
  | _ => cases key <;> first | exact ⟨_, rfl⟩ | cases haccepts

theorem holds_of_construct {cipher : Cipher} (h : c.construct key = .ok cipher) :
    cipher.Holds (c.values key) := by
  cases c with
  | ofKey =>
    cases key with
    | publicKey k =>
      cases h
      exact Cipher.holds_of_publicKey rfl
    | privateKey p =>
      cases h
      exact Cipher.holds_of_privateKey rfl
    | _ => cases h
  | ofPublicKey =>
    cases key with
    | publicKey k =>
      cases h
      exact Cipher.holds_of_publicKey rfl
    | _ => cases h
  | ofPrivateKey =>
    cases key with
    | privateKey p =>
      cases h
      exact Cipher.holds_of_privateKey rfl
    | _ => cases h
  | ofPair privateKey =>
    cases key with
    | publicKey k =>
      cases privateKey with
      | absent =>
        cases h
        exact ⟨by simp [values, arguments, eq_comm], by simp [values, arguments]⟩
      | privateKey p =>
        rw [construct, Cipher.ofPair] at h
        split at h
        case isTrue =>
          cases h
          exact ⟨by simp [values, arguments, eq_comm], by simp [values, arguments, eq_comm]⟩
        case isFalse => cases h
      | _ => cases h
    | _ => cases privateKey <;> cases h

theorem unfit_or_mismatched_or_fits (c : Constructor) (key : Value) :
    (∃ v, c.firstUnfit? key = some v) ∨ c.Mismatched key ∨ c.Fits key := by
  by_cases hmismatched : c.Mismatched key
  · exact .inr (.inl hmismatched)
  · cases hunfit : c.firstUnfit? key with
    | some v => exact .inl ⟨v, rfl⟩
    | none => exact .inr (.inr ⟨firstUnfit?_eq_none_iff.1 hunfit, hmismatched⟩)

theorem exists_construct_iff : (∃ cipher, c.construct key = .ok cipher) ↔ c.Fits key := by
  refine ⟨?_, exists_construct_of_fits⟩
  rintro ⟨cipher, hcipher⟩
  rcases unfit_or_mismatched_or_fits c key with ⟨v, hunfit⟩ | hmismatched | hfits
  · rw [construct_of_unfit hunfit] at hcipher
    cases hcipher
  · rw [construct_of_mismatched hmismatched] at hcipher
    cases hcipher
  · exact hfits

theorem exists_value_fault_iff :
    (∃ fault, c.construct key = .error fault ∧ fault.kind = .value) ↔ c.Mismatched key := by
  constructor
  · rintro ⟨fault, hfault, hkind⟩
    rcases unfit_or_mismatched_or_fits c key with ⟨v, hunfit⟩ | hmismatched | hfits
    · rw [construct_of_unfit hunfit] at hfault
      cases hfault
      cases hkind
    · exact hmismatched
    · obtain ⟨cipher, hcipher⟩ := exists_construct_of_fits hfits
      rw [hcipher] at hfault
      cases hfault
  · exact fun h => ⟨.keyMismatch, construct_of_mismatched h, rfl⟩

end Outcome

end Constructor

namespace Service

def constructorOf : Builder → Action Constructor
  | .ofKey => pure .ofKey
  | .ofPublicKey => pure .ofPublicKey
  | .ofPrivateKey => pure .ofPrivateKey
  | .ofPair privateKey => do return .ofPair (← resolve privateKey)

def constructed (builder : Builder) (key : Argument) : Action Cipher := do
  let v ← resolve key
  let c ← constructorOf builder
  Action.ofExcept (c.construct v)

theorem constructorOf_still (builder : Builder) : (constructorOf builder).Still := by
  cases builder with
  | ofPair privateKey => exact .bind (resolve_still privateKey) fun _ => .pure _
  | _ => exact .pure _

theorem constructed_still (builder : Builder) (key : Argument) : (constructed builder key).Still :=
  .bind (resolve_still key) fun _ => .bind (constructorOf_still builder) fun _ => .ofExcept _

theorem build_eq (v : Value) (builder : Builder) :
    build v builder = constructorOf builder >>= fun c => Action.ofExcept (c.construct v) := by
  cases builder with
  | ofPair privateKey =>
    rw [build, constructorOf, Action.bind_assoc]
    rfl
  | _ => rfl

theorem perform_build (builder : Builder) (key : Argument) (name : String) (s : Service) :
    perform (.build builder key name) s =
      match (constructed builder key s).1 with
      | .ok c => (.ok (.product (Value.cipher c).summary),
          { s with
            named := Fields.set name ⟨.cipher c, s.namesGiven⟩ s.named
            namesGiven := s.namesGiven + 1 })
      | .error fault => (.error fault, s) := by
  have hbuild : (resolve key >>= fun v => build v builder) = constructed builder key := by
    simp only [build_eq, constructed]
  have hstill := constructed_still builder key s
  rw [perform, ← Action.bind_assoc, hbuild]
  cases h : constructed builder key s with
  | mk result t =>
    rw [h] at hstill
    obtain rfl : t = s := hstill
    cases result with
    | ok c =>
      rw [Action.bind_of_ok h]
      rfl
    | error fault => rw [Action.bind_of_error h]

end Service

namespace Operation
open Service

/-- Constructions and creations, what ciphers do, and attempts to change their fields. -/
def handlesCiphers : Operation → Bool
  | .build .. | .create .. | .encrypt .. | .decrypt .. | .signature _ | .describe _ | .same ..
  | .changeField .. | .contracts _ => true
  | _ => false

def namings : Operation → Service → Fields Value
  | .build builder key name, s =>
    match (constructed builder key s).1 with
    | .ok c => [(name, .cipher c)]
    | .error _ => []
  | .create key algorithm name, s =>
    match (created key algorithm s).1 with
    | .ok product => [(name, product)]
    | .error _ => []
  | _, _ => []

def namingsAll : List Operation → Service → Fields Value
  | [], _ => []
  | op :: ops, s => op.namings s ++ namingsAll ops (perform op s).2

end Operation

namespace Service

/-- Between two states the values were given their names in order, each as one object, and no other
name was given. -/
def Gains (namings : Fields Value) (s t : Service) : Prop :=
  ∃ objects : Fields Named, objects.map (fun o => (o.1, o.2.value)) = namings ∧
    t.named = Fields.merge s.named objects

namespace Gains

variable {namings more : Fields Value} {s t u : Service}

theorem nothing (h : t.named = s.named) : Gains [] s t := ⟨[], rfl, h⟩

theorem one {name : String} {value : Value} {serial : Nat}
    (h : t.named = Fields.set name ⟨value, serial⟩ s.named) : Gains [(name, value)] s t :=
  ⟨[(name, ⟨value, serial⟩)], rfl, h⟩

theorem append (h : Gains namings s t) (hmore : Gains more t u) : Gains (namings ++ more) s u := by
  obtain ⟨objects, rfl, ht⟩ := h
  obtain ⟨others, rfl, hu⟩ := hmore
  refine ⟨objects ++ others, List.map_append, ?_⟩
  rw [hu, ht, Fields.merge, Fields.merge, Fields.merge, List.foldl_append]

theorem value_eq (h : Gains namings s t) (name : String) :
    (Fields.get? t.named name).map Named.value =
      (Fields.get? namings.reverse name).or ((Fields.get? s.named name).map Named.value) := by
  obtain ⟨objects, rfl, ht⟩ := h
  rw [ht, Fields.get?_merge, ← List.map_reverse, Fields.get?_map fun _ => Named.value]
  cases Fields.get? objects.reverse name <;> rfl

theorem object_eq (h : Gains namings s t) {name : String} (hname : name ∉ Fields.names namings) :
    Fields.get? t.named name = Fields.get? s.named name := by
  obtain ⟨objects, rfl, ht⟩ := h
  have hnone : Fields.get? objects.reverse name = none := by
    rw [Fields.get?_eq_none_iff, Fields.mem_names_reverse]
    simpa [Fields.names] using hname
  rw [ht, Fields.get?_merge, hnone, Option.none_or]

end Gains

theorem perform_changeField (change : FieldChange) (name field : String) (s : Service) :
    perform (.changeField change name field) s =
      match Fields.get? s.named name with
      | some object =>
        match object.value.changeMember ((s.members.lookup object.serial).getD []) change field with
        | .ok taken => (.ok .nothing, { s with members := (object.serial, taken) :: s.members })
        | .error fault => (.error fault, s)
      | none => (.error (.unknownName name), s) := by
  rw [perform]
  cases h : Fields.get? s.named name with
  | some object =>
    rw [Action.bind_of_ok (lookUp_of_some h), Action.ask_bind]
    dsimp only
    cases object.value.changeMember ((s.members.lookup object.serial).getD []) change field <;> rfl
  | none => rw [Action.bind_of_error (lookUp_of_none h)]

theorem perform_changeField_of_cipher {name : String} {s : Service} {object : Named}
    {cipher : Cipher} (h : Fields.get? s.named name = some object)
    (hcipher : object.value = .cipher cipher) (change : FieldChange) (field : String) :
    perform (.changeField change name field) s =
      (.error (if field ∈ ["public_key", "private_key"] then .frozenField change.verb field
        else .brokenGuard), s) := by
  obtain ⟨value, serial⟩ := object
  obtain rfl : value = .cipher cipher := hcipher
  have hrefused : (Value.cipher cipher).changeMember ((s.members.lookup serial).getD []) change
      field = .error (if field ∈ ["public_key", "private_key"] then .frozenField change.verb field
        else .brokenGuard) := (apply_ite Except.error _ _ _).symm
  rw [perform_changeField, h]
  dsimp only
  rw [hrefused]

theorem named_perform_changeField (change : FieldChange) (name field : String) (s : Service) :
    (perform (.changeField change name field) s).2.named = s.named := by
  rw [perform_changeField]
  split
  · split <;> rfl
  · rfl

theorem perform_encrypt_anonymous (cipher : Reference) (plaintext : Argument)
    (keepAs opener : Option String) :
    (perform (.encrypt cipher plaintext keepAs opener)).Anonymous := by
  rw [perform]
  exact .bind (.still (cipherOf_still cipher)) fun v =>
    .bind (.still (resolve_still plaintext)) fun p =>
      encryptWith_relates (R := fun s t => t.named = s.named) (fun _ => rfl)
        (fun h h' => h'.trans h) (fun _ => rfl) (fun _ _ => rfl) v p keepAs opener

theorem gains_perform {op : Operation} (h : op.handlesCiphers = true) (s : Service) :
    Gains (op.namings s) s (perform op s).2 := by
  cases op with
  | build builder key name =>
    rw [perform_build, Operation.namings]
    split
    · exact .one rfl
    · exact .nothing rfl
  | create key algorithm name =>
    have hnamed := created_anonymous key algorithm s
    obtain ⟨serial, count, hperform⟩ := perform_create key algorithm name s
    rw [hperform, Operation.namings]
    cases hcreated : created key algorithm s with
    | mk result t =>
      rw [hcreated] at hnamed
      cases result with
      | ok product => exact .one (congrArg (Fields.set name ⟨product, serial⟩) hnamed)
      | error fault => exact .nothing hnamed
  | encrypt cipher plaintext keepAs opener => exact .nothing (perform_encrypt_anonymous _ _ _ _ s)
  | changeField change name field => exact .nothing (named_perform_changeField ..)
  | decrypt | signature | describe | same | contracts =>
    refine .nothing ?_
    rw [perform_still rfl]
  | _ => cases h

theorem gains_performAll {ops : List Operation} (h : ∀ op ∈ ops, op.handlesCiphers = true)
    (s : Service) : Gains (Operation.namingsAll ops s) s (performAll ops s).2 := by
  induction ops generalizing s with
  | nil =>
    rw [performAll]
    exact .nothing rfl
  | cons op ops ih =>
    rw [List.forall_mem_cons] at h
    rw [performAll_cons, Operation.namingsAll]
    exact (gains_perform h.1 s).append (ih h.2 _)

/-- A constructor succeeds if its arguments fit, refuses two keys that do not belong together, and
otherwise tells the type of the first argument that is not what it has to be. After any operations
on ciphers a name holds what was last built or created under it, and a name that was not given holds
the same object as before. A cipher that has a name holds keys that belong together, and no member of
it can be changed; only its fields are refused by name. -/
theorem ciphers_as_constructed :
    (∀ (c : Constructor) (key : Value),
      ((∃ cipher, c.construct key = .ok cipher) ↔ c.Fits key) ∧
      (∀ cipher, c.construct key = .ok cipher → cipher.Holds (c.values key)) ∧
      ((∃ fault, c.construct key = .error fault ∧ fault.kind = .value) ↔ c.Mismatched key) ∧
      (¬ c.Fits key → ¬ c.Mismatched key → ∃ v, c.firstUnfit? key = some v ∧
        c.construct key = .error (.invalidKeyType v.typeName))) ∧
    ∀ (ops : List Operation) (s : Service), (∀ op ∈ ops, op.handlesCiphers = true) →
      let t := (performAll ops s).2
      (∀ name, (Fields.get? t.named name).map Named.value =
        (Fields.get? (Operation.namingsAll ops s).reverse name).or
          ((Fields.get? s.named name).map Named.value)) ∧
      (∀ name ∉ Fields.names (Operation.namingsAll ops s),
        Fields.get? t.named name = Fields.get? s.named name) ∧
      ∀ name object cipher, Fields.get? t.named name = some object →
        object.value = .cipher cipher →
        (∀ key, cipher.privateKey = some key →
          key.publicKey.identity = cipher.publicKey.identity) ∧
        (cipher.canDecrypt = true ↔ ∃ key, cipher.privateKey = some key) ∧
        ∀ change field, perform (.changeField change name field) t =
          (.error (if field ∈ ["public_key", "private_key"] then .frozenField change.verb field
            else .brokenGuard), t) := by
  constructor
  · intro c key
    refine ⟨Constructor.exists_construct_iff, fun cipher => Constructor.holds_of_construct,
      Constructor.exists_value_fault_iff, fun hfits hmismatched => ?_⟩
    obtain ⟨v, hunfit⟩ :=
      (c.unfit_or_mismatched_or_fits key).resolve_right (not_or.2 ⟨hmismatched, hfits⟩)
    exact ⟨v, hunfit, Constructor.construct_of_unfit hunfit⟩
  · intro ops s hhandles t
    have hgains : Gains (Operation.namingsAll ops s) s t := gains_performAll hhandles s
    refine ⟨hgains.value_eq, fun name => hgains.object_eq, ?_⟩
    intro name object cipher hobject hcipher
    refine ⟨cipher.paired, by rw [Cipher.canDecrypt, Option.isSome_iff_exists], ?_⟩
    exact fun change field => perform_changeField_of_cipher hobject hcipher change field

def labelledKey (label : String) : PrivateKey :=
  .scripted ⟨⟨2048, .reverse, .octets [], label⟩, .reverse⟩

def repeatedNames : List Operation :=
  let own : Argument := .value (.publicKey (labelledKey "own").publicKey)
  [.build .ofPrivateKey (.value (.privateKey (labelledKey "own"))) "first",
   .build (.ofPair (.value (.privateKey (labelledKey "other")))) own "first",
   .build .ofKey (.named "first") "first",
   .changeField .assign "first" "private_key",
   .create own (.text Cipher.algorithm) "second",
   .encrypt (.named "second") (.value (.octets [1, 2])) none none,
   .changeField .delete "first" "public_key",
   .build (.ofPair (.value .absent)) own "second"]

theorem ciphers_as_constructed_repeated :
    let s : Service := { supply := constantSupply }
    let t := (performAll repeatedNames s).2
    (∀ op ∈ repeatedNames, op.handlesCiphers = true) ∧
    Fields.names (Operation.namingsAll repeatedNames s) = ["first", "second", "second"] ∧
    ∃ cipher : Cipher, (Fields.get? t.named "first").map Named.value = some (.cipher cipher) ∧
      cipher.privateKey = some (labelledKey "own") ∧ cipher.canDecrypt = true ∧
      ∀ change field, perform (.changeField change "first" field) t =
        (.error (if field ∈ ["public_key", "private_key"] then .frozenField change.verb field
          else .brokenGuard), t) := by
  intro s t
  have hhandles : ∀ op ∈ repeatedNames, op.handlesCiphers = true := by decide
  have hnames : Fields.names (Operation.namingsAll repeatedNames s) =
      ["first", "second", "second"] := by decide +kernel
  obtain ⟨houtcome, hrun⟩ := ciphers_as_constructed
  obtain ⟨hfits, hholds, -⟩ := houtcome .ofPrivateKey (.privateKey (labelledKey "own"))
  obtain ⟨cipher, hcipher⟩ := hfits.2 ⟨by decide, by rintro ⟨-, -, ⟨⟩, -⟩⟩
  have hkey : cipher.privateKey = some (labelledKey "own") :=
    ((hholds cipher hcipher).privateKey_iff _).2 List.mem_cons_self
  have hlast : Fields.get? (Operation.namingsAll repeatedNames s).reverse "first" =
      some (.cipher cipher) := by
    cases hcipher
    rfl
  obtain ⟨hvalue, -, hfixed⟩ := hrun repeatedNames s hhandles
  have hfirst := hvalue "first"
  rw [hlast, Option.some_or] at hfirst
  obtain ⟨object, hobject, hobjectValue⟩ := Option.map_eq_some_iff.1 hfirst
  obtain ⟨-, hdecrypts, hchanges⟩ := hfixed "first" object cipher hobject hobjectValue
  exact ⟨hhandles, hnames, cipher, hfirst, hkey, hdecrypts.2 ⟨_, hkey⟩, hchanges⟩

end Service
end PayloadCipher
