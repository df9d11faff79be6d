import PayloadCipher.Proofs.Precedence
import PayloadCipher.Proofs.Construction

/-! Keys without their private numbers. With the private numbers of all RSA keys veiled, a service
that builds ciphers, describes them, tells their signatures and creates ciphers with the factory that
is there from the start gives the same answers. So two runs that only differ in private numbers are
answered alike. -/

namespace PayloadCipher

namespace Action

variable {α β γ δ : Type}

/-- From a changed state the second action does what the first one does, and its result and the state
after it are the changed ones. -/
def Carries (change : Service → Service) (f : α → β) (a : Action α) (b : Action β) : Prop :=
  ∀ s, b (change s) = ((a s).1.map f, change (a s).2)

variable {change : Service → Service} {f : α → β} {g : γ → δ}

theorem bind_carried {a : Action α} {b : Action β} {next : α → Action γ} {other : β → Action δ}
    {s : Service} (hfirst : b (change s) = ((a s).1.map f, change (a s).2))
    (hnext : ∀ x, (next x).Carries change g (other (f x))) :
    (b >>= other) (change s) = (((a >>= next) s).1.map g, change ((a >>= next) s).2) := by
  cases h : a s with
  | mk result t =>
    rw [h] at hfirst
    cases result with
    | ok x => rw [bind_of_ok h, bind_of_ok hfirst, hnext]
    | error fault =>
      rw [bind_of_error h, bind_of_error hfirst]
      rfl

namespace Carries

theorem pure {x : α} {y : β} (h : f x = y) :
    (Pure.pure x : Action α).Carries change f (Pure.pure y) := by
  rw [← h]
  exact fun _ => rfl

theorem ofExcept {result : Except Fault α} {other : Except Fault β} (h : result.map f = other) :
    (Action.ofExcept result).Carries change f (Action.ofExcept other) := by
  rw [← h]
  exact fun _ => rfl

theorem ite {c : Prop} [Decidable c] {a b : Action α} {a' b' : Action β}
    (ha : a.Carries change f a') (hb : b.Carries change f b') :
    (if c then a else b).Carries change f (if c then a' else b') := by
  split
  · exact ha
  · exact hb

theorem ignores {a : Action α} (h : a.Ignores change) : a.Carries change id a := by
  intro s
  rw [h s]
  cases (a s).1 <;> rfl

theorem bind {a : Action α} {b : Action β} {next : α → Action γ} {other : β → Action δ}
    (h : a.Carries change f b) (hnext : ∀ x, (next x).Carries change g (other (f x))) :
    (a >>= next).Carries change g (b >>= other) := fun s => bind_carried (h s) hnext

end Carries
end Action

def Rsa.PrivateNumbers.veiled (k : Rsa.PrivateNumbers) : Rsa.PrivateNumbers :=
  { k with d := 0, p := 0, q := 0 }

theorem Rsa.PrivateNumbers.veiled_eq_iff {k l : Rsa.PrivateNumbers} :
    k.veiled = l.veiled ↔ k.publicNumbers = l.publicNumbers := by
  simp [veiled, publicNumbers]

def PrivateKey.veiled : PrivateKey → PrivateKey
  | rsa numbers => rsa numbers.veiled
  | scripted key => scripted key

theorem PrivateKey.publicKey_veiled (k : PrivateKey) : k.veiled.publicKey = k.publicKey := by
  cases k <;> rfl

theorem PrivateKey.typeName_veiled (k : PrivateKey) : k.veiled.typeName = k.typeName := by
  cases k <;> rfl

def Cipher.veiled (c : Cipher) : Cipher where
  publicKey := c.publicKey
  privateKey := c.privateKey.map PrivateKey.veiled
  paired := by
    intro k hk
    obtain ⟨l, hl, rfl⟩ := Option.map_eq_some_iff.1 hk
    rw [PrivateKey.publicKey_veiled]
    exact c.paired l hl

theorem Cipher.canDecrypt_veiled (c : Cipher) : c.veiled.canDecrypt = c.canDecrypt :=
  Option.isSome_map

theorem Cipher.describe_veiled (c : Cipher) : c.veiled.describe = c.describe := by
  have hsize : c.veiled.keySize = c.keySize := rfl
  delta describe
  rw [canDecrypt_veiled, hsize]

namespace Value

def veiled : Value → Value
  | privateKey key => privateKey key.veiled
  | cipher c => cipher c.veiled
  | v => v

section Veiled

variable (v : Value)

theorem typeName_veiled : v.veiled.typeName = v.typeName := by
  cases v with
  | privateKey key => exact key.typeName_veiled
  | _ => rfl

theorem fullTypeName_veiled : v.veiled.fullTypeName = v.fullTypeName := by
  rw [fullTypeName, fullTypeName, typeName_veiled]

theorem summary_veiled : v.veiled.summary = v.summary := by
  cases v with
  | privateKey key => exact congrArg Summary.other key.typeName_veiled
  | cipher c =>
    have hprivate : c.veiled.privateKey.isSome = c.privateKey.isSome := Option.isSome_map
    rw [veiled, summary, summary, c.describe_veiled, c.canDecrypt_veiled, hprivate]
    rfl
  | _ => rfl

theorem algorithm_veiled : v.veiled.algorithm = v.algorithm := by
  cases v with
  | privateKey key =>
    have hname : (privateKey key.veiled).fullTypeName = (privateKey key).fullTypeName :=
      fullTypeName_veiled (privateKey key)
    have hmissing (k : PrivateKey) : (privateKey k).algorithm =
        .error (.missingMember (privateKey k).fullTypeName "encryption_algorithm") := rfl
    show (privateKey key.veiled).algorithm = _
    rw [hmissing, hmissing, hname]
  | _ => rfl

theorem canDecrypt?_veiled : v.veiled.canDecrypt? = v.canDecrypt? := by
  cases v with
  | cipher c => rw [veiled, canDecrypt?, canDecrypt?, c.canDecrypt_veiled]
  | _ => rfl

theorem signature_veiled : v.veiled.signature = v.signature := by
  cases v with
  | privateKey key =>
    have hname : (privateKey key.veiled).fullTypeName = (privateKey key).fullTypeName :=
      fullTypeName_veiled (privateKey key)
    have hmissing (k : PrivateKey) : (privateKey k).signature =
        .error (.missingMember (privateKey k).fullTypeName "public_key_signature") := rfl
    show (privateKey key.veiled).signature = _
    rw [hmissing, hmissing, hname]
  | _ => rfl

theorem members_veiled : v.veiled.members = v.members := by
  cases v <;> rfl

end Veiled
end Value

theorem Service.announcementOf_veiled (product : Value) :
    announcementOf product.veiled = announcementOf product := by
  have hnames : product.veiled.satisfies Contract.keyNaming =
      product.satisfies Contract.keyNaming := by
    rw [Value.satisfies, Value.members_veiled, Value.satisfies]
  have hsignature : product.veiled.signature? = product.signature? := by
    rw [Value.signature?, Value.signature?, hnames, Value.signature_veiled]
  rw [announcementOf_eq, announcementOf_eq, Value.algorithm_veiled, Value.canDecrypt?_veiled,
    hsignature]

namespace Cipher

theorem ofPublicKey_veiled (v : Value) : ofPublicKey v.veiled = (ofPublicKey v).map veiled := by
  cases v with
  | privateKey key =>
    have hrefused (k : PrivateKey) :
        ofPublicKey (.privateKey k) = .error (.invalidKeyType k.typeName) := rfl
    rw [Value.veiled, hrefused, hrefused, key.typeName_veiled]
    rfl
  | _ => rfl

theorem ofPrivateKey_veiled (v : Value) : ofPrivateKey v.veiled = (ofPrivateKey v).map veiled := by
  cases v with
  | privateKey key => cases key <;> rfl
  | _ => rfl

theorem ofKey_veiled (v : Value) : ofKey v.veiled = (ofKey v).map veiled := by
  cases v with
  | privateKey key => exact ofPrivateKey_veiled (.privateKey key)
  | _ => rfl

theorem ofPair_veiled (v w : Value) : ofPair v.veiled w.veiled = (ofPair v w).map veiled := by
  cases v with
  | publicKey key =>
    cases w with
    | privateKey priv =>
      have hpair (k : PrivateKey) : ofPair (.publicKey key) (.privateKey k) =
          if h : k.publicKey.identity = key.identity then
            .ok ⟨key, some k, by rintro _ ⟨⟩; exact h⟩
          else .error .keyMismatch := rfl
      show ofPair (.publicKey key) (.privateKey priv.veiled) = _
      rw [hpair, hpair]
      by_cases h : priv.publicKey.identity = key.identity
      · rw [dif_pos h, dif_pos (priv.publicKey_veiled ▸ h)]
        rfl
      · rw [dif_neg h, dif_neg (priv.publicKey_veiled ▸ h)]
        rfl
    | _ => rfl
  | privateKey key =>
    have hrefused (k : PrivateKey) (u : Value) :
        ofPair (.privateKey k) u = .error (.invalidKeyType k.typeName) := rfl
    rw [Value.veiled, hrefused, hrefused, key.typeName_veiled]
    rfl
  | _ => rfl

end Cipher

def Argument.veiled : Argument → Argument
  | value v => value v.veiled
  | a => a

def Reference.veiled : Reference → Reference
  | ofKey key => ofKey key.veiled
  | r => r

def Builder.veiled : Builder → Builder
  | ofPair privateKey => ofPair privateKey.veiled
  | builder => builder

def Operation.veiled : Operation → Operation
  | build builder key name => build builder.veiled key.veiled name
  | signature cipher => signature cipher.veiled
  | describe cipher => describe cipher.veiled
  | create key algorithm name => create key.veiled algorithm name
  | op => op

def Named.veiled (object : Named) : Named := { object with value := object.value.veiled }

namespace Service

/-- The state with all keys veiled, those that were handed to factories as well. -/
def veiled (s : Service) : Service :=
  { s with
    named := s.named.map fun f => (f.1, f.2.veiled)
    factoryCalls := s.factoryCalls.map fun call => (call.1, call.2.veiled) }

theorem lookUp_veiled (name : String) :
    (lookUp (·.named) name).Carries veiled Named.veiled (lookUp (·.named) name) := by
  intro s
  have hnamed : Fields.get? s.veiled.named name = (Fields.get? s.named name).map Named.veiled :=
    Fields.get?_map (fun _ => Named.veiled) s.named name
  rw [lookUp, lookUp, hnamed]
  cases Fields.get? s.named name <;> rfl

theorem resolve_veiled (a : Argument) :
    (resolve a).Carries veiled Value.veiled (resolve a.veiled) := by
  cases a with
  | value v => exact .pure rfl
  | named name => exact .bind (lookUp_veiled name) fun object => .pure rfl
  | kept name edits =>
    have hsame (s : Service) : s.veiled.kept = s.kept := rfl
    have hkept : (lookUp (·.kept) name).Ignores veiled := lookUp_ignores hsame name
    exact .bind (.ignores hkept) fun octets => .bind (.ignores (.ofExcept _)) fun b => .pure rfl

theorem cipherOf_veiled (r : Reference) :
    (cipherOf r).Carries veiled Value.veiled (cipherOf r.veiled) := by
  cases r with
  | named name => exact .bind (lookUp_veiled name) fun object => .pure rfl
  | ofKey key =>
    exact .bind (resolve_veiled key) fun v =>
      .bind (.ofExcept (Cipher.ofKey_veiled v).symm) fun c => .pure rfl

theorem build_veiled (key : Value) (builder : Builder) :
    (build key builder).Carries veiled Cipher.veiled (build key.veiled builder.veiled) := by
  cases builder with
  | ofKey => exact .ofExcept (Cipher.ofKey_veiled key).symm
  | ofPublicKey => exact .ofExcept (Cipher.ofPublicKey_veiled key).symm
  | ofPrivateKey => exact .ofExcept (Cipher.ofPrivateKey_veiled key).symm
  | ofPair privateKey =>
    exact .bind (resolve_veiled privateKey) fun w => .ofExcept (Cipher.ofPair_veiled key w).symm

theorem nameValue_veiled (name : String) (v : Value) (serial : Option Nat) :
    (nameValue name v serial).Carries veiled id (nameValue name v.veiled serial) := by
  intro s
  have hset : s.veiled.named.set name ⟨v.veiled, serial.getD s.namesGiven⟩ =
      (s.named.set name ⟨v, serial.getD s.namesGiven⟩).map fun f => (f.1, f.2.veiled) :=
    (Fields.map_set (fun _ => Named.veiled) name ⟨v, serial.getD s.namesGiven⟩ s.named).symm
  show (Except.ok (), { s.veiled with
    named := s.veiled.named.set name ⟨v.veiled, serial.getD s.namesGiven⟩
    namesGiven := s.namesGiven + 1 }) = _
  rw [hset]
  rfl

theorem serialOf_veiled (a : Argument) :
    (serialOf a).Carries veiled id (serialOf a.veiled) := by
  cases a with
  | named name => exact .bind (lookUp_veiled name) fun object => .pure rfl
  | _ => exact .pure rfl

theorem lastReturnsKey_veiled (s : Service) : lastReturnsKey s.veiled = lastReturnsKey s := by
  rw [lastReturnsKey, lastReturnsKey, veiled, List.getLast?_map]
  cases s.factoryCalls.getLast? <;> rfl

theorem log_ignores_veiled (call : Log.Call) : (log call).Ignores veiled := by
  intro s
  have hlog : s.veiled.root.log s.veiled.correlation.current s.veiled.clock call =
      s.root.log s.correlation.current s.clock call := rfl
  rw [log, log, hlog]
  cases s.root.log s.correlation.current s.clock call <;> rfl

theorem announce_veiled (product : Value) :
    (announce product).Carries veiled id (announce product.veiled) := by
  rw [announce, announce, announcementOf_veiled]
  exact .ignores (.bind (.ask fun _ => rfl) fun _ =>
    .ite (.bind (.ofExcept _) fun _ => log_ignores_veiled _) (.pure _))

def factoryFor (algorithm : Json) (s : Service) : Except Fault Factory :=
  s.registry.select
    (if algorithm.isTruthy then algorithm else .text s.cipherSettingsOf.algorithm)

theorem builtIn_veiled (key : Value) :
    Factory.builtIn.make key.veiled = (Factory.builtIn.make key).map Value.veiled := by
  show (Cipher.ofKey key.veiled).map Value.cipher = ((Cipher.ofKey key).map Value.cipher).map _
  rw [Cipher.ofKey_veiled]
  cases Cipher.ofKey key <;> rfl

theorem made_of_factoryFor {algorithm : Json} {s : Service} {factory : Factory}
    (h : s.factoryFor algorithm = .ok factory) (key : Value) :
    made key algorithm s = (factory.make key, { s with
      cache := if algorithm.isTruthy then s.cache else (s.cache.readCipher s.environment).2
      factoryCalls := s.factoryCalls ++ [(factory, key)] }) := by
  rw [factoryFor, cipherSettingsOf] at h
  rw [made_apply, h]

theorem create_veiled {algorithm : Json} {s : Service}
    (h : s.factoryFor algorithm = .ok .builtIn) (key : Value) :
    create key.veiled algorithm s.veiled =
      ((create key algorithm s).1.map Value.veiled, (create key algorithm s).2.veiled) := by
  have hveiled : s.veiled.factoryFor algorithm = .ok .builtIn := h
  rw [create_eq, create_eq]
  refine Action.bind_carried ?_ fun product =>
    .bind (announce_veiled product) fun _ => .pure rfl
  rw [made_of_factoryFor h, made_of_factoryFor hveiled, builtIn_veiled, Prod.mk.injEq]
  exact ⟨rfl, by simp [veiled]⟩

theorem perform_create_veiled {algorithm : Json} {s : Service}
    (h : s.factoryFor algorithm = .ok .builtIn) (key : Argument) (name : String) :
    perform (.create key.veiled algorithm name) s.veiled =
      ((perform (.create key algorithm name) s).1.map id,
        (perform (.create key algorithm name) s).2.veiled) := by
  have hkey : (resolve key.veiled s.veiled).1 = (resolve key s).1.map Value.veiled :=
    congrArg Prod.fst (resolve_veiled key s)
  cases hvalue : (resolve key s).1 with
  | error fault =>
    rw [hvalue] at hkey
    rw [perform_create_of_unresolved hvalue, perform_create_of_unresolved hkey]
    rfl
  | ok v =>
    rw [hvalue] at hkey
    rw [perform_create_of_resolve hvalue, perform_create_of_resolve hkey]
    have hnamed (product : Value) (serial : Option Nat) :
        (do nameValue name product serial
            return .product product.summary : Action Reply).Carries veiled id
          (do nameValue name product.veiled serial
              return .product product.veiled.summary) :=
      .bind (nameValue_veiled name product serial) fun _ =>
        .pure (congrArg Reply.product product.summary_veiled.symm)
    exact Action.bind_carried (create_veiled h v) fun product =>
      .bind (.ignores (.ask lastReturnsKey_veiled)) fun returnsKey =>
        .ite (.bind (serialOf_veiled key) (hnamed product)) (.bind (.pure rfl) (hnamed product))

/-- Constructions and what describes and names a key, and creations with the factory that is there
from the start. -/
def Discreet (s : Service) : Operation → Prop
  | .build .. | .signature _ | .describe _ => True
  | .create _ algorithm _ => s.factoryFor algorithm = .ok .builtIn
  | _ => False

theorem perform_veiled {op : Operation} {s : Service} (h : s.Discreet op) :
    perform op.veiled s.veiled = ((perform op s).1, (perform op s).2.veiled) := by
  have hcarried : perform op.veiled s.veiled =
      ((perform op s).1.map id, (perform op s).2.veiled) := by
    cases op with
    | build builder key name =>
      have hbuild : (perform (.build builder key name)).Carries veiled id
          (perform (.build builder.veiled key.veiled name)) := by
        rw [perform, perform]
        refine .bind (resolve_veiled key) fun v => .bind (build_veiled v builder) fun c =>
          .bind (nameValue_veiled name (.cipher c) none) fun _ => .pure ?_
        exact congrArg Reply.product (Value.summary_veiled (.cipher c)).symm
      exact hbuild s
    | signature cipher =>
      have hsignature : (perform (.signature cipher)).Carries veiled id
          (perform (.signature cipher.veiled)) := by
        rw [perform, perform]
        refine .bind (cipherOf_veiled cipher) fun v => ?_
        rw [v.signature_veiled]
        exact .ignores (.bind (.ofExcept _) fun _ => .pure _)
      exact hsignature s
    | describe cipher =>
      have hdescribe : (perform (.describe cipher)).Carries veiled id
          (perform (.describe cipher.veiled)) := by
        rw [perform, perform]
        refine .bind (cipherOf_veiled cipher) fun v => .pure ?_
        exact congrArg Reply.product v.summary_veiled.symm
      exact hdescribe s
    | create key algorithm name => exact perform_create_veiled h key name
    | _ => exact h.elim
  rw [hcarried]
  cases (perform op s).1 <;> rfl

theorem answering_veiled {op : Operation} {s : Service} (h : s.Discreet op) :
    answering op.veiled (perform op.veiled) s.veiled =
      ((answering op (perform op) s).1, (answering op (perform op) s).2.veiled) := by
  have hop : perform op.veiled s.veiled = ((perform op s).1, (perform op s).2.veiled) :=
    perform_veiled h
  rw [answering, hop]
  cases op with
  | build | signature | describe | create => rfl
  | _ => exact h.elim

theorem factoryFor_created (key : Argument) (given algorithm : Json) (s : Service) :
    (created key given s).2.factoryFor algorithm = s.factoryFor algorithm := by
  cases hvalue : (resolve key s).1 with
  | error fault =>
    rw [created, (resolve_still key).bind_of_error hvalue]
  | ok v =>
    obtain ⟨lines, calls, hcreate⟩ := create_snd v given s
    rw [created, (resolve_still key).bind_of_ok hvalue, hcreate, factoryFor, factoryFor,
      cipherSettingsOf]
    cases given.isTruthy <;> rfl

theorem factoryFor_perform {op : Operation} {s : Service} (h : s.Discreet op) (algorithm : Json) :
    (perform op s).2.factoryFor algorithm = s.factoryFor algorithm := by
  cases op with
  | build builder key name =>
    rw [perform_build]
    split <;> rfl
  | signature | describe => rw [perform_still rfl]
  | create key given name =>
    have hcreated := factoryFor_created key given algorithm s
    obtain ⟨serial, count, hperform⟩ := perform_create key given name s
    rw [hperform]
    split
    case h_1 product t hresult =>
      rw [hresult] at hcreated
      exact hcreated
    case h_2 fault t hresult =>
      rw [hresult] at hcreated
      exact hcreated
  | _ => exact h.elim

theorem Discreet.after {op other : Operation} {s : Service} (h : s.Discreet op)
    (hother : s.Discreet other) : (perform op s).2.Discreet other := by
  cases other with
  | create key algorithm name => exact (factoryFor_perform h algorithm).trans hother
  | build | signature | describe => trivial
  | _ => exact hother.elim

theorem discreet_veiled_iff {op : Operation} {s : Service} :
    s.veiled.Discreet op.veiled ↔ s.Discreet op := by
  cases op <;> exact Iff.rfl

theorem performAll_veiled {ops : List Operation} {s : Service} (h : ∀ op ∈ ops, s.Discreet op) :
    performAll (ops.map Operation.veiled) s.veiled =
      ((performAll ops s).1, (performAll ops s).2.veiled) := by
  induction ops generalizing s with
  | nil => rw [List.map_nil, performAll, performAll]
  | cons op ops ih =>
    rw [List.forall_mem_cons] at h
    have hrest := ih (s := (answering op (perform op) s).2) fun other hmem =>
      h.1.after (h.2 other hmem)
    rw [List.map_cons, performAll, performAll, answering_veiled h.1]
    dsimp only
    rw [hrest]

/-- Two runs that differ in private numbers only are answered alike. -/
theorem performAll_eq_of_veiled_eq {ops others : List Operation} {s t : Service}
    (hstate : s.veiled = t.veiled) (hops : ops.map Operation.veiled = others.map Operation.veiled)
    (h : ∀ op ∈ ops, s.Discreet op) :
    (performAll ops s).1 = (performAll others t).1 ∧
      (performAll ops s).2.veiled = (performAll others t).2.veiled := by
  have hothers : ∀ op ∈ others, t.Discreet op := by
    intro op hop
    have hmem : op.veiled ∈ ops.map Operation.veiled := hops ▸ List.mem_map_of_mem hop
    obtain ⟨first, hfirst, heq⟩ := List.mem_map.1 hmem
    rw [← discreet_veiled_iff, ← hstate, ← heq, discreet_veiled_iff]
    exact h first hfirst
  have hrun := performAll_veiled h
  rw [hstate, hops, performAll_veiled hothers] at hrun
  obtain ⟨hanswers, hafter⟩ := Prod.mk.inj hrun
  exact ⟨hanswers.symm, hafter.symm⟩

end Service
end PayloadCipher
