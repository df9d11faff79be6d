import PayloadCipher.Service.Create
import PayloadCipher.Service.Startup
import PayloadCipher.Session.Operation
import PayloadCipher.Text.Lines

/-! Performs operations. Each operation is an action; a run answers one operation after the other
and goes on after a fault. -/

namespace PayloadCipher

def Edit.position (b : Bytes) (i : Int) : Int := if i < 0 then b.length + i else i

def Edit.apply (b : Bytes) : Edit → Except Fault Bytes
  | flip bit =>
    let i := position b (bit / 8)
    if 0 ≤ i ∧ i < b.length then
      .ok (b.modify i.toNat (· ^^^ UInt8.ofNat (1 <<< (bit % 8).toNat)))
    else .error .noSuchOctet
  | cut length => .ok (b.take (position b length).toNat)
  | append octets => .ok (b ++ octets)

namespace Service

def lookUp {α : Type} (fields : Service → Fields α) (name : String) : Action α := fun s =>
  match Fields.get? (fields s) name with
  | some a => (.ok a, s)
  | none => (.error (.unknownName name), s)

def tokenOf (name : String) : Action Token := fun s =>
  match Fields.get? s.tokens name with
  | some token => (.ok token, s)
  | none => (.error (.unknownToken name), s)

def resolve : Argument → Action Value
  | .value v => pure v
  | .named name => do return (← lookUp (·.named) name).value
  | .kept name edits => do
    let octets ← lookUp (·.kept) name
    return .octets (← Action.ofExcept (edits.foldlM Edit.apply octets))

def cipherOf : Reference → Action Value
  | .named name => do return (← lookUp (·.named) name).value
  | .ofKey key => do
    let v ← resolve key
    let c ← Action.ofExcept (Cipher.ofKey v)
    return .cipher c

def nameValue (name : String) (v : Value) (serial : Option Nat) : Action Unit :=
  Action.update fun s =>
    { s with
      named := Fields.set name ⟨v, serial.getD s.namesGiven⟩ s.named
      namesGiven := s.namesGiven + 1 }

def build (key : Value) : Builder → Action Cipher
  | .ofKey => Action.ofExcept (Cipher.ofKey key)
  | .ofPublicKey => Action.ofExcept (Cipher.ofPublicKey key)
  | .ofPrivateKey => Action.ofExcept (Cipher.ofPrivateKey key)
  | .ofPair privateKey => do Action.ofExcept (Cipher.ofPair key (← resolve privateKey))

def serialOf : Argument → Action (Option Nat)
  | .named name => do return some (← lookUp (·.named) name).serial
  | _ => pure none

def lastReturnsKey (s : Service) : Bool :=
  match s.factoryCalls.getLast? with
  | some (factory, _) => factory.returnsKey
  | none => false

def keep (name : Option String) (octets : Bytes) : Action Unit :=
  match name with
  | some name => Action.update fun s => { s with kept := Fields.set name octets s.kept }
  | none => pure ()

def openWith (v : Value) (octets : Bytes) : Action (Option Bytes) := do
  if ← Action.ofExcept v.saysItDecrypts then
    return some (← Action.ofExcept (v.decrypt (.octets octets)))
  else return none

/-- With an RSA key, encrypts twice and reports on the first ciphertext; with other keys, gives the
octets. -/
def encryptWith (v : Value) (plaintext : Value) (keepAs opener : Option String) : Action Reply := do
  let first ← Action.ofExcept (v.encrypt (← drawSeed) plaintext)
  keep keepAs first
  match v with
  | .cipher c =>
    match c.publicKey with
    | .rsa numbers => do
      let second ← Action.ofExcept (v.encrypt (← drawSeed) plaintext)
      let reader ← match opener with
        | some name => do pure (← lookUp (·.named) name).value
        | none => pure v
      let opened ← openWith reader first
      return .sealed ⟨first.length, Bytes.toNat first < numbers.n, first ≠ second, opened⟩
    | .scripted _ => return .octets first
  | _ => return .octets first

def sameObject (a b : Named) : Bool :=
  a.serial == b.serial || (a.value.sole?.isSome && a.value.sole? == b.value.sole?)

def leaveScope (name : String) (token : Token) : Action Unit :=
  Action.update fun s =>
    { s with correlation := s.correlation.restore token, scopes := Fields.erase s.scopes name }

def vacate (name : String) : Action Unit := do
  match Fields.get? (← Action.ask (·.scopes)) name with
  | some token => leaveScope name token
  | none => pure ()

def scopeName : String := "correlation_scope"

/-- The answer of an action, with the lines of what it wrote; scopes and sessions leave their lines
to the operations inside. -/
def answering (op : Operation) (action : Action Reply) (s : Service) : Answer × Service :=
  let (result, t) := action s
  let lines := match op with
    | .scope .. | .session _ => []
    | _ => (t.written.drop s.written.length).flatMap Text.lines
  (.mk result lines, t)

mutual
def perform : Operation → Action Reply
  | .build builder key name => do
    let c ← build (← resolve key) builder
    nameValue name (.cipher c) none
    return .product (Value.cipher c).summary
  | .encrypt cipher plaintext keepAs opener => do
    encryptWith (← cipherOf cipher) (← resolve plaintext) keepAs opener
  | .decrypt cipher ciphertext => do
    let v ← cipherOf cipher
    let decrypt ← Action.ofExcept v.decryption
    return .octets (← Action.ofExcept (decrypt (← resolve ciphertext)))
  | .signature cipher => do
    let v ← cipherOf cipher
    return .view (← Action.ofExcept v.signature)
  | .describe cipher => do return .product (← cipherOf cipher).summary
  | .same first second => do
    return .flag (sameObject (← lookUp (·.named) first) (← lookUp (·.named) second))
  | .changeField change name field => do
    let object ← lookUp (·.named) name
    let taken := (← Action.ask (·.members)).lookup object.serial
    let taken ← Action.ofExcept (object.value.changeMember (taken.getD []) change field)
    Action.update fun s => { s with members := (object.serial, taken) :: s.members }
    return .nothing
  | .contracts name => do
    let v := (← lookUp (·.named) name).value
    return .contracts (v.satisfies Contract.encrypting) (v.satisfies Contract.keyNaming)
  | .register algorithm factory => do
    let registry ← Action.ask (·.registry)
    let registry ← Action.ofExcept (registry.register algorithm factory)
    Action.update fun s => { s with registry := registry }
    return .algorithms registry.identifiers
  | .unregister algorithm => do
    let registry ← Action.ask (·.registry)
    let registry ← Action.ofExcept (registry.unregister algorithm)
    Action.update fun s => { s with registry := registry }
    return .algorithms registry.identifiers
  | .create key algorithm name => do
    let given ← resolve key
    let product ← create given algorithm
    let serial ← if ← Action.ask lastReturnsKey then serialOf key else pure none
    nameValue name product serial
    return .product product.summary
  | .giveVariable name value => do
    let vars ← Action.ofExcept ((← Action.ask (·.environment)).give name value)
    Action.update fun s => { s with environment := vars }
    return .nothing
  | .takeVariable name => do
    let vars ← Action.ofExcept ((← Action.ask (·.environment)).take name)
    Action.update fun s => { s with environment := vars }
    return .nothing
  | .clearCache base cipher => do
    if base then Action.update fun s => { s with cache := s.cache.clearBase }
    if cipher then Action.update fun s => { s with cache := s.cache.clearCipher }
    return .nothing
  | .readBase => do return .base (← baseSettings)
  | .readCipher => do return .cipher (← cipherSettings)
  | .readTwice => do
    let base := (← baseSettings) = (← baseSettings)
    let cipher := (← cipherSettings) = (← cipherSettings)
    return .twice base cipher
  | .start => do
    start
    return .root (← Action.ask (·.root))
  | .validate => do
    validateSettings
    return .nothing
  | .configure level service source => do
    configureLogging (← Action.ofExcept (level.textFor "upper")) service source
    return .root (← Action.ask (·.root))
  | .setClock now => do
    Action.update fun s => { s with clock := now }
    return .nothing
  | .log logger severity message arguments extras report stack => do
    let logger ← Action.ofExcept (Log.Root.loggerName logger)
    match Log.Root.severity? severity with
    | some severity => log { logger, severity, message, arguments, extras, report, stack }
    | none => pure ()
    return .nothing
  | .bind arguments name => do
    let identifier ← Action.ofExcept (Correlation.argument "bind_correlation_id" arguments)
    let token ← bindCorrelation identifier
    Action.update fun s => { s with tokens := Fields.set name token s.tokens }
    return .view (← Action.ask (·.correlation.current))
  | .reset name => do
    let token ← tokenOf name
    let correlation ← Action.ask (·.correlation)
    let (spent, correlation) ← Action.ofExcept (correlation.reset token)
    Action.update fun s =>
      { s with correlation := correlation, tokens := Fields.set name spent s.tokens }
    return .view correlation.current
  | .enter arguments name => do
    let identifier ← Action.ofExcept (Correlation.argument scopeName arguments)
    vacate name
    let token ← bindCorrelation identifier
    Action.update fun s => { s with scopes := Fields.set name token s.scopes }
    return .view (← Action.ask (·.correlation.current))
  | .leave name => do
    let token ← lookUp (·.scopes) name
    leaveScope name token
    return .view (← Action.ask (·.correlation.current))
  | .scope arguments steps fault => do
    let identifier ← Action.ofExcept (Correlation.argument scopeName arguments)
    let (value, answers) ← withCorrelation identifier fun value => do
      let answers ← Action.always (performAll steps)
      match fault with
      | some fault => Action.fail fault
      | none => pure (value, answers)
    return .scope value answers (← Action.ask (·.correlation.current))
  | .session steps => do return .session (← Action.always (performAll steps))
  | .observe view => do return .view (← Action.ofExcept (← Action.ask view))

def performAll : List Operation → Service → List Answer × Service
  | [], s => ([], s)
  | op :: ops, s =>
    let (answer, t) := answering op (perform op) s
    let (answers, u) := performAll ops t
    (answer :: answers, u)
end

end Service

def run (supply : Supply) (vars : Variables) (op : Operation) : Answer :=
  (Service.answering op (Service.perform op) { supply := supply, environment := vars }).1

end PayloadCipher
