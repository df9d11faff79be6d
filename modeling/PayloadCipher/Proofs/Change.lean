import Mathlib.Logic.Relation
import PayloadCipher.Session.Run

/-! What operations do to the state, in single changes. Every operation, nested ones included, is a
chain of these changes, so that whatever each of them keeps is kept by every run. -/

namespace PayloadCipher

/-- One change of the state. The registry, the cache and the root of the loggers only change in the
ways of their own operations; the other parts may take any value. -/
inductive Service.Change : Service → Service → Prop
  | readBase (s : Service) :
      Change s { s with cache := (s.cache.readBase s.environment).2 }
  | readCipher (s : Service) :
      Change s { s with cache := (s.cache.readCipher s.environment).2 }
  | clearBase (s : Service) : Change s { s with cache := s.cache.clearBase }
  | clearCipher (s : Service) : Change s { s with cache := s.cache.clearCipher }
  | register (s : Service) (algorithm : Option String) (factory : Factory) (registry : Registry)
      (h : s.registry.register algorithm factory = .ok registry) :
      Change s { s with registry := registry }
  | unregister (s : Service) (algorithm : Json) (registry : Registry)
      (h : s.registry.unregister algorithm = .ok registry) :
      Change s { s with registry := registry }
  | environment (s : Service) (vars : Variables) : Change s { s with environment := vars }
  | correlation (s : Service) (c : Correlation) : Change s { s with correlation := c }
  | configure (s : Service) (level : Log.Level) (service : Json) (source : Log.CorrelationSource) :
      Change s { s with root := Log.Root.configured level service source }
  | clock (s : Service) (now : Log.Instant) : Change s { s with clock := now }
  | seed (s : Service) : Change s { s with seedsDrawn := s.seedsDrawn + 1 }
  | write (s : Service) (lines : List String) : Change s { s with written := s.written ++ lines }
  | call (s : Service) (factory : Factory) (key : Value) :
      Change s { s with factoryCalls := s.factoryCalls ++ [(factory, key)] }
  | name (s : Service) (named : Fields Named) :
      Change s { s with named := named, namesGiven := s.namesGiven + 1 }
  | members (s : Service) (members : List (Nat × List String)) :
      Change s { s with members := members }
  | keep (s : Service) (kept : Fields Bytes) : Change s { s with kept := kept }
  | tokens (s : Service) (tokens : Fields Token) : Change s { s with tokens := tokens }
  | scopes (s : Service) (scopes : Fields Token) : Change s { s with scopes := scopes }

def Service.LeadsTo : Service → Service → Prop := Relation.ReflTransGen Service.Change

namespace Service.LeadsTo

theorem keeps {P : Service → Prop} (step : ∀ s t, Change s t → P s → P t) {s t : Service}
    (h : LeadsTo s t) (hs : P s) : P t := by
  induction h with
  | refl => exact hs
  | tail _ change ih => exact step _ _ change ih

end Service.LeadsTo

namespace Action

variable {α β : Type}

/-- What each part of an action does to the state, the whole does, if it can be done twice. -/
theorem bind_relates {R : Service → Service → Prop} (trans : ∀ {s t u}, R s t → R t u → R s u)
    {a : Action α} {f : α → Action β} (ha : ∀ s, R s (a s).2) (hf : ∀ x s, R s (f x s).2)
    (s : Service) : R s ((a >>= f) s).2 := by
  have hfirst := ha s
  cases ht : a s with
  | mk result t =>
    rw [ht] at hfirst
    cases result with
    | ok x =>
      rw [bind_of_ok ht]
      exact trans hfirst (hf x t)
    | error fault =>
      rw [bind_of_error ht]
      exact hfirst

theorem bind_assoc {γ : Type} (a : Action α) (f : α → Action β) (g : β → Action γ) :
    a >>= f >>= g = a >>= fun x => f x >>= g := by
  funext s
  show andThen (andThen a f) g s = andThen a (fun x => andThen (f x) g) s
  rw [andThen, andThen, andThen]
  cases a s with
  | mk result t => cases result <;> rfl

/-- The action changes nothing, whether it fails or not. -/
def Still (a : Action α) : Prop := ∀ s : Service, (a s).2 = s

namespace Still

theorem pure (a : α) : (Pure.pure a : Action α).Still := fun _ => rfl

theorem ofExcept (result : Except Fault α) : (Action.ofExcept result).Still := fun _ => rfl

theorem bind {a : Action α} {f : α → Action β} (ha : a.Still) (hf : ∀ x, (f x).Still) :
    (a >>= f).Still :=
  bind_relates (R := fun s t => t = s) (fun h h' => h'.trans h) ha hf

theorem bind_of_ok {a : Action α} (h : a.Still) {s : Service} {x : α} (hx : (a s).1 = .ok x)
    (next : α → Action β) : (a >>= next) s = next x s :=
  Action.bind_of_ok (Prod.ext hx (h s))

theorem bind_of_error {a : Action α} (h : a.Still) {s : Service} {fault : Fault}
    (hfault : (a s).1 = .error fault) (next : α → Action β) : (a >>= next) s = (.error fault, s) :=
  Action.bind_of_error (Prod.ext hfault (h s))

end Still

/-- The action leads to its final state in changes only, whether it fails or not. -/
def Steps (a : Action α) : Prop :=
  ∀ s : Service, s.LeadsTo (a s).2

namespace Steps
open Service

theorem single {a : Action α} (h : ∀ s, Change s (a s).2) : a.Steps :=
  fun s => .single (h s)

theorem still {a : Action α} (h : a.Still) : a.Steps := by
  intro s
  rw [h]
  exact .refl

theorem pure (a : α) : (Pure.pure a : Action α).Steps := still fun _ => rfl

theorem fail (fault : Fault) : (Action.fail fault : Action α).Steps := still fun _ => rfl

theorem ofExcept (result : Except Fault α) : (Action.ofExcept result).Steps := still fun _ => rfl

theorem ask (view : Service → α) : (Action.ask view).Steps := still fun _ => rfl

theorem bind {a : Action α} {f : α → Action β} (ha : a.Steps) (hf : ∀ x, (f x).Steps) :
    (a >>= f).Steps :=
  bind_relates Relation.ReflTransGen.trans ha hf

theorem ite {c : Prop} [Decidable c] {a b : Action α} (ha : a.Steps) (hb : b.Steps) :
    (if c then a else b).Steps := by
  split
  · exact ha
  · exact hb

end Steps
end Action

def Operation.looks : Operation → Bool
  | .decrypt .. | .signature _ | .describe _ | .same .. | .contracts _ | .observe _ => true
  | _ => false

namespace Service
open PayloadCipher.Action (Steps Still)

theorem lookUp_still {α : Type} (fields : Service → Fields α) (name : String) :
    (lookUp fields name).Still := by
  intro s
  rw [lookUp]
  split <;> rfl

theorem lookUp_of_some {α : Type} {fields : Service → Fields α} {name : String} {s : Service} {a : α}
    (h : Fields.get? (fields s) name = some a) : lookUp fields name s = (.ok a, s) := by
  rw [lookUp, h]

theorem lookUp_of_none {α : Type} {fields : Service → Fields α} {name : String} {s : Service}
    (h : Fields.get? (fields s) name = none) :
    lookUp fields name s = (.error (.unknownName name), s) := by
  rw [lookUp, h]

theorem tokenOf_still (name : String) : (tokenOf name).Still := by
  intro s
  rw [tokenOf]
  split <;> rfl

theorem resolve_still (a : Argument) : (resolve a).Still := by
  cases a with
  | value v => exact .pure v
  | named name => exact .bind (lookUp_still _ name) fun _ => .pure _
  | kept name edits =>
    exact .bind (lookUp_still _ name) fun _ => .bind (.ofExcept _) fun _ => .pure _

theorem cipherOf_still (r : Reference) : (cipherOf r).Still := by
  cases r with
  | named name => exact .bind (lookUp_still _ name) fun _ => .pure _
  | ofKey key => exact .bind (resolve_still key) fun _ => .bind (.ofExcept _) fun _ => .pure _

theorem serialOf_still (a : Argument) : (serialOf a).Still := by
  cases a with
  | named name => exact .bind (lookUp_still _ name) fun _ => .pure _
  | _ => exact .pure _

theorem build_still (key : Value) (builder : Builder) : (build key builder).Still := by
  cases builder with
  | ofPair priv => exact .bind (resolve_still priv) fun _ => .ofExcept _
  | _ => exact .ofExcept _

theorem openWith_still (v : Value) (octets : Bytes) : (openWith v octets).Still := by
  refine .bind (.ofExcept _) fun decrypts => ?_
  split
  · exact .bind (.ofExcept _) fun _ => .pure _
  · exact .pure _

theorem baseSettings_steps : baseSettings.Steps := .single fun s => .readBase s

theorem cipherSettings_steps : cipherSettings.Steps := .single fun s => .readCipher s

theorem log_steps (call : Log.Call) : (log call).Steps := by
  intro s
  rw [log]
  split
  · exact .single (.write s _)
  · exact .refl

theorem configureLogging_steps (level : String) (service : Json) (source : Log.CorrelationSource) :
    (configureLogging level service source).Steps := by
  intro s
  rw [configureLogging, Log.Root.configure]
  cases Log.Level.parse? level with
  | some level => exact .single (.configure s level service source)
  | none => exact .refl

theorem bindCorrelation_steps (identifier : Json) : (bindCorrelation identifier).Steps :=
  .single fun s => .correlation s _

theorem withCorrelation_steps {α : Type} (identifier : Json) {body : Json → Action α}
    (h : ∀ v, (body v).Steps) : (withCorrelation identifier body).Steps := by
  intro s
  have hin : s.LeadsTo
      { s with correlation := (s.correlation.bind s.supply.identifier identifier).2 } :=
    .single (.correlation s _)
  exact (hin.trans (h _ _)).tail (.correlation _ _)

theorem callFactory_steps (factory : Factory) (key : Value) : (callFactory factory key).Steps :=
  .single fun s => .call s factory key

theorem nameValue_steps (name : String) (v : Value) (serial : Option Nat) :
    (nameValue name v serial).Steps := .single fun s => .name s _

theorem encryptWith_relates {R : Service → Service → Prop} (refl : ∀ s, R s s)
    (trans : ∀ {s t u}, R s t → R t u → R s u)
    (seed : ∀ s : Service, R s { s with seedsDrawn := s.seedsDrawn + 1 })
    (kept : ∀ (s : Service) (kept : Fields Bytes), R s { s with kept := kept })
    (v plaintext : Value) (keepAs opener : Option String) (s : Service) :
    R s (encryptWith v plaintext keepAs opener s).2 := by
  have hstill {α : Type} {a : Action α} (h : a.Still) (s : Service) : R s (a s).2 := by
    rw [h]
    exact refl s
  have hkeep (octets : Bytes) (s : Service) : R s (keep keepAs octets s).2 := by
    cases keepAs with
    | none => exact refl s
    | some name => exact kept s _
  refine Action.bind_relates (R := R) trans seed (fun _ => ?_) s
  refine Action.bind_relates (R := R) trans (hstill (.ofExcept _)) fun first => ?_
  refine Action.bind_relates (R := R) trans (hkeep first) fun _ => ?_
  cases v with
  | cipher c =>
    dsimp only
    cases c.publicKey with
    | rsa numbers =>
      refine Action.bind_relates (R := R) trans seed fun _ => hstill ?_
      refine .bind (.ofExcept _) fun _ => ?_
      cases opener with
      | some name =>
        exact .bind (lookUp_still _ name) fun _ => .bind (.pure _) fun reader =>
          .bind (openWith_still reader first) fun _ => .pure _
      | none =>
        exact .bind (.pure _) fun reader => .bind (openWith_still reader first) fun _ => .pure _
    | scripted key => exact hstill (.pure _)
  | _ => exact hstill (.pure _)

theorem encryptWith_steps (v plaintext : Value) (keepAs opener : Option String) :
    (encryptWith v plaintext keepAs opener).Steps :=
  encryptWith_relates (fun _ => .refl) Relation.ReflTransGen.trans (fun s => .single (.seed s))
    (fun s kept => .single (.keep s kept)) v plaintext keepAs opener

theorem leaveScope_steps (name : String) (token : Token) : (leaveScope name token).Steps := by
  intro s
  have hfirst : s.LeadsTo { s with correlation := s.correlation.restore token } :=
    .single (.correlation s _)
  exact hfirst.tail (.scopes _ _)

theorem vacate_steps (name : String) : (vacate name).Steps := by
  refine .bind (.ask _) fun scopes => ?_
  cases Fields.get? scopes name with
  | some token => exact leaveScope_steps name token
  | none => exact .pure _

theorem selectedAlgorithm_steps (algorithm : Json) : (selectedAlgorithm algorithm).Steps :=
  .ite (.pure _) (.bind cipherSettings_steps fun _ => .pure _)

theorem announce_steps (product : Value) : (announce product).Steps := by
  refine .bind (.ask _) fun enabled => .ite ?_ (.pure _)
  exact .bind (.ofExcept _) fun _ => log_steps _

theorem create_steps (key : Value) (algorithm : Json) : (create key algorithm).Steps :=
  .bind (selectedAlgorithm_steps algorithm) fun _ => .bind (.ask _) fun _ =>
    .bind (.ofExcept _) fun factory => .bind (callFactory_steps factory key) fun product =>
      .bind (announce_steps product) fun _ => .pure _

theorem report_steps (base : BaseSettings) (entries : List String) : (report base entries).Steps :=
  .bind (log_steps _) fun _ => .ite (.fail _) (.pure _)

theorem validateSettings_steps : validateSettings.Steps :=
  .bind baseSettings_steps fun _ => .bind cipherSettings_steps fun _ => .bind (.ask _) fun _ =>
    report_steps _ _

theorem start_steps : start.Steps :=
  .bind baseSettings_steps fun _ => .bind (configureLogging_steps _ _ _) fun _ =>
    validateSettings_steps

theorem register_steps (algorithm : Option String) (factory : Factory) :
    (perform (.register algorithm factory)).Steps := by
  intro s
  rw [perform, Action.ask_bind]
  cases h : s.registry.register algorithm factory with
  | ok registry => exact .single (.register s algorithm factory registry h)
  | error fault => exact .refl

theorem unregister_steps (algorithm : Json) : (perform (.unregister algorithm)).Steps := by
  intro s
  rw [perform, Action.ask_bind]
  cases h : s.registry.unregister algorithm with
  | ok registry => exact .single (.unregister s algorithm registry h)
  | error fault => exact .refl

theorem perform_still {op : Operation} (h : op.looks = true) : (perform op).Still := by
  cases op with
  | decrypt cipher ciphertext =>
    rw [perform]
    exact .bind (cipherOf_still cipher) fun _ => .bind (.ofExcept _) fun _ =>
      .bind (resolve_still ciphertext) fun _ => .bind (.ofExcept _) fun _ => .pure _
  | signature cipher =>
    rw [perform]
    exact .bind (cipherOf_still cipher) fun _ => .bind (.ofExcept _) fun _ => .pure _
  | describe cipher =>
    rw [perform]
    exact .bind (cipherOf_still cipher) fun _ => .pure _
  | same first second =>
    rw [perform]
    exact .bind (lookUp_still _ first) fun _ => .bind (lookUp_still _ second) fun _ => .pure _
  | contracts name =>
    rw [perform]
    exact .bind (lookUp_still _ name) fun _ => .pure _
  | observe view =>
    rw [perform]
    exact .bind (fun _ => rfl) fun _ => .bind (.ofExcept _) fun _ => .pure _
  | _ => cases h

-- Operations hold operations, so both are proved together along their structure.
mutual
theorem perform_steps : ∀ op : Operation, (perform op).Steps
  | .build builder key name => by
    rw [perform]
    exact .bind (.still (resolve_still key)) fun v =>
      .bind (.still (build_still v builder)) fun _ =>
        .bind (nameValue_steps _ _ _) fun _ => .pure _
  | .encrypt cipher plaintext keepAs opener => by
    rw [perform]
    exact .bind (.still (cipherOf_still cipher)) fun _ =>
      .bind (.still (resolve_still plaintext)) fun _ => encryptWith_steps _ _ keepAs opener
  | .decrypt .. => .still (perform_still rfl)
  | .signature _ => .still (perform_still rfl)
  | .describe _ => .still (perform_still rfl)
  | .same .. => .still (perform_still rfl)
  | .changeField change name field => by
    rw [perform]
    exact .bind (.still (lookUp_still _ name)) fun _ => .bind (.ask _) fun _ =>
      .bind (.ofExcept _) fun _ => .bind (.single fun s => .members s _) fun _ => .pure _
  | .contracts _ => .still (perform_still rfl)
  | .register algorithm factory => register_steps algorithm factory
  | .unregister algorithm => unregister_steps algorithm
  | .create key algorithm name => by
    rw [perform]
    refine .bind (.still (resolve_still key)) fun _ => .bind (create_steps _ _) fun _ =>
      .bind (.ask _) fun _ => .ite ?_ ?_
    · exact .bind (.still (serialOf_still key)) fun _ =>
        .bind (nameValue_steps _ _ _) fun _ => .pure _
    · exact .bind (.pure _) fun _ => .bind (nameValue_steps _ _ _) fun _ => .pure _
  | .giveVariable name value => by
    rw [perform]
    exact .bind (.ask _) fun _ => .bind (.ofExcept _) fun _ =>
      .bind (.single fun s => .environment s _) fun _ => .pure _
  | .takeVariable name => by
    rw [perform]
    exact .bind (.ask _) fun _ => .bind (.ofExcept _) fun _ =>
      .bind (.single fun s => .environment s _) fun _ => .pure _
  | .clearCache base cipher => by
    rw [perform]
    have hbase : (Action.update fun s => { s with cache := s.cache.clearBase }).Steps :=
      .single fun s => .clearBase s
    have hcipher : (Action.update fun s => { s with cache := s.cache.clearCipher }).Steps :=
      .single fun s => .clearCipher s
    cases base with
    | true =>
      cases cipher with
      | true => exact .bind hbase fun _ => .bind hcipher fun _ => .pure _
      | false => exact .bind hbase fun _ => .pure _
    | false =>
      cases cipher with
      | true => exact .bind hcipher fun _ => .pure _
      | false => exact .pure _
  | .readBase => by
    rw [perform]
    exact .bind baseSettings_steps fun _ => .pure _
  | .readCipher => by
    rw [perform]
    exact .bind cipherSettings_steps fun _ => .pure _
  | .readTwice => by
    rw [perform]
    exact .bind baseSettings_steps fun _ => .bind baseSettings_steps fun _ =>
      .bind cipherSettings_steps fun _ => .bind cipherSettings_steps fun _ => .pure _
  | .start => by
    rw [perform]
    exact .bind start_steps fun _ => .bind (.ask _) fun _ => .pure _
  | .validate => by
    rw [perform]
    exact .bind validateSettings_steps fun _ => .pure _
  | .configure level service source => by
    rw [perform]
    exact .bind (.ofExcept _) fun _ => .bind (configureLogging_steps _ service source) fun _ =>
      .bind (.ask _) fun _ => .pure _
  | .setClock now => by
    rw [perform]
    exact .bind (.single fun s => .clock s now) fun _ => .pure _
  | .log logger severity message arguments extras report stack => by
    rw [perform]
    refine .bind (.ofExcept _) fun logger => ?_
    cases Log.Root.severity? severity with
    | some severity => exact .bind (log_steps _) fun _ => .pure _
    | none => exact .pure _
  | .bind arguments name => by
    rw [perform]
    exact .bind (.ofExcept _) fun _ => .bind (bindCorrelation_steps _) fun _ =>
      .bind (.single fun s => .tokens s _) fun _ => .bind (.ask _) fun _ => .pure _
  | .reset name => by
    rw [perform]
    refine .bind (.still (tokenOf_still name)) fun _ => .bind (.ask _) fun _ =>
      .bind (.ofExcept _) ?_
    rintro ⟨spent, correlation⟩
    refine .bind (fun s => ?_) fun _ => .pure _
    have hfirst : s.LeadsTo { s with correlation := correlation } := .single (.correlation s _)
    exact hfirst.tail (.tokens _ _)
  | .enter arguments name => by
    rw [perform]
    exact .bind (.ofExcept _) fun _ => .bind (vacate_steps name) fun _ =>
      .bind (bindCorrelation_steps _) fun _ => .bind (.single fun s => .scopes s _) fun _ =>
        .bind (.ask _) fun _ => .pure _
  | .leave name => by
    rw [perform]
    exact .bind (.still (lookUp_still _ name)) fun token =>
      .bind (leaveScope_steps name token) fun _ => .bind (.ask _) fun _ => .pure _
  | .scope arguments steps fault => by
    rw [perform]
    refine .bind (.ofExcept _) fun identifier =>
      .bind (withCorrelation_steps identifier fun value =>
        .bind (performAll_steps steps) fun answers => ?_) fun _ => .bind (.ask _) fun _ => .pure _
    cases fault with
    | some fault => exact .fail fault
    | none => exact .pure _
  | .session steps => by
    rw [perform]
    exact .bind (performAll_steps steps) fun _ => .pure _
  | .observe _ => .still (perform_still rfl)

theorem performAll_steps : ∀ ops : List Operation, (Action.always (performAll ops)).Steps
  | [] => .still fun _ => by rw [Action.always, performAll]
  | op :: ops => by
    intro s
    have hrest := performAll_steps ops (perform op s).2
    rw [Action.always] at hrest ⊢
    rw [performAll]
    exact (perform_steps op s).trans hrest
end

theorem performAll_cons (op : Operation) (ops : List Operation) (s : Service) :
    performAll (op :: ops) s =
      ((answering op (perform op) s).1 :: (performAll ops (perform op s).2).1,
        (performAll ops (perform op s).2).2) := by
  rw [performAll]
  rfl

theorem performAll_append (ops more : List Operation) (s : Service) :
    performAll (ops ++ more) s =
      ((performAll ops s).1 ++ (performAll more (performAll ops s).2).1,
        (performAll more (performAll ops s).2).2) := by
  induction ops generalizing s with
  | nil => rfl
  | cons op ops ih => simp [performAll_cons, ih]

def constantSupply : Supply := ⟨fun _ => "", fun _ => ⟨List.replicate 64 0, List.length_replicate⟩⟩

def after (supply : Supply) (vars : Variables) (ops : List Operation) : Service :=
  (performAll ops { supply := supply, environment := vars }).2

end Service
end PayloadCipher
