import PayloadCipher.Cipher

/-! Cipher factories by algorithm identifier, in the order of the identifiers. A later registration
replaces an earlier one, and the empty identifier is refused. -/

namespace PayloadCipher

structure Factory where
  make : Value → Except Fault Value
  /-- Whether what it makes is the key itself, and not another object like it. -/
  returnsKey : Bool := false
  make_eq : returnsKey = true → ∀ key, make key = .ok key := by simp

namespace Factory

def builtIn : Factory where
  make key := (Cipher.ofKey key).map Value.cipher

def publicOnly : Factory where
  make key := (Cipher.ofPublicKey key).map Value.cipher

def privateOnly : Factory where
  make key := (Cipher.ofPrivateKey key).map Value.cipher

def test (template : TestCipher) : Factory where
  make key := .ok (.testCipher { template with keyType := key.typeName })

def keyItself : Factory where
  make key := .ok key
  returnsKey := true

def empty : Factory where
  make _ := .ok .absent

def failing (fault : Fault) : Factory where
  make _ := .error fault

end Factory

structure Registry where
  entries : List (String × Factory)

namespace Registry

def initial : Registry := ⟨[(Cipher.algorithm, Factory.builtIn)]⟩

def identifiers (r : Registry) : List String := r.entries.map (·.1)

def find? (r : Registry) (algorithm : String) : Option Factory :=
  (r.entries.find? (·.1 == algorithm)).map (·.2)

def place (algorithm : String) (factory : Factory) :
    List (String × Factory) → List (String × Factory)
  | [] => [(algorithm, factory)]
  | (a, f) :: rest =>
    if algorithm < a then (algorithm, factory) :: (a, f) :: rest
    else if a < algorithm then (a, f) :: place algorithm factory rest
    else (algorithm, factory) :: rest

def register (r : Registry) (algorithm : Option String) (factory : Factory) :
    Except Fault Registry :=
  match algorithm with
  | none | some "" => .error .emptyIdentifier
  | some a => .ok ⟨place a factory r.entries⟩

def unregister (r : Registry) (algorithm : Json) : Except Fault Registry :=
  match algorithm with
  | .text a => .ok ⟨r.entries.filter (·.1 ≠ a)⟩
  | .array _ | .object _ =>
    if r.entries.isEmpty then .ok r else .error (.unhashable algorithm.typeName)
  | _ => .ok r

/-- The factory of an algorithm, or the fault that lists what there is instead. -/
def select (r : Registry) (algorithm : Json) : Except Fault Factory :=
  match algorithm with
  | .array _ | .object _ => .error (.unhashable algorithm.typeName)
  | .text a =>
    match r.find? a with
    | some factory => .ok factory
    | none => .error (.unsupportedAlgorithm a r.identifiers)
  | v =>
    .error (if v.isTooLong then .integerTooLong
      else .unsupportedAlgorithm v.display r.identifiers)

end Registry
end PayloadCipher
