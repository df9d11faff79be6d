import PayloadCipher.Proofs.Discretion
import PayloadCipher.Proofs.Refusal

/-! What becomes of the faults of a public key. Encryption and signature hand on what the key gives.
They wrap each of its ordinary faults once, of whatever kind it is, and tell it as the cause, so that
every ordinary fault of theirs is of one kind. All other faults pass through. -/

namespace PayloadCipher

namespace Fault

def causes : Fault → List Fault
  | encryptionFailed cause | serializationFailed cause => cause :: cause.causes
  | _ => []

/-- A cipher fault of the given kind that is wrapped around another fault, with one layer and one
label more than that has. -/
structure Wraps (kind : Kind) (label : String) (told raised : Fault) : Prop where
  kind_eq : told.kind = kind
  isCipherFault : told.isCipherFault = true
  cause_eq : told.cause = some raised.kind
  causes_eq : told.causes = raised :: raised.causes
  message_eq : told.message = label ++ raised.message

/-- What is told of a fault that a key raises. -/
inductive Told (kind : Kind) (label : String) (raised : Fault) : Fault → Prop
  | wrapped (told : Fault) (ordinary : raised.isOrdinary = true)
      (wraps : told.Wraps kind label raised) : Told kind label raised told
  | passed (special : raised.isOrdinary = false) : Told kind label raised raised

end Fault

/-- How the outcome of a key is handed on: what the key gives is used, and of each fault that it
raises one fault is told, and no other can be. -/
structure HandsOn {α β : Type} (kind : Kind) (label : String) (use : α → β)
    (outcome : Except Fault α) (result : Except Fault β) : Prop where
  ok : ∀ a, outcome = .ok a → result = .ok (use a)
  error : ∀ raised, outcome = .error raised →
    ∃ told, result = .error told ∧ ∀ other, raised.Told kind label other ↔ other = told

namespace HandsOn

variable {α β : Type} {kind : Kind} {label : String} {use : α → β} {outcome : Except Fault α}
  {result : Except Fault β}

theorem error_iff (h : HandsOn kind label use outcome result) {raised : Fault}
    (hraised : outcome = .error raised) (told : Fault) :
    result = .error told ↔ raised.Told kind label told := by
  obtain ⟨one, hone, honly⟩ := h.error raised hraised
  rw [hone, honly, Except.error.injEq]
  exact eq_comm

theorem kind_eq (h : HandsOn kind label use outcome result) {told : Fault}
    (htold : result = .error told) (hordinary : told.isOrdinary = true) :
    told.kind = kind ∧ told.isCipherFault = true := by
  cases houtcome : outcome with
  | ok a =>
    rw [h.ok a houtcome] at htold
    cases htold
  | error raised =>
    -- what passes through is not ordinary, so the fault that is told was wrapped
    cases (h.error_iff houtcome told).1 htold with
    | wrapped _ _ wraps => exact ⟨wraps.kind_eq, wraps.isCipherFault⟩
    | passed special => exact absurd hordinary (by rw [special]; decide)

end HandsOn

namespace Cipher

variable (c : Cipher)

end Cipher

namespace Service

end Service
end PayloadCipher
