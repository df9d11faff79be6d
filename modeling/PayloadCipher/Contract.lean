import PayloadCipher.Cipher
import PayloadCipher.Fields

/-! Contracts by members: a value satisfies a contract when it has every member that the contract
names, whatever the member is, and none of them is empty. -/

namespace PayloadCipher

inductive Member where
  | method
  | value
  | empty
deriving DecidableEq, Repr

structure Contract where
  members : List String
deriving DecidableEq, Repr

namespace Contract

def encrypting : Contract := ⟨["encrypt", "decrypt", "encryption_algorithm"]⟩

def keyNaming : Contract := ⟨["public_key_signature"]⟩

def satisfiedBy (contract : Contract) (members : Fields Member) : Bool :=
  contract.members.all fun name =>
    match Fields.get? members name with
    | some .method | some .value => true
    | some .empty | none => false

end Contract

namespace Value

def members : Value → Fields Member
  | cipher _ =>
    [("encrypt", .method), ("decrypt", .method), ("encryption_algorithm", .method),
     ("public_key_signature", .method)]
  | testCipher c =>
    [("encrypt", .method), ("decrypt", .method), ("encryption_algorithm", .method)] ++
      if c.signature.isSome then [("public_key_signature", .method)] else []
  | publicKey _ => [("encrypt", .method)]
  | privateKey _ => [("decrypt", .method)]
  | _ => []

def satisfies (v : Value) (contract : Contract) : Bool := contract.satisfiedBy v.members

end Value
end PayloadCipher
