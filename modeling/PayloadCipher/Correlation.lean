import PayloadCipher.Fault

/-! The correlation identifier in force, which may be any value. Binding one gives a token that
remembers what was in force before; the token restores exactly that, once, in whatever order tokens
are used. -/

namespace PayloadCipher

structure Correlation where
  current : Json := .text ""
  /-- How many identifiers have been generated. -/
  generated : Nat := 0
deriving DecidableEq, Repr

structure Token where
  previous : Json
  spent : Bool := false
deriving DecidableEq, Repr

namespace Correlation

/-- The given identifier, or a generated one if it is null or empty. -/
def bind (fresh : Nat → String) (identifier : Json) (c : Correlation) : Token × Correlation :=
  if identifier.isTruthy then (⟨c.current, false⟩, { c with current := identifier })
  else (⟨c.current, false⟩, ⟨.text (fresh c.generated), c.generated + 1⟩)

def argument (callee : String) : List Json → Except Fault Json
  | [] => .ok .null
  | [identifier] => .ok identifier
  | arguments => .error (.tooManyArguments callee arguments.length)

def restore (token : Token) (c : Correlation) : Correlation := { c with current := token.previous }

def reset (token : Token) (c : Correlation) : Except Fault (Token × Correlation) :=
  if token.spent then .error .spentToken
  else .ok ({ token with spent := true }, c.restore token)

theorem previous_bind (fresh : Nat → String) (identifier : Json) (c : Correlation) :
    (c.bind fresh identifier).1.previous = c.current := by
  unfold bind; split <;> rfl

end Correlation
end PayloadCipher
