import PayloadCipher.Contract
import PayloadCipher.Product
import PayloadCipher.Service

/-! Cipher creation. An algorithm that is given comes before the configured one, the registry
decides which factory is called, and with debugging on the product is announced in the log. A
product that cannot answer for the announcement makes the creation fail. -/

namespace PayloadCipher.Service

def loggerName : String := "envelope.bootstrap.ciphers"

def selectedAlgorithm (algorithm : Json) : Action Json := do
  if algorithm.isTruthy then return algorithm
  else return .text (← cipherSettings).algorithm

def callFactory (factory : Factory) (key : Value) : Action Value := fun s =>
  (factory.make key, { s with factoryCalls := s.factoryCalls ++ [(factory, key)] })

/-- What the announcement tells of a product: its algorithm, and what it has to say about
decryption and about its key. -/
def announcementOf (product : Value) : Except Fault (Fields Json) := do
  let algorithm ← product.algorithm
  let decryption ← product.canDecrypt?
  let signature ←
    if product.satisfies Contract.keyNaming then do
      let signature ← product.signature
      pure [("key_signature", signature)]
    else pure []
  return [("component", Json.text "cipher_registry"), ("algorithm", algorithm)] ++
    (decryption.map fun v => ("can_decrypt", v)).toList ++ signature

def announce (product : Value) : Action Unit := do
  if ← Action.ask (·.root.isEnabled Log.Level.debug.severity) then
    let extras ← Action.ofExcept (announcementOf product)
    log { logger := loggerName, severity := Log.Level.debug.severity,
          message := .text "cipher_created", extras := extras }

def create (key : Value) (algorithm : Json) : Action Value := do
  let selected ← selectedAlgorithm algorithm
  let registry ← Action.ask (·.registry)
  let factory ← Action.ofExcept (registry.select selected)
  let product ← callFactory factory key
  announce product
  return product

end PayloadCipher.Service
