import PayloadCipher.Product
import PayloadCipher.Service

/-! Operations on a service and their answers. Values are given directly or by a name that an
earlier operation bound; octets that were kept can be edited on the way. A scope and a session hold
operations of their own. -/

namespace PayloadCipher

/-- Changes to an octet string. Bits are counted from the least significant one of each octet.
Negative positions and lengths count from the end. -/
inductive Edit where
  | flip (bit : Int)
  | cut (length : Int)
  | append (octets : Bytes)
deriving DecidableEq, Repr

inductive Argument where
  | value (v : Value)
  | named (name : String)
  | kept (name : String) (edits : List Edit)

inductive Reference where
  | named (name : String)
  | ofKey (key : Argument)

inductive Builder where
  | ofKey
  | ofPublicKey
  | ofPrivateKey
  | ofPair (privateKey : Argument)

inductive Operation where
  | build (builder : Builder) (key : Argument) (name : String)
  | encrypt (cipher : Reference) (plaintext : Argument) (keepAs opener : Option String)
  | decrypt (cipher : Reference) (ciphertext : Argument)
  | signature (cipher : Reference)
  | describe (cipher : Reference)
  | same (first second : String)
  | changeField (change : FieldChange) (name field : String)
  | contracts (name : String)
  | register (algorithm : Option String) (factory : Factory)
  | unregister (algorithm : Json)
  | create (key : Argument) (algorithm : Json) (name : String)
  | giveVariable (name value : Json)
  | takeVariable (name : Json)
  | clearCache (base cipher : Bool)
  | readBase
  | readCipher
  | readTwice
  | start
  | validate
  | configure (level service : Json) (source : Log.CorrelationSource)
  | setClock (now : Log.Instant)
  | log (logger severity message : Json) (arguments : List Json) (extras : Fields Json)
    (report stack : Option String)
  | bind (arguments : List Json) (token : String)
  | reset (token : String)
  | enter (arguments : List Json) (scope : String)
  | leave (scope : String)
  | scope (arguments : List Json) (steps : List Operation) (fault : Option Fault)
  | session (steps : List Operation)
  /-- Looks at the service without changing it. -/
  | observe (view : Service → Except Fault Json)

structure Sealing where
  length : Nat
  belowModulus : Bool
  repeatDiffers : Bool
  opened : Option Bytes
deriving DecidableEq, Repr

mutual
inductive Reply where
  | nothing
  | flag (b : Bool)
  | octets (b : Bytes)
  | sealed (report : Sealing)
  | product (summary : Summary)
  | contracts (encrypting keyNaming : Bool)
  | algorithms (identifiers : List String)
  | base (settings : BaseSettings)
  | cipher (settings : CipherSettings)
  | twice (base cipher : Bool)
  | root (r : Log.Root)
  | scope (identifier : Json) (answers : List Answer) (after : Json)
  | session (answers : List Answer)
  | view (v : Json)

inductive Answer where
  | mk (result : Except Fault Reply) (lines : List String)
end

def Answer.result : Answer → Except Fault Reply
  | mk result _ => result

/-- The lines written on the way; those of nested operations belong to their own answers. -/
def Answer.lines : Answer → List String
  | mk _ lines => lines

end PayloadCipher
