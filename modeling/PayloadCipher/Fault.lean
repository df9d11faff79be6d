import PayloadCipher.Log.Instant
import PayloadCipher.Log.Level
import PayloadCipher.Log.Message
import PayloadCipher.Log.Trace

/-! What can go wrong, by cause. Each fault has a kind, and kinds form families: all faults of
ciphers belong to the cipher family, some of them to a second one. An interruption is of no
ordinary kind, and nothing that handles ordinary faults touches it. -/

namespace PayloadCipher

inductive Kind where
  | any
  | base
  | ordinary
  | lookup
  | arithmetic
  | overflow
  | value
  | type
  | key
  | index
  | runtime
  | system
  | member
  | frozenField
  | interrupt
  | cipher
  | invalidKeyType
  | missingPrivateKey
  | encryption
  | decryption
  | serialization
  | unsupportedAlgorithm
deriving DecidableEq, Repr

/-- The kind and the families it belongs to, the closest first. -/
def Kind.lineage : Kind → List Kind
  | any => [any]
  | base => [base, any]
  | interrupt => [interrupt, base, any]
  | ordinary => [ordinary, base, any]
  | lookup => [lookup, ordinary, base, any]
  | arithmetic => [arithmetic, ordinary, base, any]
  | overflow => [overflow, arithmetic, ordinary, base, any]
  | value => [value, ordinary, base, any]
  | type => [type, ordinary, base, any]
  | key => [key, lookup, ordinary, base, any]
  | index => [index, lookup, ordinary, base, any]
  | runtime => [runtime, ordinary, base, any]
  | system => [system, ordinary, base, any]
  | member => [member, ordinary, base, any]
  | frozenField => [frozenField, member, ordinary, base, any]
  | cipher => [cipher, ordinary, base, any]
  | invalidKeyType => [invalidKeyType, cipher, type, ordinary, base, any]
  | missingPrivateKey => [missingPrivateKey, cipher, ordinary, base, any]
  | encryption => [encryption, cipher, ordinary, base, any]
  | decryption => [decryption, cipher, ordinary, base, any]
  | serialization => [serialization, cipher, ordinary, base, any]
  | unsupportedAlgorithm => [unsupportedAlgorithm, cipher, lookup, ordinary, base, any]

inductive Fault where
  | invalidKeyType (typeName : String)
  | keyMismatch
  | missingPrivateKey
  | encryptionFailed (cause : Fault)
  | decryptionFailed
  | serializationFailed (cause : Fault)
  | unsupportedAlgorithm (selected : String) (available : List String)
  | emptyIdentifier
  | invalidLevel (level : String)
  | invalidConfiguration (environment : String) (problems : List String)
  | reservedAttribute (name : String)
  | spentToken
  /-- Something that is no octet string was to be encrypted; nothing at all has no type name. -/
  | notOctets (typeName : Option String)
  | notReversible (typeName : String)
  /-- Something was called without the one argument that it cannot do without. -/
  | missingArgument (callee argument : String)
  /-- Something was called with more arguments than the one that it may have. -/
  | tooManyArguments (callee : String) (count : Nat)
  | unknownField (owner name : String)
  /-- Settings were to be made with a field that stands for the settings themselves. -/
  | repeatedField (owner name : String)
  /-- The name or the value of a variable was to be no text. -/
  | variableNotText (typeName : String)
  /-- The name or the value of a variable was to hold a zero. -/
  | zeroInVariable
  /-- A variable was to be set whose name is empty or holds an equals sign. -/
  | illegalVariable (name : String)
  /-- A collection was used where something is looked up. -/
  | unhashable (typeName : String)
  | loggerNotText
  /-- An octet beyond the end of an octet string was to be changed. -/
  | noSuchOctet
  | refusedByKey (direction : String)
  | missingMember (typeName member : String)
  /-- A member was to be set or deleted; what has it keeps it as it is. -/
  | fixedMember (typeName member : String) (present : Bool)
  | frozenField (change name : String)
  /-- A member that is no field was to be changed; what guards the fields fails before it can tell. -/
  | brokenGuard
  /-- An entry of a record was to be set whose name belongs to the object itself. -/
  | fixedEntry (name : String)
  | notHashable (typeName : String)
  | integerTooLong
  | unknownName (name : String)
  | unknownToken (name : String)
  | mismatch (reason : Log.Mismatch)
  | outOfTime (reason : Log.OutOfTime)
  | noReport (reason : Log.NoReport)
  /-- Raised by a scripted part, with any number of values. -/
  | raised (kind : Kind) (values : List Json)
deriving DecidableEq, Repr

namespace Fault

def kind : Fault → Kind
  | invalidKeyType _ => .invalidKeyType
  | keyMismatch => .value
  | missingPrivateKey => .missingPrivateKey
  | encryptionFailed _ => .encryption
  | decryptionFailed => .decryption
  | serializationFailed _ => .serialization
  | unsupportedAlgorithm .. => .unsupportedAlgorithm
  | emptyIdentifier => .value
  | invalidLevel _ => .value
  | invalidConfiguration .. => .runtime
  | reservedAttribute _ => .key
  | spentToken => .runtime
  | notOctets _ => .type
  | notReversible _ => .type
  | missingArgument .. => .type
  | tooManyArguments .. => .type
  | unknownField .. => .type
  | repeatedField .. => .type
  | variableNotText _ => .type
  | zeroInVariable => .value
  | illegalVariable name => if name = "" then .system else .value
  | unhashable _ => .type
  | loggerNotText => .type
  | noSuchOctet => .index
  | refusedByKey _ => .value
  | missingMember .. => .member
  | fixedMember .. => .member
  | frozenField .. => .frozenField
  | brokenGuard => .type
  | fixedEntry name => if name = "__weakref__" then .member else .type
  | notHashable _ => .type
  | integerTooLong => .value
  | unknownName _ => .key
  | unknownToken _ => .key
  | mismatch reason =>
    match reason with
    | .tooFew | .tooMany | .notTable | .wrongIndex _ | .amountNotInteger | .notNumber ..
    | .notInteger .. | .notReal _ | .notCharacter | .replaced _ => .type
    | .missingKey _ => .key
    | .amountBeyond _ | .precisionTooLarge | .infinite | .beyondFloat | .beyondCharacters =>
      .overflow
    | .unfinishedKey | .incomplete | .unknownPlace .. | .amountTooBig _ | .undefined
    | .halfCharacter | .tooLong => .value
  | outOfTime reason =>
    match reason with
    | .undivided _ | .unadded _ => .type
    | .undefined => .value
    | .calendar => .system
    | .number | .quotient | .seconds | .year => .overflow
  | noReport reason =>
    match reason with
    | .withoutParts _ => .type
    | .ended _ => .index
    | .named => .key
    | .wrongPart .. => .member
  | raised kind _ => kind

def isOrdinary (f : Fault) : Bool := f.kind.lineage.contains .ordinary

def isCipherFault (f : Fault) : Bool := f.kind.lineage.contains .cipher

def isMissing (f : Fault) : Bool := f.kind.lineage.contains .member

def systemText (number text : Json) (first second : Json) : String :=
  let files :=
    if first = .null then ""
    else if second = .null then ": " ++ first.inspect
    else ": " ++ first.inspect ++ " -> " ++ second.inspect
  "[Errno " ++ number.display ++ "] " ++ text.display ++ files

/-- One text stands for itself, and several values are shown as a tuple. A missing key is quoted, a
key of a wrong type shows no more than its type, and a fault of the system has parts. -/
def textOf (kind : Kind) (values : List Json) : String :=
  match kind, values with
  | .invalidKeyType, [v] => "could not create RSA cipher from " ++ v.typeName
  | .key, [v] => v.inspect
  | .system, [number, text] => systemText number text .null .null
  | .system, [number, text, file] | .system, [number, text, file, _] =>
    systemText number text file .null
  | .system, [number, text, file, _, other] => systemText number text file other
  | _, [] => ""
  | _, [v] => v.display
  | _, values => "(" ++ ", ".intercalate (values.map Json.inspect) ++ ")"

/-- A message shows no more than 50 characters of the name of a type that lacks a member, and no
more than 100 if the member was to be changed. -/
def message : Fault → String
  | invalidKeyType typeName => "could not create RSA cipher from " ++ typeName
  | keyMismatch => "private key does not match public key"
  | missingPrivateKey => "private key required for decryption"
  | encryptionFailed cause => "RSA-OAEP encryption failed: " ++ cause.message
  | decryptionFailed => "RSA-OAEP decryption failed"
  | serializationFailed cause => "Public key serialization failed: " ++ cause.message
  | unsupportedAlgorithm selected available =>
    "Algoritmo de cipher não suportado: " ++ selected ++ ". Disponíveis: " ++
      ", ".intercalate available
  | emptyIdentifier => "algorithm não pode ser vazio"
  | invalidLevel level =>
    "Nível de log inválido: " ++ level ++ ". Válidos: " ++
      ", ".intercalate (Log.Level.all.map Log.Level.name)
  | invalidConfiguration environment problems =>
    "Configuração inválida para " ++ environment ++ ":\n" ++
      "\n".intercalate (problems.map ("- " ++ ·))
  | reservedAttribute name =>
    Text.quoted ("Attempt to overwrite " ++ Text.quoted name ++ " in LogRecord")
  | spentToken => ""
  | notOctets typeName =>
    match typeName with
    | some t => "'" ++ t ++ "' object is not an instance of 'bytes'"
    | none => "'None' is not an instance of 'bytes'"
  | notReversible typeName =>
    if typeName = "dict" then "unhashable type: 'slice'"
    else "'" ++ typeName ++ "' object is not subscriptable"
  | missingArgument callee argument =>
    callee ++ "() missing 1 required positional argument: '" ++ argument ++ "'"
  | tooManyArguments callee count =>
    callee ++ "() takes from 0 to 1 positional arguments but " ++ Decimal.integerText count ++
      " were given"
  | repeatedField owner name =>
    owner ++ ".__init__() got multiple values for argument '" ++ name ++ "'"
  | variableNotText typeName => "str expected, not " ++ typeName
  | zeroInVariable => "embedded null byte"
  | unhashable typeName => "unhashable type: '" ++ typeName ++ "'"
  | loggerNotText => "A logger name must be a string"
  | unknownField owner name =>
    owner ++ ".__init__() got an unexpected keyword argument '" ++ name ++ "'"
  | illegalVariable name =>
    if name = "" then "[Errno 22] Invalid argument" else "illegal environment variable name"
  | noSuchOctet => "bytearray index out of range"
  | refusedByKey direction => direction ++ " failed"
  | missingMember typeName member =>
    "'" ++ String.ofList (typeName.toList.take 50) ++ "' object has no attribute '" ++ member ++ "'"
  | fixedMember typeName member present =>
    if present then
      "'" ++ String.ofList (typeName.toList.take 50) ++ "' object attribute '" ++ member ++
        "' is read-only"
    else
      "'" ++ String.ofList (typeName.toList.take 100) ++ "' object has no attribute '" ++ member ++
        "'"
  | frozenField change name => "cannot " ++ change ++ " field " ++ Text.quoted name
  | brokenGuard => "super(type, obj): obj must be an instance or subtype of type"
  | fixedEntry name =>
    if name = "__class__" then "__class__ must be set to a class, not 'str' object"
    else if name = "__dict__" then "__dict__ must be set to a dictionary, not a 'str'"
    else "attribute '" ++ name ++ "' of 'LogRecord' objects is not writable"
  | notHashable typeName =>
    if typeName = "str" then "Strings must be encoded before hashing"
    else "object supporting the buffer API required"
  | integerTooLong => Log.Mismatch.tooLong.message
  | unknownName name => Text.quoted name
  | unknownToken _ => ""
  | mismatch reason => reason.message
  | outOfTime reason => reason.message
  | noReport reason => reason.message
  | raised kind values => textOf kind values

def cause : Fault → Option Kind
  | encryptionFailed cause => some cause.kind
  | serializationFailed cause => some cause.kind
  | _ => none

end Fault

def Json.textFor (member : String) : Json → Except Fault String
  | text s => .ok s
  | v => .error (.missingMember v.typeName member)

end PayloadCipher
