import PayloadCipher.Log.Record

/-! Filters that complete and redact records on their way to a handler. None of them drops a
record. The correlation filter owns two attributes and sets both; the redaction changes the
attributes whose names it knows and adds none; it fails for an entry that cannot be set. -/

namespace PayloadCipher.Log

inductive CorrelationSource where
  | nowhere
  | current
  | constant (identifier : Json)
deriving DecidableEq, Repr

def CorrelationSource.identifier (source : CorrelationSource) (current : Json) : Json :=
  match source with
  | nowhere => .text ""
  | .current => current
  | constant identifier => identifier

inductive Filter where
  | correlation (service : Json) (source : CorrelationSource)
  | redact (names : List String)
deriving DecidableEq, Repr

def redacted : Json := .text "[REDACTED]"

def sensitiveNames : List String :=
  ["plaintext", "ciphertext", "private_key", "public_key", "key_material"]

def namesAmong : List Json → Except Fault (List String)
  | [] => .ok []
  | .text name :: rest => (namesAmong rest).map (name :: ·)
  | v :: rest =>
    match v with
    | .array _ | .object _ => .error (.unhashable v.typeName)
    | _ => namesAmong rest

namespace Filter

/-- An identifier that the record brings along comes first, unless it is empty. -/
def correlate (service : Json) (source : CorrelationSource) (current : Json)
    (r : Record) : Record :=
  let own := r.get "correlation_id"
  let identifier := if own.isTruthy then own else source.identifier current
  (r.set "correlation_id" identifier).set "service" service

def redactNames (names : List String) (r : Record) : Record :=
  { r with
    attributes := r.attributes.map fun (name, v) =>
      (name, if names.contains name then redacted else v)
    listsArguments := r.listsArguments && !names.contains "args"
    holdsReport := r.holdsReport && !names.contains "exc_info" }

/-- Names that belong to the object itself. Extras can put entries of these names into a record, but
setting such an attribute concerns the object. -/
def fixedEntries : List String := ["__class__", "__dict__", "__weakref__"]

def obstacle? (names : List String) (r : Record) : Option String :=
  names.find? fun name => fixedEntries.contains name && (r.get? name).isSome

def apply (current : Json) (r : Record) : Filter → Except Fault Record
  | correlation service source => .ok (correlate service source current r)
  | redact names =>
    match obstacle? names r with
    | some name => .error (.fixedEntry name)
    | none => .ok (redactNames names r)

end Filter
end PayloadCipher.Log
