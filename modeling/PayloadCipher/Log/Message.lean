import PayloadCipher.Log.Conversion

/-! Message texts with arguments put in. A percent sign begins a place, unless a second one follows
it. Places take the arguments one after the other, or by name from a single table. Without arguments
a text is left as it is. -/

namespace PayloadCipher.Log

inductive Amount where
  | given (n : Nat)
  | taken
deriving DecidableEq, Repr

inductive Key where
  | named (name : String)
  | unfinished
deriving DecidableEq, Repr

structure Place where
  key : Option Key
  flags : List Char
  width : Option Amount
  precision : Option Amount
  letter : Option Char
  index : Nat
deriving DecidableEq, Repr

inductive Piece where
  | plain (c : Char)
  | place (p : Place)
deriving DecidableEq, Repr

/-! Reading a text -/

def readName (depth : Nat) (before : List Char) : List Char → Option (List Char × List Char)
  | [] => none
  | c :: cs =>
    if c = ')' then
      match depth with
      | 0 => some (before.reverse, cs)
      | depth + 1 => readName depth (c :: before) cs
    else readName (if c = '(' then depth + 1 else depth) (c :: before) cs

def readKey (cs : List Char) : Option Key × List Char :=
  match cs with
  | '(' :: cs =>
    match readName 0 [] cs with
    | some (name, rest) => (some (.named (String.ofList name)), rest)
    | none => (some .unfinished, [])
  | cs => (none, cs)

def isFlag (c : Char) : Bool := ['-', '+', ' ', '#', '0'].contains c

def readAmount (cs : List Char) : Option Amount × List Char :=
  match cs with
  | '*' :: rest => (some .taken, rest)
  | cs =>
    let digits := cs.takeWhile Char.isDigit
    if digits = [] then (none, cs)
    else (some (.given (Nat.ofDigitChars 10 digits 0)), cs.dropWhile Char.isDigit)

def readPrecision (cs : List Char) : Option Amount × List Char :=
  match cs with
  | '.' :: cs =>
    let (amount, rest) := readAmount cs
    (some (amount.getD (.given 0)), rest)
  | cs => (none, cs)

def skipSize (cs : List Char) : List Char :=
  match cs with
  | 'h' :: rest | 'l' :: rest | 'L' :: rest => rest
  | cs => cs

def readPlace (length : Nat) (cs : List Char) : Place × List Char :=
  let (key, cs) := readKey cs
  let flags := cs.takeWhile isFlag
  let (width, cs) := readAmount (cs.dropWhile isFlag)
  let (precision, cs) := readPrecision cs
  let cs := skipSize cs
  ({ key := key, flags := flags, width := width, precision := precision, letter := cs.head?,
     index := length - cs.length }, cs.tail)

def pieces (length : Nat) : Nat → List Char → List Piece
  | _, [] => []
  | skipped + 1, _ :: cs => pieces length skipped cs
  | 0, c :: cs =>
    if c ≠ '%' then .plain c :: pieces length 0 cs
    else if cs.head? = some '%' then .plain c :: pieces length 1 cs
    else
      let (place, rest) := readPlace length cs
      .place place :: pieces length (cs.length - rest.length) cs

/-! Filling the places -/

/-- The arguments of a message: one for each place in its text, or one value as a whole. -/
inductive Arguments where
  | each (vs : List Json)
  | whole (v : Json)

structure Pending where
  values : List Json
  table : Option Json

namespace Arguments

def isEmpty : Arguments → Bool
  | each vs => vs.isEmpty
  | whole v => !v.isTruthy

/-- Names can be looked up in every collection, even if only a table has any. -/
def pending : Arguments → Pending
  | each vs => ⟨vs, none⟩
  | whole v =>
    match v with
    | .object _ | .array _ | .octets _ => ⟨[v], some v⟩
    | v => ⟨[v], none⟩

end Arguments

namespace Pending

def next (p : Pending) : Except Mismatch (Json × Pending) :=
  match p.values with
  | [] => .error .tooFew
  | v :: rest => .ok (v, { p with values := rest })

/-- A value that is looked up is the only one left. -/
def lookUp (p : Pending) (key : Key) : Except Mismatch Pending :=
  match p.table, key with
  | none, _ => .error .notTable
  | some _, .unfinished => .error .unfinishedKey
  | some (.object fields), .named name =>
    match fields.lookup name with
    | some v => .ok { p with values := [v] }
    | none => .error (.missingKey name)
  | some (.octets _), .named _ => .error (.wrongIndex "byte")
  | some _, .named _ => .error (.wrongIndex "list")

/-- A width or a precision that is below `bound`. Only one that is taken can be negative. -/
def amount (p : Pending) (name type : String) (bound : Nat) (a : Amount) :
    Except Mismatch (Int × Pending) := do
  match a with
  | .given n => if n < bound then return (n, p) else throw (.amountTooBig name)
  | .taken =>
    let (v, p) ← p.next
    match v.number? with
    | some (.inl i) => if -bound ≤ i ∧ i < bound then return (i, p) else throw (.amountBeyond type)
    | _ => throw .amountNotInteger

def widthBound : Nat := 1 <<< 63

def precisionBound : Nat := 1 <<< 31

def form (p : Pending) (place : Place) : Except Mismatch (Form × Pending) := do
  let (width, p) ← match place.width with
    | some a => p.amount "width" "ssize_t" widthBound a
    | none => pure (0, p)
  let (precision, p) ← match place.precision with
    | some a => do
      let (precision, p) ← p.amount "precision" "int" precisionBound a
      pure (some precision.toNat, p)
    | none => pure (none, p)
  let flags := if width < 0 then '-' :: place.flags else place.flags
  return (⟨flags, width.natAbs, precision⟩, p)

end Pending

def Place.fill (place : Place) (p : Pending) : Except Mismatch (List Char × Pending) := do
  let p ← match place.key with
    | some key => p.lookUp key
    | none => pure p
  let (form, p) ← p.form place
  match place.letter with
  | none => throw .incomplete
  | some letter =>
    let (v, p) ← p.next
    return (form.layOut (← form.filling letter place.index v), p)

def fillIn : List Piece → Pending → Except Mismatch (List Char × Pending)
  | [], p => .ok ([], p)
  | .plain c :: rest, p => do
    let (cs, p) ← fillIn rest p
    return (c :: cs, p)
  | .place place :: rest, p => do
    let (filled, p) ← place.fill p
    let (cs, p) ← fillIn rest p
    return (filled ++ cs, p)

/-- All arguments have to be used, unless names could be looked up in them. -/
def messageText (message : Json) (arguments : Arguments) : Except Mismatch String := do
  let text ← ifShort message message.display
  if arguments.isEmpty then return text
  let cs := text.toList
  let (filled, left) ← fillIn (pieces cs.length 0 cs) arguments.pending
  if left.values.isEmpty || left.table.isSome then return String.ofList filled
  throw .tooMany

end PayloadCipher.Log
