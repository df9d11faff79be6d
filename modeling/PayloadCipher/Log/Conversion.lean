import PayloadCipher.Decimal.Rounded
import PayloadCipher.Json.Display

/-! What a place in a message text is filled with. The letter of the place says how an argument is
written; flags, a width and a precision say how it is laid out. -/

namespace PayloadCipher.Log

inductive Mismatch where
  | tooFew
  | tooMany
  | notTable
  | missingKey (name : String)
  | wrongIndex (sequence : String)
  | unfinishedKey
  | incomplete
  | unknownPlace (c : Char) (index : Nat)
  /-- A width or a precision among the arguments is no integer. -/
  | amountNotInteger
  | amountTooBig (amount : String)
  | amountBeyond (type : String)
  | precisionTooLarge
  | notNumber (letter : Char) (typeName : String)
  | notInteger (letter : Char) (typeName : String)
  | notReal (typeName : String)
  | infinite
  | undefined
  | beyondFloat
  | notCharacter
  | beyondCharacters
  /-- Texts are made of characters, and half of a surrogate pair is none. -/
  | halfCharacter
  | tooLong
  /-- What should put the arguments in has been replaced by a value. -/
  | replaced (typeName : String)
deriving DecidableEq, Repr

def Mismatch.message : Mismatch → String
  | tooFew => "not enough arguments for format string"
  | tooMany => "not all arguments converted during string formatting"
  | notTable => "format requires a mapping"
  | missingKey name => Text.quoted name
  | wrongIndex sequence => sequence ++ " indices must be integers or slices, not str"
  | unfinishedKey => "incomplete format key"
  | incomplete => "incomplete format"
  | unknownPlace c index =>
    "unsupported format character '" ++
      String.singleton (if 31 ≤ c.toNat ∧ c.toNat < 127 then c else '?') ++ "' (0x" ++
      String.ofList (Nat.toDigits 16 c.toNat) ++ ") at index " ++ Decimal.integerText index
  | amountNotInteger => "* wants int"
  | amountTooBig amount => amount ++ " too big"
  | amountBeyond type => "Python int too large to convert to C " ++ type
  | precisionTooLarge => "precision too large"
  | notNumber letter typeName =>
    "%" ++ String.singleton letter ++ " format: a real number is required, not " ++ typeName
  | notInteger letter typeName =>
    "%" ++ String.singleton letter ++ " format: an integer is required, not " ++ typeName
  | notReal typeName => "must be real number, not " ++ typeName
  | infinite => "cannot convert float infinity to integer"
  | undefined => "cannot convert float NaN to integer"
  | beyondFloat => "int too large to convert to float"
  | notCharacter => "%c requires int or char"
  | beyondCharacters => "%c arg not in range(0x110000)"
  | halfCharacter => "surrogates not allowed"
  | tooLong =>
    "Exceeds the limit (4300 digits) for integer string conversion; " ++
      "use sys.set_int_max_str_digits() to increase the limit"
  | replaced typeName => "'" ++ typeName ++ "' object is not callable"

structure Form where
  flags : List Char
  width : Nat
  precision : Option Nat
deriving DecidableEq, Repr

/-- What a place is filled with. The sign and the mark of the base stay in front of zeros. -/
structure Filling where
  numeric : Bool
  sign : List Char
  mark : List Char
  body : List Char
deriving DecidableEq, Repr

namespace Form

def has (form : Form) (flag : Char) : Bool := form.flags.contains flag

def layOut (form : Form) (filling : Filling) : List Char :=
  let front := filling.sign ++ filling.mark
  let missing := form.width - (front.length + filling.body.length)
  if form.has '-' then front ++ filling.body ++ List.replicate missing ' '
  else if form.has '0' && filling.numeric then front ++ List.replicate missing '0' ++ filling.body
  else List.replicate missing ' ' ++ front ++ filling.body

def sign (form : Form) (negative : Bool) : List Char :=
  if negative then ['-'] else if form.has '+' then ['+'] else if form.has ' ' then [' '] else []

def text (form : Form) (s : String) : Filling where
  numeric := false
  sign := []
  mark := []
  body := match form.precision with
    | some count => s.toList.take count
    | none => s.toList

def character (c : Char) : Filling where
  numeric := false
  sign := []
  mark := []
  body := [c]

def integer (form : Form) (base : Nat) (mark : List Char) (i : Int) : Filling where
  numeric := true
  sign := form.sign (i < 0)
  mark := if form.has '#' then mark else []
  body := Decimal.padLeft (form.precision.getD 0) (Nat.toDigits base i.natAbs)

def real (form : Form) (letter : Char) (x : Decimal.Binary64) : Filling where
  numeric := true
  sign := form.sign (x.isNegative && !x.isNaN)
  mark := []
  body :=
    let count := form.precision.getD 6
    let keep := form.has '#'
    let body :=
      if x.isNaN then "nan".toList
      else if !x.isFinite then "inf".toList
      else if letter.toLower = 'e' then x.magnitude.exponential keep count
      else if letter.toLower = 'f' then x.magnitude.fixed keep count
      else x.magnitude.general keep (max 1 count)
    if letter.isUpper then body.map Char.toUpper else body

end Form

def integerPart (letter : Char) (v : Json) : Except Mismatch Int :=
  match v.number? with
  | some (.inl i) => .ok i
  | some (.inr x) =>
    if x.isNaN then .error .undefined
    else if x.isFinite then .ok x.truncate
    else .error .infinite
  | none => .error (.notNumber letter v.typeName)

def integerOf (letter : Char) (v : Json) : Except Mismatch Int :=
  match v.number? with
  | some (.inl i) => .ok i
  | _ => .error (.notInteger letter v.typeName)

def realOf (v : Json) : Except Mismatch Decimal.Binary64 :=
  match v.number? with
  | some (.inl i) =>
    let x := Decimal.Binary64.ofInt i
    if x.isFinite then .ok x else .error .beyondFloat
  | some (.inr x) => .ok x
  | none => .error (.notReal v.typeName)

def characterOf (v : Json) : Except Mismatch Char :=
  match v, v.number? with
  | .text s, _ =>
    match s.toList with
    | [c] => .ok c
    | _ => .error .notCharacter
  | _, some (.inl i) =>
    if i < 0 ∨ 0x110000 ≤ i then .error .beyondCharacters
    else if 0xd800 ≤ i ∧ i < 0xe000 then .error .halfCharacter
    else .ok (Char.ofNat i.toNat)
  | _, _ => .error .notCharacter

def ifShort (v : Json) (text : String) : Except Mismatch String :=
  if v.isTooLong then .error .tooLong else .ok text

/-- No precision may come closer to the largest one than this. -/
def largestPrecision : Nat := (1 <<< 31) - 4

def Form.checkPrecision (form : Form) : Except Mismatch Unit :=
  if largestPrecision < form.precision.getD 0 then .error .precisionTooLarge else .ok ()

def Form.filling (form : Form) (letter : Char) (index : Nat) (v : Json) :
    Except Mismatch Filling := do
  match letter with
  | 's' => return form.text (← ifShort v v.display)
  | 'r' => return form.text (← ifShort v v.inspect)
  | 'a' => return form.text (← ifShort v (Text.inAscii v.inspect))
  | 'c' => return character (← characterOf v)
  | 'd' | 'i' | 'u' =>
    let i ← integerPart letter v
    form.checkPrecision
    if Decimal.isTooLong i then throw .tooLong
    return form.integer 10 [] i
  | 'o' =>
    let i ← integerOf letter v
    form.checkPrecision
    return form.integer 8 ['0', 'o'] i
  | 'x' =>
    let i ← integerOf letter v
    form.checkPrecision
    return form.integer 16 ['0', 'x'] i
  | 'X' =>
    let i ← integerOf letter v
    form.checkPrecision
    let filling := form.integer 16 ['0', 'X'] i
    return { filling with body := filling.body.map Char.toUpper }
  | 'e' | 'E' | 'f' | 'F' | 'g' | 'G' => return form.real letter (← realOf v)
  | c => throw (.unknownPlace c index)

end PayloadCipher.Log
