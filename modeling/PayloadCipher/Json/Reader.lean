import PayloadCipher.Json

/-! Reads the written form of values, with blanks allowed between tokens. Fields are given in the
order of the text, escapes of two UTF-16 units become one character, and numbers without
fraction and exponent are integers of any size. The depth of a value is bounded by fuel, which
`parse` takes from the length of the text. -/

namespace PayloadCipher.Json

def isSpace (c : Char) : Bool := c = ' ' || c = '\n' || c = '\r' || c = '\t'

def skipSpace (cs : List Char) : List Char := cs.dropWhile isSpace

def hexValue? (c : Char) : Option Nat :=
  let n := c.toNat
  if 48 ≤ n ∧ n ≤ 57 then some (n - 48)
  else if 97 ≤ n ∧ n ≤ 102 then some (n - 87)
  else if 65 ≤ n ∧ n ≤ 70 then some (n - 55)
  else none

def hexNumber? (cs : List Char) : Option Nat :=
  cs.foldlM (fun n c => (hexValue? c).map (n * 16 + ·)) 0

def escapedCode? (c : Char) : Option Nat :=
  if c = '"' ∨ c = '\\' ∨ c = '/' then some c.toNat
  else if c = 'n' then some 10 else if c = 'r' then some 13 else if c = 't' then some 9
  else if c = 'b' then some 8 else if c = 'f' then some 12 else none

def readUnits : List Char → Option (List Nat × List Char)
  | [] => none
  | '"' :: rest => some ([], rest)
  | '\\' :: 'u' :: a :: b :: c :: d :: rest =>
    match hexNumber? [a, b, c, d], readUnits rest with
    | some n, some (units, rest) => some (n :: units, rest)
    | _, _ => none
  | '\\' :: e :: rest =>
    match escapedCode? e, readUnits rest with
    | some n, some (units, rest) => some (n :: units, rest)
    | _, _ => none
  | c :: rest =>
    if c.toNat < 32 ∨ c = '\\' then none
    else match readUnits rest with
      | some (units, rest) => some (c.toNat :: units, rest)
      | none => none

/-- Joins pairs of units; a unit without its partner becomes the replacement character. -/
def joinUnits : List Nat → List Char
  | [] => []
  | [n] => [if 0xd800 ≤ n ∧ n < 0xe000 then '\ufffd' else Char.ofNat n]
  | n :: m :: rest =>
    if 0xd800 ≤ n ∧ n < 0xdc00 ∧ 0xdc00 ≤ m ∧ m < 0xe000 then
      Char.ofNat (0x10000 + (n - 0xd800) * 0x400 + (m - 0xdc00)) :: joinUnits rest
    else if 0xd800 ≤ n ∧ n < 0xe000 then '\ufffd' :: joinUnits (m :: rest)
    else Char.ofNat n :: joinUnits (m :: rest)

def readText? (cs : List Char) : Option (String × List Char) :=
  (readUnits cs).map fun (units, rest) => (String.ofList (joinUnits units), rest)

def isDigit (c : Char) : Bool := 48 ≤ c.toNat && c.toNat ≤ 57

def digitsValue (cs : List Char) : Nat := cs.foldl (fun n c => n * 10 + (c.toNat - 48)) 0

def readDigits? (cs : List Char) : Option (List Char × List Char) :=
  match cs.takeWhile isDigit with
  | [] => none
  | digits =>
    if digits.head? = some '0' ∧ digits.length ≠ 1 then none
    else some (digits, cs.dropWhile isDigit)

def readFraction? : List Char → Option (List Char × List Char)
  | '.' :: rest =>
    match rest.takeWhile isDigit with
    | [] => none
    | digits => some (digits, rest.dropWhile isDigit)
  | cs => some ([], cs)

def readExponent? : List Char → Option (Option Int × List Char)
  | c :: rest =>
    if c = 'e' ∨ c = 'E' then
      let (sign, body) : Int × List Char := match rest with
        | '-' :: body => (-1, body)
        | '+' :: body => (1, body)
        | body => (1, body)
      match body.takeWhile isDigit with
      | [] => none
      | digits => some (some (sign * digitsValue digits), body.dropWhile isDigit)
    else some (none, c :: rest)
  | [] => some (none, [])

def readMagnitude? (negative : Bool) (cs : List Char) : Option (Json × List Char) := do
  let (whole, rest) ← readDigits? cs
  let (fraction, rest) ← readFraction? rest
  let (exponent, rest) ← readExponent? rest
  if fraction = [] ∧ exponent = none then
    let n : Int := digitsValue whole
    some (int (if negative then -n else n), rest)
  else
    some (float (.ofDecimal negative (digitsValue (whole ++ fraction))
      (exponent.getD 0 - fraction.length)), rest)

def dropWord? (word cs : List Char) : Option (List Char) :=
  if word.isPrefixOf cs then some (cs.drop word.length) else none

def readNumber? : List Char → Option (Json × List Char)
  | '-' :: rest =>
    match dropWord? "Infinity".toList rest with
    | some rest => some (float (.infinity true), rest)
    | none => readMagnitude? true rest
  | cs => readMagnitude? false cs

def words : List (List Char × Json) :=
  [("null".toList, null), ("true".toList, bool true), ("false".toList, bool false),
   ("NaN".toList, float .nan), ("Infinity".toList, float (.infinity false))]

def readWord? (cs : List Char) : Option (Json × List Char) :=
  words.findSome? fun (word, v) => (dropWord? word cs).map (v, ·)

mutual
def readValue : Nat → List Char → Option (Json × List Char)
  | 0, _ => none
  | fuel + 1, cs =>
    match skipSpace cs with
    | '"' :: rest => (readText? rest).map fun (s, rest) => (text s, rest)
    | '[' :: rest =>
      match skipSpace rest with
      | ']' :: rest => some (array [], rest)
      | rest =>
        match readValue fuel rest with
        | some (v, rest) => (readItems fuel rest).map fun (vs, rest) => (array (v :: vs), rest)
        | none => none
    | '\x7b' :: rest =>
      match skipSpace rest with
      | '\x7d' :: rest => some (object [], rest)
      | rest =>
        match readField fuel rest with
        | some (f, rest) => (readFields fuel rest).map fun (fs, rest) => (object (f :: fs), rest)
        | none => none
    | cs =>
      match readWord? cs with
      | some found => some found
      | none => readNumber? cs

def readItems : Nat → List Char → Option (List Json × List Char)
  | 0, _ => none
  | fuel + 1, cs =>
    match skipSpace cs with
    | ']' :: rest => some ([], rest)
    | ',' :: rest =>
      match readValue fuel rest with
      | some (v, rest) => (readItems fuel rest).map fun (vs, rest) => (v :: vs, rest)
      | none => none
    | _ => none

def readField : Nat → List Char → Option ((String × Json) × List Char)
  | 0, _ => none
  | fuel + 1, cs =>
    match skipSpace cs with
    | '"' :: rest =>
      match readText? rest with
      | some (name, rest) =>
        match skipSpace rest with
        | ':' :: rest => (readValue fuel rest).map fun (v, rest) => ((name, v), rest)
        | _ => none
      | none => none
    | _ => none

def readFields : Nat → List Char → Option (List (String × Json) × List Char)
  | 0, _ => none
  | fuel + 1, cs =>
    match skipSpace cs with
    | '\x7d' :: rest => some ([], rest)
    | ',' :: rest =>
      match readField fuel rest with
      | some (f, rest) => (readFields fuel rest).map fun (fs, rest) => (f :: fs, rest)
      | none => none
    | _ => none
end

def parse (s : String) : Option Json :=
  let cs := s.toList
  match readValue (2 * cs.length + 2) cs with
  | some (v, rest) => if skipSpace rest = [] then some v else none
  | none => none

end PayloadCipher.Json
