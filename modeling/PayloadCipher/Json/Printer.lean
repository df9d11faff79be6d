import PayloadCipher.Base64
import PayloadCipher.Decimal.Integer
import PayloadCipher.Decimal.Shortest
import PayloadCipher.Json
import PayloadCipher.Text.Quoted

/-! The written form of a value: one line of printable ASCII. Controls and characters beyond ASCII
are written as escapes of their UTF-16 units, octet strings in the base 64 alphabet for names, and
items and fields are parted by `", "` and `": "`. -/

namespace PayloadCipher.Json

def floatLayout : Decimal.Layout :=
  { Decimal.Layout.plain with infinity := "Infinity", nan := "NaN" }

def unitEscape (n : Nat) : List Char := '\\' :: 'u' :: Text.hexDigits 4 n

def codeEscape (n : Nat) : List Char :=
  if n < 0x10000 then unitEscape n
  else
    let rest := n - 0x10000
    unitEscape (0xd800 + rest / 0x400) ++ unitEscape (0xdc00 + rest % 0x400)

def namedEscape? (c : Char) : Option Char :=
  if c = '"' then some '"' else if c = '\\' then some '\\' else if c = '\n' then some 'n'
  else if c = '\r' then some 'r' else if c = '\t' then some 't'
  else if c = '\x08' then some 'b' else if c = '\x0c' then some 'f' else none

def writeChar (c : Char) : List Char :=
  match namedEscape? c with
  | some e => ['\\', e]
  | none => if 32 ≤ c.toNat ∧ c.toNat < 127 then [c] else codeEscape c.toNat

def writeText (cs : List Char) : List Char := '"' :: (cs.flatMap writeChar ++ ['"'])

mutual
def write : Json → List Char
  | null => "null".toList
  | bool b => if b then "true".toList else "false".toList
  | int i => Decimal.writeInt i
  | float x => floatLayout.write x
  | text s => writeText s.toList
  | octets b => writeText (Base64.encode Base64.urlSafe b)
  | array [] => ['[', ']']
  | array (v :: items) => '[' :: (write v ++ writeItems items)
  | object [] => ['\x7b', '\x7d']
  | object ((name, v) :: fields) =>
    '\x7b' :: (writeText name.toList ++ ':' :: ' ' :: (write v ++ writeFields fields))

def writeItems : List Json → List Char
  | [] => [']']
  | v :: items => ',' :: ' ' :: (write v ++ writeItems items)

def writeFields : List (String × Json) → List Char
  | [] => ['\x7d']
  | (name, v) :: fields =>
    ',' :: ' ' :: (writeText name.toList ++ ':' :: ' ' :: (write v ++ writeFields fields))
end

def render (v : Json) : String := String.ofList v.write

end PayloadCipher.Json
