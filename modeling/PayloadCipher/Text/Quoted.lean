import PayloadCipher.Bytes
import PayloadCipher.Text.Printable

/-! Quoted forms of texts and octet strings. The quote is single unless the content holds single
quotes and no double ones; the quote in use, the backslash and whatever has no visible form
are written as escapes. -/

namespace PayloadCipher.Text

def hexDigit (n : Nat) : Char := "0123456789abcdef".toList.getD n '0'

def hexDigits (len n : Nat) : List Char :=
  (List.range len).map fun i => hexDigit (n >>> (4 * (len - 1 - i)) % 16)

def quoteFor (content : List Char) : Char :=
  if content.contains '\'' && !content.contains '"' then '"' else '\''

def namedEscape? (c : Char) : Option Char :=
  if c = '\n' then some 'n' else if c = '\r' then some 'r' else if c = '\t' then some 't' else none

def codeEscape (c : Char) : List Char :=
  let n := c.toNat
  if n < 0x100 then '\\' :: 'x' :: hexDigits 2 n
  else if n < 0x10000 then '\\' :: 'u' :: hexDigits 4 n
  else '\\' :: 'U' :: hexDigits 8 n

def quotedChar (quote c : Char) : List Char :=
  if c = quote ∨ c = '\\' then ['\\', c]
  else match namedEscape? c with
    | some e => ['\\', e]
    | none => if isPrintable c then [c] else codeEscape c

def quoted (s : String) : String :=
  let quote := quoteFor s.toList
  String.ofList (quote :: s.toList.flatMap (quotedChar quote) ++ [quote])

def inAscii (s : String) : String :=
  String.ofList (s.toList.flatMap fun c => if c.toNat < 128 then [c] else codeEscape c)

def quotedOctets (b : Bytes) : String :=
  let content := b.map fun x => Char.ofNat x.toNat
  let quote := quoteFor content
  let body := content.flatMap fun c =>
    if c.toNat < 128 then quotedChar quote c else codeEscape c
  String.ofList ('b' :: quote :: body ++ [quote])

end PayloadCipher.Text
