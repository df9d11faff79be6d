import PayloadCipher.Bytes

/-! Base 64: three octets in four symbols, the last group closed by `=` signs. Reading accepts
exactly what writing produces: whole groups, closing signs only at the end, and no bit set in
the part of a symbol that the closing signs leave unused. -/

namespace PayloadCipher.Base64

structure Alphabet where
  symbols : List Char
deriving DecidableEq, Repr

def letters : List Char := "ABCDEFGHIJKLMNOPQRSTUVWXYZabcdefghijklmnopqrstuvwxyz0123456789".toList

def standard : Alphabet := ⟨letters ++ ['+', '/']⟩

def urlSafe : Alphabet := ⟨letters ++ ['-', '_']⟩

def Alphabet.symbol (alphabet : Alphabet) (v : Nat) : Char := alphabet.symbols.getD v '='

def Alphabet.value? (alphabet : Alphabet) (c : Char) : Option Nat := alphabet.symbols.idxOf? c

def encode (alphabet : Alphabet) : Bytes → List Char
  | [] => []
  | [x] =>
    [alphabet.symbol (x.toNat / 4), alphabet.symbol (x.toNat % 4 * 16), '=', '=']
  | [x, y] =>
    [alphabet.symbol (x.toNat / 4), alphabet.symbol (x.toNat % 4 * 16 + y.toNat / 16),
      alphabet.symbol (y.toNat % 16 * 4), '=']
  | x :: y :: z :: rest =>
    alphabet.symbol (x.toNat / 4) :: alphabet.symbol (x.toNat % 4 * 16 + y.toNat / 16) ::
      alphabet.symbol (y.toNat % 16 * 4 + z.toNat / 64) :: alphabet.symbol (z.toNat % 64) ::
        encode alphabet rest

def decode? (alphabet : Alphabet) : List Char → Option Bytes
  | [] => some []
  | s :: t :: u :: v :: rest =>
    match alphabet.value? s, alphabet.value? t, alphabet.value? u, alphabet.value? v with
    | some a, some b, some c, some d =>
      (decode? alphabet rest).map fun tail =>
        UInt8.ofNat (a * 4 + b / 16) :: UInt8.ofNat (b % 16 * 16 + c / 4) ::
          UInt8.ofNat (c % 4 * 64 + d) :: tail
    | some a, some b, some c, none =>
      if v = '=' ∧ rest = [] ∧ c % 4 = 0 then
        some [UInt8.ofNat (a * 4 + b / 16), UInt8.ofNat (b % 16 * 16 + c / 4)]
      else none
    | some a, some b, none, none =>
      if u = '=' ∧ v = '=' ∧ rest = [] ∧ b % 16 = 0 then some [UInt8.ofNat (a * 4 + b / 16)]
      else none
    | _, _, _, _ => none
  | _ => none

def encodeOpen (alphabet : Alphabet) (b : Bytes) : List Char :=
  (encode alphabet b).filter (· ≠ '=')

end PayloadCipher.Base64
