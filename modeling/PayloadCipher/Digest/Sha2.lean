import PayloadCipher.Bytes

/-! The SHA-2 family over words of `w` bits. A profile fixes the initial state, the round
constants and the four rotation triples; everything else is common. Messages are closed by a
one bit, zeros and the bit length, and are absorbed in blocks of sixteen words. -/

namespace PayloadCipher.Sha2

structure State (w : Nat) where
  a : BitVec w
  b : BitVec w
  c : BitVec w
  d : BitVec w
  e : BitVec w
  f : BitVec w
  g : BitVec w
  h : BitVec w

structure Profile (w : Nat) where
  initial : State w
  constants : List (BitVec w)
  /-- Rotations of the round functions on `a` and on `e`. -/
  bigA : Nat × Nat × Nat
  bigE : Nat × Nat × Nat
  /-- Two rotations and a shift of the schedule functions. -/
  smallA : Nat × Nat × Nat
  smallE : Nat × Nat × Nat

variable {w : Nat}

def rotations (r : Nat × Nat × Nat) (x : BitVec w) : BitVec w :=
  x.rotateRight r.1 ^^^ x.rotateRight r.2.1 ^^^ x.rotateRight r.2.2

def rotationsAndShift (r : Nat × Nat × Nat) (x : BitVec w) : BitVec w :=
  x.rotateRight r.1 ^^^ x.rotateRight r.2.1 ^^^ (x >>> r.2.2)

def extend (p : Profile w) : Nat → List (BitVec w) → List (BitVec w)
  | 0, ws => ws
  | t + 1, ws =>
    extend p t <|
      (rotationsAndShift p.smallE (ws.getD 1 0) + ws.getD 6 0 +
        rotationsAndShift p.smallA (ws.getD 14 0) + ws.getD 15 0) :: ws

def schedule (p : Profile w) (block : List (BitVec w)) : List (BitVec w) :=
  (extend p (p.constants.length - 16) block.reverse).reverse

def choose (x y z : BitVec w) : BitVec w := (x &&& y) ^^^ (~~~x &&& z)

def majority (x y z : BitVec w) : BitVec w := (x &&& y) ^^^ (x &&& z) ^^^ (y &&& z)

def round (p : Profile w) (s : State w) (kw : BitVec w × BitVec w) : State w :=
  let t := s.h + rotations p.bigE s.e + choose s.e s.f s.g + kw.1 + kw.2
  let u := rotations p.bigA s.a + majority s.a s.b s.c
  { a := t + u, b := s.a, c := s.b, d := s.c, e := s.d + t, f := s.e, g := s.f, h := s.g }

def State.add (s t : State w) : State w :=
  { a := s.a + t.a, b := s.b + t.b, c := s.c + t.c, d := s.d + t.d,
    e := s.e + t.e, f := s.f + t.f, g := s.g + t.g, h := s.h + t.h }

def absorb (p : Profile w) (s : State w) (block : List (BitVec w)) : State w :=
  s.add ((p.constants.zip (schedule p block)).foldl (round p) s)

def wordOctets (w : Nat) : Nat := w / 8

def pieces {α : Type} (size : Nat) : Nat → List α → List (List α)
  | 0, _ => []
  | count + 1, xs => xs.take size :: pieces size count (xs.drop size)

def blockWords (w : Nat) (block : Bytes) : List (BitVec w) :=
  (pieces (wordOctets w) 16 block).map fun b => BitVec.ofNat w (Bytes.toNat b)

/-- The message, a one bit, zeros up to a whole number of blocks, and the length in bits
written in two words. -/
def pad (w : Nat) (m : Bytes) : Bytes :=
  let block := 16 * wordOctets w
  let used := m.length + 1 + 2 * wordOctets w
  m ++ 0x80 :: List.replicate ((block - used % block) % block) 0
    ++ Bytes.ofNat (2 * wordOctets w) (8 * m.length)

def State.toBytes (s : State w) : Bytes :=
  [s.a, s.b, s.c, s.d, s.e, s.f, s.g, s.h].flatMap fun x =>
    Bytes.ofNat (wordOctets w) x.toNat

def hash (p : Profile w) (m : Bytes) : Bytes :=
  let padded := pad w m
  let size := 16 * wordOctets w
  let blocks := pieces size (padded.length / size) padded
  (blocks.foldl (fun s b => absorb p s (blockWords w b)) p.initial).toBytes

@[simp] theorem length_toBytes (s : State w) : s.toBytes.length = 8 * wordOctets w := by
  simp [State.toBytes]; omega

theorem length_hash (p : Profile w) (m : Bytes) : (hash p m).length = 8 * wordOctets w := by
  simp [hash]

end PayloadCipher.Sha2
