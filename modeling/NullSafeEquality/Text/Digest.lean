/-!
The SHA-256 digest of a byte sequence: the sequence is padded to blocks of 64 bytes, each block is
expanded to 64 words, and each word moves the eight words of the state on.
-/

namespace NullSafeEquality.Text

/-- The round constants: the first bits of the cube roots of the first 64 primes. -/
def roundConstants : Array UInt32 := #[
  0x428a2f98, 0x71374491, 0xb5c0fbcf, 0xe9b5dba5, 0x3956c25b, 0x59f111f1, 0x923f82a4, 0xab1c5ed5,
  0xd807aa98, 0x12835b01, 0x243185be, 0x550c7dc3, 0x72be5d74, 0x80deb1fe, 0x9bdc06a7, 0xc19bf174,
  0xe49b69c1, 0xefbe4786, 0x0fc19dc6, 0x240ca1cc, 0x2de92c6f, 0x4a7484aa, 0x5cb0a9dc, 0x76f988da,
  0x983e5152, 0xa831c66d, 0xb00327c8, 0xbf597fc7, 0xc6e00bf3, 0xd5a79147, 0x06ca6351, 0x14292967,
  0x27b70a85, 0x2e1b2138, 0x4d2c6dfc, 0x53380d13, 0x650a7354, 0x766a0abb, 0x81c2c92e, 0x92722c85,
  0xa2bfe8a1, 0xa81a664b, 0xc24b8b70, 0xc76c51a3, 0xd192e819, 0xd6990624, 0xf40e3585, 0x106aa070,
  0x19a4c116, 0x1e376c08, 0x2748774c, 0x34b0bcb5, 0x391c0cb3, 0x4ed8aa4a, 0x5b9cca4f, 0x682e6ff3,
  0x748f82ee, 0x78a5636f, 0x84c87814, 0x8cc70208, 0x90befffa, 0xa4506ceb, 0xbef9a3f7, 0xc67178f2]

structure DigestState where
  a : UInt32 := 0x6a09e667
  b : UInt32 := 0xbb67ae85
  c : UInt32 := 0x3c6ef372
  d : UInt32 := 0xa54ff53a
  e : UInt32 := 0x510e527f
  f : UInt32 := 0x9b05688c
  g : UInt32 := 0x1f83d9ab
  h : UInt32 := 0x5be0cd19

namespace DigestState

def rotate (x : UInt32) (n : UInt32) : UInt32 := (x >>> n) ||| (x <<< (32 - n))

def step (s : DigestState) (w k : UInt32) : DigestState :=
  let s1 := rotate s.e 6 ^^^ rotate s.e 11 ^^^ rotate s.e 25
  let choice := (s.e &&& s.f) ^^^ (~~~s.e &&& s.g)
  let t1 := s.h + s1 + choice + k + w
  let s0 := rotate s.a 2 ^^^ rotate s.a 13 ^^^ rotate s.a 22
  let majority := (s.a &&& s.b) ^^^ (s.a &&& s.c) ^^^ (s.b &&& s.c)
  { a := t1 + s0 + majority, b := s.a, c := s.b, d := s.c, e := s.d + t1, f := s.e, g := s.f,
    h := s.g }

def add (s t : DigestState) : DigestState :=
  { a := s.a + t.a, b := s.b + t.b, c := s.c + t.c, d := s.d + t.d, e := s.e + t.e, f := s.f + t.f,
    g := s.g + t.g, h := s.h + t.h }

end DigestState

/-- The four bytes of a word at a position, highest first. -/
def wordAt (bytes : Array UInt8) (i : Nat) : UInt32 :=
  let byte (j : Nat) : UInt32 := (bytes.getD (i + j) 0).toUInt32
  (byte 0 <<< 24) ||| (byte 1 <<< 16) ||| (byte 2 <<< 8) ||| byte 3

/-- The 64 words of the block at a position. -/
def expand (bytes : Array UInt8) (block : Nat) : Array UInt32 :=
  let start := (Array.range 16).map fun i => wordAt bytes (block + 4 * i)
  (List.range 48).foldl (fun w i =>
    let word (back : Nat) : UInt32 := (w : Array UInt32).getD (i + 16 - back) 0
    let x := word 15
    let y := word 2
    let s0 := DigestState.rotate x 7 ^^^ DigestState.rotate x 18 ^^^ (x >>> 3)
    let s1 := DigestState.rotate y 17 ^^^ DigestState.rotate y 19 ^^^ (y >>> 10)
    w.push (word 16 + s0 + word 7 + s1)) start

/-- The bytes, a one bit, zeros up to eight bytes before the end of a block, and the length in
bits. -/
def padded (bytes : Array UInt8) : Array UInt8 :=
  let zeros := (119 - bytes.size % 64) % 64
  let bits := bytes.size * 8
  let length := (Array.range 8).map fun i => UInt8.ofNat (bits >>> (8 * (7 - i)))
  (bytes.push 0x80) ++ Array.replicate zeros 0 ++ length

def digestState (bytes : Array UInt8) : DigestState :=
  let bytes := padded bytes
  (List.range (bytes.size / 64)).foldl (fun s block =>
    let words := expand bytes (64 * block)
    s.add ((List.range 64).foldl (fun t i =>
      t.step (words.getD i 0) (roundConstants.getD i 0)) s)) {}

def hexWord (w : UInt32) : String :=
  let n := w.toNat
  String.ofList ((List.range 8).map fun i =>
    Nat.digitChar ((n >>> (4 * (7 - i))) % 16))

/-- The first eight bytes of the digest of a text, in hexadecimal digits. -/
def shortDigest (s : String) : String :=
  let state := digestState s.toUTF8.data
  hexWord state.a ++ hexWord state.b

end NullSafeEquality.Text
