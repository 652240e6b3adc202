import AlignedLedger.Bytes.BigEndian

/-! SHA-256 of a byte string. -/

namespace AlignedLedger

namespace Sha256

/-- The eight working words. -/
structure Working where
  a : UInt32
  b : UInt32
  c : UInt32
  d : UInt32
  e : UInt32
  f : UInt32
  g : UInt32
  h : UInt32
deriving DecidableEq

def initial : Working :=
  ⟨0x6a09e667, 0xbb67ae85, 0x3c6ef372, 0xa54ff53a, 0x510e527f, 0x9b05688c, 0x1f83d9ab, 0x5be0cd19⟩

def roundConstants : List UInt32 := [
  0x428a2f98, 0x71374491, 0xb5c0fbcf, 0xe9b5dba5, 0x3956c25b, 0x59f111f1, 0x923f82a4, 0xab1c5ed5,
  0xd807aa98, 0x12835b01, 0x243185be, 0x550c7dc3, 0x72be5d74, 0x80deb1fe, 0x9bdc06a7, 0xc19bf174,
  0xe49b69c1, 0xefbe4786, 0x0fc19dc6, 0x240ca1cc, 0x2de92c6f, 0x4a7484aa, 0x5cb0a9dc, 0x76f988da,
  0x983e5152, 0xa831c66d, 0xb00327c8, 0xbf597fc7, 0xc6e00bf3, 0xd5a79147, 0x06ca6351, 0x14292967,
  0x27b70a85, 0x2e1b2138, 0x4d2c6dfc, 0x53380d13, 0x650a7354, 0x766a0abb, 0x81c2c92e, 0x92722c85,
  0xa2bfe8a1, 0xa81a664b, 0xc24b8b70, 0xc76c51a3, 0xd192e819, 0xd6990624, 0xf40e3585, 0x106aa070,
  0x19a4c116, 0x1e376c08, 0x2748774c, 0x34b0bcb5, 0x391c0cb3, 0x4ed8aa4a, 0x5b9cca4f, 0x682e6ff3,
  0x748f82ee, 0x78a5636f, 0x84c87814, 0x8cc70208, 0x90befffa, 0xa4506ceb, 0xbef9a3f7, 0xc67178f2]

def rotr (x : UInt32) (n : UInt32) : UInt32 := (x >>> n) ||| (x <<< (32 - n))

def wordOf : Bytes → UInt32
  | b :: c :: d :: e :: _ =>
    (b.toUInt32 <<< 24) ||| (c.toUInt32 <<< 16) ||| (d.toUInt32 <<< 8) ||| e.toUInt32
  | _ => 0

/-- The `n` words that stand in front, four bytes each, highest byte first. -/
def words : Nat → Bytes → List UInt32
  | 0, _ => []
  | n + 1, bs => wordOf bs :: words n (bs.drop 4)

/-- The word that follows sixteen consecutive words of the schedule. -/
def nextWord (w : List UInt32) : UInt32 :=
  let x := w.getD 1 0
  let y := w.getD 14 0
  let s0 := rotr x 7 ^^^ rotr x 18 ^^^ (x >>> 3)
  let s1 := rotr y 17 ^^^ rotr y 19 ^^^ (y >>> 10)
  w.getD 0 0 + s0 + w.getD 9 0 + s1

def round (v : Working) (k w : UInt32) : Working :=
  let s1 := rotr v.e 6 ^^^ rotr v.e 11 ^^^ rotr v.e 25
  let ch := (v.e &&& v.f) ^^^ (~~~v.e &&& v.g)
  let t1 := v.h + s1 + ch + k + w
  let s0 := rotr v.a 2 ^^^ rotr v.a 13 ^^^ rotr v.a 22
  let maj := (v.a &&& v.b) ^^^ (v.a &&& v.c) ^^^ (v.b &&& v.c)
  ⟨t1 + s0 + maj, v.a, v.b, v.c, v.d + t1, v.e, v.f, v.g⟩

/-- Runs the rounds with a window of sixteen words that moves along the schedule. -/
def rounds : List UInt32 → List UInt32 → Working → Working
  | [], _, v => v
  | k :: ks, w, v => rounds ks (w.drop 1 ++ [nextWord w]) (round v k (w.getD 0 0))

def Working.add (x y : Working) : Working :=
  ⟨x.a + y.a, x.b + y.b, x.c + y.c, x.d + y.d, x.e + y.e, x.f + y.f, x.g + y.g, x.h + y.h⟩

def compress (v : Working) (block : Bytes) : Working :=
  v.add (rounds roundConstants (words 16 block) v)

/-- Compresses `n` blocks of 64 bytes one after the other. -/
def blocks : Nat → Bytes → Working → Working
  | 0, _, v => v
  | n + 1, bs, v => blocks n (bs.drop 64) (compress v bs)

/-- The message, a one bit, zeros up to eight bytes before the end of a block, the length in bits. -/
def pad (b : Bytes) : Bytes :=
  b ++ 0x80 :: (Bytes.zeros ((119 - b.length % 64) % 64) ++ BigEndian.ofNatFixed 8 (8 * b.length))

def Working.toBytes (v : Working) : Bytes :=
  [v.a, v.b, v.c, v.d, v.e, v.f, v.g, v.h].flatMap fun w => BigEndian.ofNatFixed 4 w.toNat

end Sha256

def sha256 (b : Bytes) : Bytes :=
  let message := Sha256.pad b
  (Sha256.blocks (message.length / 64) message Sha256.initial).toBytes

end AlignedLedger
