/-!
# The SHA-256 digest

The hash function of FIPS 180-4 on lists of bytes.  A message is padded to whole
blocks of sixteen words, each block is stretched to sixty-four words, and every word
turns the eight registers once.
-/

namespace Formulary.Sha256

/-! ## Words -/

/-- A word turned right by a number of bits between one and thirty-one. -/
def rotate (x : UInt32) (bits : UInt32) : UInt32 :=
  (x >>> bits) ||| (x <<< (32 - bits))

/-- The word of four bytes, the high byte first. -/
def word (a b c d : UInt8) : UInt32 :=
  (a.toUInt32 <<< 24) ||| (b.toUInt32 <<< 16) ||| (c.toUInt32 <<< 8) ||| d.toUInt32

/-- The words of a list of bytes; bytes that do not fill a word are left out. -/
def words : List UInt8 → List UInt32
  | a :: b :: c :: d :: rest => word a b c d :: words rest
  | _ => []

/-- The eight bytes of a number, the high byte first. -/
def lengthBytes (n : Nat) : List UInt8 :=
  [56, 48, 40, 32, 24, 16, 8, 0].map fun shift => UInt8.ofNat (n >>> shift)

/-- A message with a one bit, zeros and its length in bits after it, so that its length
is a multiple of sixty-four bytes. -/
def pad (message : List UInt8) : List UInt8 :=
  message ++ 0x80 :: List.replicate ((119 - message.length % 64) % 64) 0
    ++ lengthBytes (8 * message.length)

/-! ## Blocks -/

/-- Adds words to a schedule that is kept with the newest word first. -/
def stretch : Nat → List UInt32 → List UInt32
  | 0, schedule => schedule
  | count + 1, schedule =>
    let near := schedule.getD 1 0
    let far := schedule.getD 14 0
    let s0 := rotate far 7 ^^^ rotate far 18 ^^^ (far >>> 3)
    let s1 := rotate near 17 ^^^ rotate near 19 ^^^ (near >>> 10)
    stretch count ((schedule.getD 15 0 + s0 + schedule.getD 6 0 + s1) :: schedule)

/-- The sixty-four words of a block of sixteen. -/
def schedule (block : List UInt32) : List UInt32 :=
  (stretch 48 block.reverse).reverse

/-- The first thirty-two bits of the fractions of the cube roots of the first
sixty-four primes. -/
def constants : List UInt32 :=
  [0x428a2f98, 0x71374491, 0xb5c0fbcf, 0xe9b5dba5, 0x3956c25b, 0x59f111f1,
   0x923f82a4, 0xab1c5ed5, 0xd807aa98, 0x12835b01, 0x243185be, 0x550c7dc3,
   0x72be5d74, 0x80deb1fe, 0x9bdc06a7, 0xc19bf174, 0xe49b69c1, 0xefbe4786,
   0x0fc19dc6, 0x240ca1cc, 0x2de92c6f, 0x4a7484aa, 0x5cb0a9dc, 0x76f988da,
   0x983e5152, 0xa831c66d, 0xb00327c8, 0xbf597fc7, 0xc6e00bf3, 0xd5a79147,
   0x06ca6351, 0x14292967, 0x27b70a85, 0x2e1b2138, 0x4d2c6dfc, 0x53380d13,
   0x650a7354, 0x766a0abb, 0x81c2c92e, 0x92722c85, 0xa2bfe8a1, 0xa81a664b,
   0xc24b8b70, 0xc76c51a3, 0xd192e819, 0xd6990624, 0xf40e3585, 0x106aa070,
   0x19a4c116, 0x1e376c08, 0x2748774c, 0x34b0bcb5, 0x391c0cb3, 0x4ed8aa4a,
   0x5b9cca4f, 0x682e6ff3, 0x748f82ee, 0x78a5636f, 0x84c87814, 0x8cc70208,
   0x90befffa, 0xa4506ceb, 0xbef9a3f7, 0xc67178f2]

/-- The eight registers. -/
structure Registers where
  a : UInt32
  b : UInt32
  c : UInt32
  d : UInt32
  e : UInt32
  f : UInt32
  g : UInt32
  h : UInt32

/-- The first thirty-two bits of the fractions of the square roots of the first eight
primes. -/
def initial : Registers :=
  ⟨0x6a09e667, 0xbb67ae85, 0x3c6ef372, 0xa54ff53a,
   0x510e527f, 0x9b05688c, 0x1f83d9ab, 0x5be0cd19⟩

/-- One turn of the registers with a constant and a word of the schedule. -/
def Registers.turn (r : Registers) (constant word : UInt32) : Registers :=
  let s1 := rotate r.e 6 ^^^ rotate r.e 11 ^^^ rotate r.e 25
  let choice := (r.e &&& r.f) ^^^ (~~~r.e &&& r.g)
  let first := r.h + s1 + choice + constant + word
  let s0 := rotate r.a 2 ^^^ rotate r.a 13 ^^^ rotate r.a 22
  let majority := (r.a &&& r.b) ^^^ (r.a &&& r.c) ^^^ (r.b &&& r.c)
  ⟨first + (s0 + majority), r.a, r.b, r.c, r.d + first, r.e, r.f, r.g⟩

/-- Register by register addition. -/
def Registers.add (r s : Registers) : Registers :=
  ⟨r.a + s.a, r.b + s.b, r.c + s.c, r.d + s.d, r.e + s.e, r.f + s.f, r.g + s.g, r.h + s.h⟩

/-- The registers after a block. -/
def Registers.absorb (r : Registers) (block : List UInt32) : Registers :=
  r.add ((constants.zip (schedule block)).foldl (fun r turn => r.turn turn.1 turn.2) r)

/-- The registers after a number of blocks that stand one after the other. -/
def Registers.absorbAll (r : Registers) : Nat → List UInt32 → Registers
  | 0, _ => r
  | count + 1, ws => (r.absorb (ws.take 16)).absorbAll count (ws.drop 16)

/-! ## The digest -/

/-- The eight words of the digest of a message. -/
def digest (message : List UInt8) : List UInt32 :=
  let ws := words (pad message)
  let r := initial.absorbAll (ws.length / 16) ws
  [r.a, r.b, r.c, r.d, r.e, r.f, r.g, r.h]

/-- Eight hexadecimal digits in lower case. -/
def hexWord (x : UInt32) : List Char :=
  [28, 24, 20, 16, 12, 8, 4, 0].map fun shift => Nat.digitChar ((x.toNat >>> shift) % 16)

/-- The digest of the UTF-8 bytes of a text, in hexadecimal digits of lower case. -/
def hexDigest (text : String) : String :=
  String.ofList ((digest text.toUTF8.toList).flatMap hexWord)

end Formulary.Sha256
