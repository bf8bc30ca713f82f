/-!
# Password hashes

The bcrypt hash of a password.  A cipher with sixteen rounds gets its key schedule from
the password and a salt, over and over, so that every guess at the password is slow; the
hash is what this cipher makes of a fixed text.
-/

namespace Formulary.Bcrypt

/-! ## The binary digits of π -/

/-- The alternating series of an arc tangent, given the first power with its odd divisor.
The powers fall by the square of the argument. -/
def series (square : Nat) : Nat → Nat → Nat → Nat
  | 0, _, _ => 0
  | count + 1, odd, power => power / odd - series square count (odd + 2) (power / square)

/-- The arc tangent of the inverse of a number, in units of which a scale makes one. -/
def arctanInverse (n scale : Nat) : Nat :=
  series (n * n) scale.log2 1 (scale / n)

/-- The number of words in a schedule: eighteen for the rounds, and four boxes. -/
def scheduleSize : Nat := 18 + 4 * 256

/-- The fraction of π in units of which a number of bits makes one. -/
def piFraction (bits : Nat) : Nat :=
  let scale := 1 <<< (bits + 64)
  let pi := 4 * (4 * arctanInverse 5 scale - arctanInverse 239 scale)
  (pi - 3 * scale) >>> 64

/-- The words of the fraction of π, as many as there are in a schedule. -/
def initial : Array UInt32 :=
  let fraction := piFraction (32 * scheduleSize)
  ((List.range scheduleSize).map fun i =>
    UInt32.ofNat (fraction >>> (32 * (scheduleSize - 1 - i)))).toArray

/-! ## The cipher -/

/-- A word of a schedule. -/
def wordAt (schedule : Array UInt32) (i : Nat) : UInt32 :=
  schedule.getD i 0

/-- What the boxes make of a word. -/
def mix (schedule : Array UInt32) (x : UInt32) : UInt32 :=
  let box (number : Nat) (byte : UInt32) :=
    wordAt schedule (18 + 256 * number + (byte &&& 0xFF).toNat)
  ((box 0 (x >>> 24) + box 1 (x >>> 16)) ^^^ box 2 (x >>> 8)) + box 3 x

/-- Two words after some pairs of rounds, from a round on. -/
def rounds (schedule : Array UInt32) : Nat → Nat → UInt32 → UInt32 → UInt32 × UInt32
  | 0, _, left, right => (left, right)
  | count + 1, i, left, right =>
    let left := left ^^^ wordAt schedule i
    let right := right ^^^ mix schedule left ^^^ wordAt schedule (i + 1)
    rounds schedule count (i + 2) (left ^^^ mix schedule right) right

/-- Two words enciphered. -/
def encipher (schedule : Array UInt32) (left right : UInt32) : UInt32 × UInt32 :=
  let (left, right) := rounds schedule 8 0 left right
  (right ^^^ wordAt schedule 17, left ^^^ wordAt schedule 16)

/-! ## The key schedule -/

/-- The first eighteen words, each with a word of a key added. -/
def addKey (key : Nat → UInt32) (schedule : Array UInt32) : Array UInt32 :=
  (List.range 18).foldl (fun schedule i => schedule.modify i (· ^^^ key i)) schedule

/-- Puts a chain of enciphered pairs into a schedule, from a place on, adding words of a
salt on the way. -/
def fill (salt : Nat → UInt32) : Nat → Nat → UInt32 → UInt32 → Array UInt32 → Array UInt32
  | 0, _, _, _, schedule => schedule
  | count + 1, i, left, right, schedule =>
    let (left, right) := encipher schedule (left ^^^ salt i) (right ^^^ salt (i + 1))
    fill salt count (i + 2) left right ((schedule.setIfInBounds i left).setIfInBounds (i + 1) right)

/-- A schedule that has taken in a salt and a key. -/
def expand (salt key : Nat → UInt32) (schedule : Array UInt32) : Array UInt32 :=
  fill salt (scheduleSize / 2) 0 0 0 (addKey key schedule)

/-- A schedule that has taken in a key and a salt by turns. -/
def expandTimes (salt key : Nat → UInt32) : Nat → Array UInt32 → Array UInt32
  | 0, schedule => schedule
  | count + 1, schedule =>
    expandTimes salt key count (expand (fun _ => 0) salt (expand (fun _ => 0) key schedule))

/-- The words of bytes that are repeated without end, the high byte first. -/
def cycle (bytes : Array UInt8) (i : Nat) : UInt32 :=
  [0, 1, 2, 3].foldl
    (fun word j => (word <<< 8) ||| (bytes.getD ((4 * i + j) % bytes.size) 0).toUInt32) 0

/-! ## The hash -/

/-- The text that is enciphered. -/
def plaintext : List UInt32 :=
  [0x4F727068, 0x65616E42, 0x65686F6C, 0x64657253, 0x63727944, 0x6F756274]

/-- Two words enciphered again and again. -/
def encipherTimes (schedule : Array UInt32) : Nat → UInt32 × UInt32 → UInt32 × UInt32
  | 0, pair => pair
  | count + 1, (left, right) => encipherTimes schedule count (encipher schedule left right)

/-- The words of the enciphered text. -/
def ciphertext (schedule : Array UInt32) : List UInt32 → List UInt32
  | left :: right :: rest =>
    let (left, right) := encipherTimes schedule 64 (left, right)
    left :: right :: ciphertext schedule rest
  | _ => []

/-- The bytes of a word, the high byte first. -/
def bytesOf (word : UInt32) : List UInt8 :=
  ([24, 16, 8, 0] : List UInt32).map fun shift => (word >>> shift).toUInt8

/-- The bytes of the hash of a password with a salt of sixteen bytes.  A password ends in
a zero byte, and only seventy-two bytes of it count. -/
def hashBytes (cost : Nat) (salt : Array UInt8) (password : List UInt8) : List UInt8 :=
  let key := cycle ((password ++ [0]).take 72).toArray
  let salt := cycle salt
  let schedule := expandTimes salt key (1 <<< cost) (expand salt key initial)
  ((ciphertext schedule plaintext).flatMap bytesOf).take 23

/-! ## The text of a hash -/

/-- The sixty-four digits. -/
def digits : List Char :=
  "./ABCDEFGHIJKLMNOPQRSTUVWXYZabcdefghijklmnopqrstuvwxyz0123456789".toList

/-- The digit of a number below sixty-four. -/
def digit (n : Nat) : Char :=
  digits.getD (n % 64) '.'

/-- Bytes in digits of six bits; the last digit is filled with zeros. -/
def encode : List UInt8 → List Char
  | a :: b :: c :: rest =>
    let n := a.toNat * 65536 + b.toNat * 256 + c.toNat
    digit (n / 262144) :: digit (n / 4096) :: digit (n / 64) :: digit n :: encode rest
  | [a, b] =>
    let n := a.toNat * 1024 + b.toNat * 4
    [digit (n / 4096), digit (n / 64), digit n]
  | [a] => [digit (a.toNat / 4), digit (a.toNat * 16)]
  | [] => []

/-- The text of the hash of a password with a salt of sixteen bytes: the variant, the
cost, the salt and the hash. -/
def hash (cost : Nat) (salt : Array UInt8) (password : String) : String :=
  let costText := (if cost < 10 then "0" else "") ++ toString cost
  "$2b$" ++ costText ++ "$" ++ String.ofList (encode salt.toList)
    ++ String.ofList (encode (hashBytes cost salt password.toUTF8.toList))

end Formulary.Bcrypt
