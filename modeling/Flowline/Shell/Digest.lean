/-!
# Digests

Short numbers that tell texts apart: sums that catch accidents and digests that nobody can aim for.  A text
is a list of bytes.
-/

namespace Flowline.Shell.Digest

/-! ## Words -/

/-- The number whose digits in base 256 some bytes are, the highest first. -/
def ofBytes (bytes : List Nat) : Nat := bytes.foldl (fun n b => 256 * n + b % 256) 0

/-- The last `count` digits of a number in base 256, the highest first. -/
def toBytes : Nat → Nat → List Nat
  | 0, _ => []
  | count + 1, n => toBytes count (n / 256) ++ [n % 256]

/-- A list in pieces of a size; the last one may be shorter. -/
def pieces {α : Type} (size : Nat) : Nat → List α → List (List α)
  | 0, _ => []
  | _, [] => []
  | fuel + 1, xs => xs.take size :: pieces size fuel (xs.drop size)

/-- A text with a one, zeros and its length in bits behind it, so that it fills blocks of a size.  The length
takes `width` bytes, as `write` writes them. -/
def padded (block width : Nat) (write : Nat → Nat → List Nat) (text : List Nat) : List Nat :=
  let used := (text.length + 1 + width) % block
  let zeros := if used = 0 then 0 else block - used
  text ++ 0x80 :: List.replicate zeros 0 ++ write width (8 * text.length)

/-- The words of a block, as `read` reads them. -/
def wordsOf (w : Nat) (read : List Nat → Nat) (block : List Nat) : Array (BitVec w) :=
  ((pieces (w / 8) block.length block).map fun bytes => BitVec.ofNat w (read bytes)).toArray

/-- The blocks of a text, each as words. -/
def blocksOf (w width : Nat) (read : List Nat → Nat) (write : Nat → Nat → List Nat) (text : List Nat) :
    List (Array (BitVec w)) :=
  let size := 2 * w
  let all := padded size width write text
  (pieces size all.length all).map (wordsOf w read)

/-- A number in base 16 with a fixed number of digits. -/
def hexText (digits n : Nat) : String :=
  let shown := Nat.toDigits 16 n
  String.ofList (List.replicate (digits - shown.length) '0' ++ shown)

/-! ## Constants -/

/-- The greatest number between `low` and `low + 2 ^ steps` whose power is at most `n`, if that of `low` is. -/
def rootFrom (exponent n low : Nat) : Nat → Nat
  | 0 => low
  | steps + 1 =>
    let next := low + Nat.pow 2 steps
    rootFrom exponent n (if Nat.pow next exponent ≤ n then next else low) steps

/-- The first `w` bits behind the point of a root of `n`, which is less than 64. -/
def rootBits (exponent w n : Nat) : Nat :=
  rootFrom exponent (n * Nat.pow 2 (exponent * w)) 0 (w + 6) % Nat.pow 2 w

def isPrime (n : Nat) : Bool := 2 ≤ n && (List.range n).all fun d => d < 2 || n % d ≠ 0

/-- The first eighty primes. -/
def primes : List Nat := (List.range 410).filter isPrime

/-! ## The second family of secure hashes -/

namespace Sha2

/-- What tells the members of the family apart: how far words are turned, and how often they are mixed. -/
structure Member (w : Nat) where
  choose : Nat × Nat × Nat
  majority : Nat × Nat × Nat
  /-- Two turns and a shift. -/
  early : Nat × Nat × Nat
  late : Nat × Nat × Nat
  constants : Array (BitVec w)
  start : List (BitVec w)
  /-- The number of bytes that a digest keeps. -/
  size : Nat

structure State (w : Nat) where
  a : BitVec w
  b : BitVec w
  c : BitVec w
  d : BitVec w
  e : BitVec w
  f : BitVec w
  g : BitVec w
  h : BitVec w

variable {w : Nat}

def State.ofList (ws : List (BitVec w)) : State w :=
  let word (i : Nat) : BitVec w := ws[i]?.getD 0
  ⟨word 0, word 1, word 2, word 3, word 4, word 5, word 6, word 7⟩

def State.toList (s : State w) : List (BitVec w) := [s.a, s.b, s.c, s.d, s.e, s.f, s.g, s.h]

def turned (steps : Nat × Nat × Nat) (x : BitVec w) : BitVec w :=
  x.rotateRight steps.1 ^^^ x.rotateRight steps.2.1 ^^^ x.rotateRight steps.2.2

def shifted (steps : Nat × Nat × Nat) (x : BitVec w) : BitVec w :=
  x.rotateRight steps.1 ^^^ x.rotateRight steps.2.1 ^^^ (x >>> steps.2.2)

/-- The words of a block and those that follow from them. -/
def schedule (m : Member w) (block : Array (BitVec w)) : Array (BitVec w) :=
  (List.range (m.constants.size - 16)).foldl (fun ws i =>
    let word (j : Nat) : BitVec w := ws[i + j]?.getD 0
    ws.push (word 0 + shifted m.early (word 1) + word 9 + shifted m.late (word 14))) block

/-- Mixes a word and a constant into a state. -/
def State.mix (m : Member w) (s : State w) (x : BitVec w) : State w :=
  let t := s.h + turned m.choose s.e + ((s.e &&& s.f) ^^^ (~~~ s.e &&& s.g)) + x
  let u := turned m.majority s.a + ((s.a &&& s.b) ^^^ (s.a &&& s.c) ^^^ (s.b &&& s.c))
  ⟨t + u, s.a, s.b, s.c, s.d + t, s.e, s.f, s.g⟩

/-- Takes a block into a state. -/
def State.absorb (m : Member w) (s : State w) (block : Array (BitVec w)) : State w :=
  let mixed := ((schedule m block).toList.zip m.constants.toList).foldl (fun s (x, k) => s.mix m (x + k)) s
  .ofList (s.toList.zipWith (· + ·) mixed.toList)

/-- The digest of a text. -/
def digest (m : Member w) (text : List Nat) : String :=
  let s := (blocksOf w (w / 4) ofBytes toBytes text).foldl (State.absorb m) (.ofList m.start)
  let shown := String.join (s.toList.map fun x => hexText (w / 4) x.toNat)
  String.ofList (shown.toList.take (2 * m.size))

/-- The constants that words are mixed with. -/
def constants (w count : Nat) : Array (BitVec w) :=
  ((primes.take count).map fun p => BitVec.ofNat w (rootBits 3 w p)).toArray

/-- The square roots of eight primes, the first of them or the next, to 64 bits. -/
def roots (next : Bool) : List Nat := ((primes.drop (if next then 8 else 0)).take 8).map (rootBits 2 64)

def constants32 : Array (BitVec 32) := constants 32 64

def constants64 : Array (BitVec 64) := constants 64 80

def member32 (start : List (BitVec 32)) (size : Nat) : Member 32 :=
  ⟨(6, 11, 25), (2, 13, 22), (7, 18, 3), (17, 19, 10), constants32, start, size⟩

def member64 (start : List (BitVec 64)) (size : Nat) : Member 64 :=
  ⟨(14, 18, 41), (28, 34, 39), (1, 8, 7), (19, 61, 6), constants64, start, size⟩

def sha224 : Member 32 := member32 ((roots true).map fun n => BitVec.ofNat 32 n) 28

def sha256 : Member 32 := member32 ((roots false).map fun n => BitVec.ofNat 32 (n >>> 32)) 32

def sha384 : Member 64 := member64 ((roots true).map fun n => BitVec.ofNat 64 n) 48

def sha512 : Member 64 := member64 ((roots false).map fun n => BitVec.ofNat 64 n) 64

end Sha2

/-! ## Older digests -/

/-- A state of four or five words. -/
structure Quintet where
  a : BitVec 32
  b : BitVec 32
  c : BitVec 32
  d : BitVec 32
  e : BitVec 32

namespace Quintet

def start : Quintet := ⟨0x67452301, 0xefcdab89, 0x98badcfe, 0x10325476, 0xc3d2e1f0⟩

def add (s t : Quintet) : Quintet := ⟨s.a + t.a, s.b + t.b, s.c + t.c, s.d + t.d, s.e + t.e⟩

end Quintet

namespace Sha1

def schedule (block : Array (BitVec 32)) : Array (BitVec 32) :=
  (List.range 64).foldl (fun ws i =>
    let word (j : Nat) : BitVec 32 := ws[i + j]?.getD 0
    ws.push ((word 13 ^^^ word 8 ^^^ word 2 ^^^ word 0).rotateLeft 1)) block

/-- The `i`-th step of mixing words into a state. -/
def mix (s : Quintet) (i : Nat) (x : BitVec 32) : Quintet :=
  let (f, k) :=
    if i < 20 then ((s.b &&& s.c) ||| (~~~ s.b &&& s.d), 0x5a827999#32)
    else if i < 40 then (s.b ^^^ s.c ^^^ s.d, 0x6ed9eba1#32)
    else if i < 60 then ((s.b &&& s.c) ||| (s.b &&& s.d) ||| (s.c &&& s.d), 0x8f1bbcdc#32)
    else (s.b ^^^ s.c ^^^ s.d, 0xca62c1d6#32)
  ⟨s.a.rotateLeft 5 + f + s.e + k + x, s.a, s.b.rotateLeft 30, s.c, s.d⟩

def digest (text : List Nat) : String :=
  let absorb (s : Quintet) (block : Array (BitVec 32)) : Quintet :=
    s.add ((schedule block).toList.zipIdx.foldl (fun s (x, i) => mix s i x) s)
  let s := (blocksOf 32 8 ofBytes toBytes text).foldl absorb .start
  String.join ([s.a, s.b, s.c, s.d, s.e].map fun x => hexText 8 x.toNat)

end Sha1

namespace Md5

/-- The sines of 1 to 64 without their signs, to 32 bits. -/
def sines : List (BitVec 32) := [
  0xd76aa478, 0xe8c7b756, 0x242070db, 0xc1bdceee, 0xf57c0faf, 0x4787c62a, 0xa8304613, 0xfd469501,
  0x698098d8, 0x8b44f7af, 0xffff5bb1, 0x895cd7be, 0x6b901122, 0xfd987193, 0xa679438e, 0x49b40821,
  0xf61e2562, 0xc040b340, 0x265e5a51, 0xe9b6c7aa, 0xd62f105d, 0x02441453, 0xd8a1e681, 0xe7d3fbc8,
  0x21e1cde6, 0xc33707d6, 0xf4d50d87, 0x455a14ed, 0xa9e3e905, 0xfcefa3f8, 0x676f02d9, 0x8d2a4c8a,
  0xfffa3942, 0x8771f681, 0x6d9d6122, 0xfde5380c, 0xa4beea44, 0x4bdecfa9, 0xf6bb4b60, 0xbebfbc70,
  0x289b7ec6, 0xeaa127fa, 0xd4ef3085, 0x04881d05, 0xd9d4d039, 0xe6db99e5, 0x1fa27cf8, 0xc4ac5665,
  0xf4292244, 0x432aff97, 0xab9423a7, 0xfc93a039, 0x655b59c3, 0x8f0ccc92, 0xffeff47d, 0x85845dd1,
  0x6fa87e4f, 0xfe2ce6e0, 0xa3014314, 0x4e0811a1, 0xf7537e82, 0xbd3af235, 0x2ad7d2bb, 0xeb86d391]

/-- How far a word is turned in each of four steps, for each quarter. -/
def turns (quarter : Nat) : List Nat :=
  match quarter with
  | 0 => [7, 12, 17, 22]
  | 1 => [5, 9, 14, 20]
  | 2 => [4, 11, 16, 23]
  | _ => [6, 10, 15, 21]

/-- The `i`-th step of mixing a block into a state. -/
def mix (block : Array (BitVec 32)) (s : Quintet) (i : Nat) (sine : BitVec 32) : Quintet :=
  let quarter := i / 16
  let (f, j) := match quarter with
    | 0 => ((s.b &&& s.c) ||| (~~~ s.b &&& s.d), i)
    | 1 => ((s.d &&& s.b) ||| (~~~ s.d &&& s.c), 5 * i + 1)
    | 2 => (s.b ^^^ s.c ^^^ s.d, 3 * i + 5)
    | _ => (s.c ^^^ (s.b ||| ~~~ s.d), 7 * i)
  let turn := ((turns quarter)[i % 4]?).getD 0
  ⟨s.d, s.b + (s.a + f + sine + (block[j % 16]?).getD 0).rotateLeft turn, s.b, s.c, s.e⟩

def digest (text : List Nat) : String :=
  let read (bytes : List Nat) : Nat := ofBytes bytes.reverse
  let write (width n : Nat) : List Nat := (toBytes width n).reverse
  let absorb (s : Quintet) (block : Array (BitVec 32)) : Quintet :=
    s.add (sines.zipIdx.foldl (fun s (sine, i) => mix block s i sine) s)
  let s := (blocksOf 32 8 read write text).foldl absorb .start
  String.join ([s.a, s.b, s.c, s.d].map fun x => hexText 8 (ofBytes (toBytes 4 x.toNat).reverse))

end Md5

/-! ## Sums -/

/-- A bit at a time of the remainder that a polynomial leaves. -/
def remainderStep (r : BitVec 32) : BitVec 32 :=
  if r.msb then (r <<< 1) ^^^ 0x04c11db7 else r <<< 1

/-- The remainders that single bytes leave. -/
def remainders : Array (BitVec 32) :=
  ((List.range 256).map fun b => (List.range 8).foldl (fun r _ => remainderStep r) (BitVec.ofNat 32 b <<< 24)).toArray

/-- The remainder of a text followed by its length, in which every bit is turned around. -/
def cyclic (text : List Nat) : Nat :=
  let size := text.length
  let sizeBytes := ((toBytes 8 size).dropWhile (· = 0)).reverse
  let step (r : BitVec 32) (b : Nat) : BitVec 32 :=
    (r <<< 8) ^^^ (remainders[Nat.xor (r.toNat >>> 24) b % 256]?).getD 0
  (~~~ (text ++ sizeBytes).foldl step 0).toNat

/-- A sum of 16 bits that is turned before each byte is added. -/
def turningSum (text : List Nat) : Nat :=
  text.foldl (fun n b => (n / 2 + n % 2 * 0x8000 + b) % 0x10000) 0

/-- The plain sum of all bytes, brought down to 16 bits. -/
def plainSum (text : List Nat) : Nat :=
  let n := text.foldl (· + ·) 0 % 0x100000000
  let n := n % 0x10000 + n / 0x10000
  n % 0x10000 + n / 0x10000

end Flowline.Shell.Digest
