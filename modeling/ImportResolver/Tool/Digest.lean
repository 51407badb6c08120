import ImportResolver.Shell.Process
/- Checksums of texts, and texts written in fewer letters than there are bytes. Words are numbers
below a power of two. -/
namespace ImportResolver.Tool.Digest

open Shell

def bytesOf : Nat → Nat → List Nat
  | 0, _ => []
  | n + 1, value => bytesOf n (value / 256) ++ [value % 256]

def ofBytes (bytes : List Nat) : Nat := bytes.foldl (fun n b => n * 256 + b) 0

/-- Cuts a list into parts of a length, the last of which may be shorter. -/
def parts {α : Type} (size : Nat) : Nat → List α → List (List α)
  | 0, _ => []
  | _, [] => []
  | n + 1, cs => cs.take size :: parts size n (cs.drop size)

def hexadecimal (bytes : List Nat) : Chars :=
  bytes.flatMap fun b => [Nat.digitChar (b / 16), Nat.digitChar (b % 16)]

def turned (width n x : Nat) : Nat := (x <<< n ||| x >>> (width - n)) % Nat.pow 2 width

def inverted (width x : Nat) : Nat := Nat.pow 2 width - 1 - x

/-- A message with a bit and zeros after it, and its length in bits in so many bytes at the end
of the last block. -/
def filled (block lengthSize : Nat) (isReversed : Bool) (message : List Nat) : List Nat :=
  let used := message.length + 1 + lengthSize
  let zeros := (block - used % block) % block
  let length := bytesOf lengthSize (message.length * 8 % Nat.pow 256 lengthSize)
  message ++ 128 :: List.replicate zeros 0 ++ if isReversed then length.reverse else length

def blocks (block word : Nat) (isReversed : Bool) (bytes : List Nat) : List (Array Nat) :=
  (parts block (bytes.length / block + 1) bytes).map fun b =>
    ((parts word (b.length / word + 1) b).map fun w =>
      ofBytes (if isReversed then w.reverse else w)).toArray

def primes (count : Nat) : List Nat :=
  ((List.range 410).filter fun n =>
    2 ≤ n && (List.range 20).all fun d => d < 2 || n ≤ d || n % d ≠ 0).take count

/-- The largest number whose power is not above a value, below a power of two. -/
def root (power value : Nat) : Nat → Nat → Nat
  | 0, low => low
  | bits + 1, low =>
    let middle := low + Nat.pow 2 bits
    root power value bits (if Nat.pow middle power ≤ value then middle else low)

def rootBits (power width n : Nat) : Nat :=
  root power (n * Nat.pow 2 (width * power)) (width + 6) 0 % Nat.pow 2 width

/-- A member of a family of checksums. -/
structure Sha where
  width : Nat
  /-- How far words are turned for sums of the first kind, and of the second kind; of the last
  three numbers the last one tells how far a word is moved. -/
  great : List Nat × List Nat
  small : List Nat × List Nat
  constants : Array Nat
  start : List Nat
  /-- How many bytes of the result are given. -/
  size : Nat

namespace Sha

def mixed (s : Sha) (turns : List Nat) (x : Nat) : Nat :=
  turns.foldl (fun n t => n ^^^ turned s.width (s.width - t) x) 0

def moved (s : Sha) (turns : List Nat) (x : Nat) : Nat :=
  s.mixed turns.dropLast x ^^^ x >>> turns.getLastD 0

def schedule (s : Sha) : Nat → Array Nat → Array Nat
  | 0, words => words
  | n + 1, words =>
    let before (k : Nat) : Nat := words.getD (words.size - k) 0
    let word := s.moved s.small.2 (before 2) + before 7 + s.moved s.small.1 (before 15) + before 16
    s.schedule n (words.push (word % Nat.pow 2 s.width))

def round (s : Sha) (state : List Nat) (word : Nat) : List Nat :=
  match state with
  | [a, b, c, d, e, f, g, h] =>
    let choice := e &&& f ^^^ inverted s.width e &&& g
    let first := h + s.mixed s.great.2 e + choice + word
    let majority := a &&& b ^^^ a &&& c ^^^ b &&& c
    let second := s.mixed s.great.1 a + majority
    let limit := Nat.pow 2 s.width
    [(first + second) % limit, a, b, c, (d + first) % limit, e, f, g]
  | _ => state

def absorb (s : Sha) (state : List Nat) (block : Array Nat) : List Nat :=
  let words := s.schedule (s.constants.size - block.size) block
  let sums := List.zipWith (· + ·) words.toList s.constants.toList
  List.zipWith (fun a b => (a + b) % Nat.pow 2 s.width) state (sums.foldl s.round state)

def digest (s : Sha) (message : List Nat) : List Nat :=
  let word := s.width / 8
  let block := word * 16
  let state := (blocks block word false (filled block (word * 2) false message)).foldl s.absorb
    s.start
  (state.flatMap (bytesOf word)).take s.size

def narrow : Sha where
  width := 32
  great := ([2, 13, 22], [6, 11, 25])
  small := ([7, 18, 3], [17, 19, 10])
  constants := ((primes 64).map (rootBits 3 32)).toArray
  start := (primes 8).map (rootBits 2 32)
  size := 32

def wide : Sha where
  width := 64
  great := ([28, 34, 39], [14, 18, 41])
  small := ([1, 8, 7], [19, 61, 6])
  constants := ((primes 80).map (rootBits 3 64)).toArray
  start := (primes 8).map (rootBits 2 64)
  size := 64

def laterStart : List Nat := ((primes 16).drop 8).map (rootBits 2 64)

def sha224 : Sha :=
  { narrow with start := laterStart.map (· % Nat.pow 2 32), size := 28 }

def sha384 : Sha := { wide with start := laterStart, size := 48 }

end Sha

def oldStart : List Nat := [0x67452301, 0xefcdab89, 0x98badcfe, 0x10325476, 0xc3d2e1f0]

def limit32 : Nat := 0x100000000

namespace Sha1

def schedule : Nat → Array Nat → Array Nat
  | 0, words => words
  | n + 1, words =>
    let before (k : Nat) : Nat := words.getD (words.size - k) 0
    schedule n (words.push (turned 32 1 (before 3 ^^^ before 8 ^^^ before 14 ^^^ before 16)))

def round (state : List Nat) (e : Nat × Nat) : List Nat :=
  let (word, i) := e
  match state with
  | [a, b, c, d, e] =>
    let (f, k) :=
      if i < 20 then (b &&& c ||| inverted 32 b &&& d, 0x5a827999)
      else if i < 40 then (b ^^^ c ^^^ d, 0x6ed9eba1)
      else if i < 60 then (b &&& c ||| b &&& d ||| c &&& d, 0x8f1bbcdc)
      else (b ^^^ c ^^^ d, 0xca62c1d6)
    [(turned 32 5 a + f + e + k + word) % limit32, a, turned 32 30 b, c, d]
  | _ => state

def absorb (state : List Nat) (block : Array Nat) : List Nat :=
  let words := (schedule 64 block).toList.zipIdx
  List.zipWith (fun a b => (a + b) % limit32) state (words.foldl round state)

def digest (message : List Nat) : List Nat :=
  ((blocks 64 4 false (filled 64 8 false message)).foldl absorb oldStart).flatMap (bytesOf 4)

end Sha1

namespace Md5

/-- What is added in each round: the first bits of the sines of whole numbers. -/
def constants : List Nat :=
  [0xd76aa478, 0xe8c7b756, 0x242070db, 0xc1bdceee, 0xf57c0faf, 0x4787c62a, 0xa8304613, 0xfd469501,
    0x698098d8, 0x8b44f7af, 0xffff5bb1, 0x895cd7be, 0x6b901122, 0xfd987193, 0xa679438e, 0x49b40821,
    0xf61e2562, 0xc040b340, 0x265e5a51, 0xe9b6c7aa, 0xd62f105d, 0x02441453, 0xd8a1e681, 0xe7d3fbc8,
    0x21e1cde6, 0xc33707d6, 0xf4d50d87, 0x455a14ed, 0xa9e3e905, 0xfcefa3f8, 0x676f02d9, 0x8d2a4c8a,
    0xfffa3942, 0x8771f681, 0x6d9d6122, 0xfde5380c, 0xa4beea44, 0x4bdecfa9, 0xf6bb4b60, 0xbebfbc70,
    0x289b7ec6, 0xeaa127fa, 0xd4ef3085, 0x04881d05, 0xd9d4d039, 0xe6db99e5, 0x1fa27cf8, 0xc4ac5665,
    0xf4292244, 0x432aff97, 0xab9423a7, 0xfc93a039, 0x655b59c3, 0x8f0ccc92, 0xffeff47d, 0x85845dd1,
    0x6fa87e4f, 0xfe2ce6e0, 0xa3014314, 0x4e0811a1, 0xf7537e82, 0xbd3af235, 0x2ad7d2bb, 0xeb86d391]

def turns (i : Nat) : Nat :=
  let all : List (List Nat) := [[7, 12, 17, 22], [5, 9, 14, 20], [4, 11, 16, 23], [6, 10, 15, 21]]
  (all.getD (i / 16) []).getD (i % 4) 0

def round (block : Array Nat) (state : List Nat) (e : Nat × Nat) : List Nat :=
  let (constant, i) := e
  match state with
  | [a, b, c, d] =>
    let (f, k) :=
      if i < 16 then (b &&& c ||| inverted 32 b &&& d, i)
      else if i < 32 then (d &&& b ||| inverted 32 d &&& c, (5 * i + 1) % 16)
      else if i < 48 then (b ^^^ c ^^^ d, (3 * i + 5) % 16)
      else (c ^^^ (b ||| inverted 32 d), 7 * i % 16)
    let sum := (a + f + constant + block.getD k 0) % limit32
    [d, (b + turned 32 (turns i) sum) % limit32, b, c]
  | _ => state

def absorb (state : List Nat) (block : Array Nat) : List Nat :=
  List.zipWith (fun a b => (a + b) % limit32) state (constants.zipIdx.foldl (round block) state)

def digest (message : List Nat) : List Nat :=
  ((blocks 64 4 true (filled 64 8 true message)).foldl absorb (oldStart.take 4)).flatMap fun w =>
    (bytesOf 4 w).reverse

end Md5

def remainder (crc byte : Nat) : Nat :=
  let step (x : Nat) : Nat :=
    if x < 0x80000000 then x * 2 else x * 2 % limit32 ^^^ 0x04c11db7
  Nat.repeat step 8 (crc ^^^ byte <<< 24)

def lengthBytes : Nat → Nat → List Nat
  | 0, _ => []
  | fuel + 1, n => if n = 0 then [] else n % 256 :: lengthBytes fuel (n / 256)

def cyclic (message : List Nat) : Nat :=
  let all := message ++ lengthBytes 9 message.length
  inverted 32 (all.foldl remainder 0)

def turning (message : List Nat) : Nat :=
  message.foldl (fun n b => (n / 2 + n % 2 * 32768 + b) % 65536) 0

def summed (message : List Nat) : Nat :=
  let sum := message.foldr (· + ·) 0 % limit32
  let once := sum % 65536 + sum / 65536
  once % 65536 + once / 65536

/-- Writes bytes with letters for so many bits each; groups are filled up with `=`. -/
def spelled (alphabet : Chars) (bits group : Nat) (bytes : List Nat) : Chars :=
  (parts group (bytes.length / group + 1) bytes).flatMap fun part =>
    let letters := (part.length * 8 + bits - 1) / bits
    let all := group * 8 / bits
    let value := ofBytes (part ++ List.replicate (group - part.length) 0)
    let letter (i : Nat) : Char :=
      alphabet.getD (value / Nat.pow 2 (bits * (all - 1 - i)) % Nat.pow 2 bits) '='
    (List.range letters).map letter ++ List.replicate (all - letters) '='

/-- The bytes that a text spells, up to where it is not sound; also whether all of it is. -/
def unspelled (alphabet : Chars) (bits group : Nat) : Nat → Chars → List Nat × Bool
  | 0, cs => ([], cs.isEmpty)
  | _, [] => ([], true)
  | n + 1, cs =>
    let all := group * 8 / bits
    let part := cs.take all
    let letters := part.takeWhile (· ≠ '=')
    let values := letters.map fun c => alphabet.idxOf c
    let good := values.takeWhile (· < alphabet.length)
    let value := (good ++ List.replicate (all - good.length) 0).foldl
      (fun n v => n * Nat.pow 2 bits + v) 0
    let isHeld := bits < 6 && part.length < all
    let bytes := if isHeld then [] else (bytesOf group value).take (good.length * bits / 8)
    let isFilled := part.length = all && good.length = letters.length &&
      (part.drop letters.length).all (· = '=') &&
      (letters.length * bits / 8 * 8 + bits - 1) / bits = letters.length
    if isFilled && !bytes.isEmpty then
      let (more, whole) := unspelled alphabet bits group n (cs.drop all)
      (bytes ++ more, whole)
    else (bytes, false)

end ImportResolver.Tool.Digest
