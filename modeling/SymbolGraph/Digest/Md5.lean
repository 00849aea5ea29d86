import SymbolGraph.Text.Hex
import SymbolGraph.Text.Utf8

/-! # The MD5 digest

    The digest of a message of bytes. The message is padded to whole blocks of 64
    bytes, and the blocks are mixed into four words of 32 bits one after the other.
    Projects are known by the digest of their path.
-/

namespace SymbolGraph.Md5

/-- The four words that blocks are mixed into. -/
structure State where
  a : UInt32
  b : UInt32
  c : UInt32
  d : UInt32
deriving DecidableEq, Inhabited, Repr

/-- The state before the first block. -/
def State.initial : State :=
  ⟨0x67452301, 0xefcdab89, 0x98badcfe, 0x10325476⟩

/-- The constants of the 64 rounds: `2 ^ 32` times the sine of the round's number,
    without sign and fraction. -/
def constants : Array UInt32 := #[
    0xd76aa478, 0xe8c7b756, 0x242070db, 0xc1bdceee, 0xf57c0faf, 0x4787c62a, 0xa8304613, 0xfd469501,
    0x698098d8, 0x8b44f7af, 0xffff5bb1, 0x895cd7be, 0x6b901122, 0xfd987193, 0xa679438e, 0x49b40821,
    0xf61e2562, 0xc040b340, 0x265e5a51, 0xe9b6c7aa, 0xd62f105d, 0x02441453, 0xd8a1e681, 0xe7d3fbc8,
    0x21e1cde6, 0xc33707d6, 0xf4d50d87, 0x455a14ed, 0xa9e3e905, 0xfcefa3f8, 0x676f02d9, 0x8d2a4c8a,
    0xfffa3942, 0x8771f681, 0x6d9d6122, 0xfde5380c, 0xa4beea44, 0x4bdecfa9, 0xf6bb4b60, 0xbebfbc70,
    0x289b7ec6, 0xeaa127fa, 0xd4ef3085, 0x04881d05, 0xd9d4d039, 0xe6db99e5, 0x1fa27cf8, 0xc4ac5665,
    0xf4292244, 0x432aff97, 0xab9423a7, 0xfc93a039, 0x655b59c3, 0x8f0ccc92, 0xffeff47d, 0x85845dd1,
    0x6fa87e4f, 0xfe2ce6e0, 0xa3014314, 0x4e0811a1, 0xf7537e82, 0xbd3af235, 0x2ad7d2bb, 0xeb86d391]

/-- The rotations of the four groups of rounds, each repeated four times. -/
def rotations : Array (Array UInt32) := #[
    #[7, 12, 17, 22], #[5, 9, 14, 20], #[4, 11, 16, 23], #[6, 10, 15, 21]]

/-- A word rotated to the left. -/
def rotate (x n : UInt32) : UInt32 :=
  (x <<< n) ||| (x >>> (32 - n))

/-- How a round mixes three words, and which word of the block it takes. -/
def mix (round : Nat) (s : State) : UInt32 × Nat :=
  match round / 16 with
  | 0 => ((s.b &&& s.c) ||| (~~~s.b &&& s.d), round)
  | 1 => ((s.d &&& s.b) ||| (~~~s.d &&& s.c), (5 * round + 1) % 16)
  | 2 => (s.b ^^^ s.c ^^^ s.d, (3 * round + 5) % 16)
  | _ => (s.c ^^^ (s.b ||| ~~~s.d), (7 * round) % 16)

/-- One round on a block of sixteen words. -/
def round (block : Array UInt32) (s : State) (n : Nat) : State :=
  let (f, g) := mix n s
  let turn := ((rotations[n / 16]?.getD #[])[n % 4]?).getD 0
  let sum := s.a + f + (constants[n]?.getD 0) + (block[g]?.getD 0)
  ⟨s.d, s.b + rotate sum turn, s.b, s.c⟩

/-- Mix a block into the state. -/
def absorb (s : State) (block : Array UInt32) : State :=
  let t := (List.range 64).foldl (round block) s
  ⟨s.a + t.a, s.b + t.b, s.c + t.c, s.d + t.d⟩

/-- The bytes of a number, the lowest first. -/
def littleEndian : (width : Nat) → Nat → List UInt8
  | 0, _ => []
  | width + 1, n => UInt8.ofNat (n % 256) :: littleEndian width (n / 256)

/-- The words of some bytes, the lowest byte of each first. -/
def words : List UInt8 → List UInt32
  | a :: b :: c :: d :: rest =>
    UInt32.ofNat (a.toNat + 256 * (b.toNat + 256 * (c.toNat + 256 * d.toNat))) :: words rest
  | _ => []

/-- A message padded to whole blocks: a marking byte, zeros, and the number of bits. -/
def padded (message : List UInt8) : List UInt8 :=
  let zeros := (119 - message.length % 64) % 64
  message ++ 0x80 :: List.replicate zeros 0 ++ littleEndian 8 (8 * message.length)

/-- Words in blocks of sixteen. -/
def blocks : (count : Nat) → List UInt32 → List (Array UInt32)
  | 0, _ => []
  | count + 1, ws => (ws.take 16).toArray :: blocks count (ws.drop 16)

/-- The digest of a message. -/
def digest (message : List UInt8) : List UInt8 :=
  let ws := words (padded message)
  let s := (blocks (ws.length / 16) ws).foldl absorb State.initial
  [s.a, s.b, s.c, s.d].flatMap fun w => littleEndian 4 w.toNat

/-- The digest of a text, in hexadecimal digits. -/
def hex (s : String) : String :=
  String.ofList ((digest (Text.Utf8.encode s)).flatMap fun b => Text.hexDigits 2 b.toNat)

end SymbolGraph.Md5
