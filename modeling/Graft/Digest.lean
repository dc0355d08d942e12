import Graft.Text

/-!
# Digest

The 64-bit XXH3 digest of a text's bytes, with seed zero.  Inputs of up to 16, 128 and 240 bytes
have mixers of their own; longer ones run eight accumulators over stripes of 64 bytes.
-/

namespace Graft.Digest

/-- The bytes that key the mixers. -/
def secret : ByteArray := ⟨#[
  0xb8, 0xfe, 0x6c, 0x39, 0x23, 0xa4, 0x4b, 0xbe, 0x7c, 0x01, 0x81, 0x2c, 0xf7, 0x21, 0xad, 0x1c,
  0xde, 0xd4, 0x6d, 0xe9, 0x83, 0x90, 0x97, 0xdb, 0x72, 0x40, 0xa4, 0xa4, 0xb7, 0xb3, 0x67, 0x1f,
  0xcb, 0x79, 0xe6, 0x4e, 0xcc, 0xc0, 0xe5, 0x78, 0x82, 0x5a, 0xd0, 0x7d, 0xcc, 0xff, 0x72, 0x21,
  0xb8, 0x08, 0x46, 0x74, 0xf7, 0x43, 0x24, 0x8e, 0xe0, 0x35, 0x90, 0xe6, 0x81, 0x3a, 0x26, 0x4c,
  0x3c, 0x28, 0x52, 0xbb, 0x91, 0xc3, 0x00, 0xcb, 0x88, 0xd0, 0x65, 0x8b, 0x1b, 0x53, 0x2e, 0xa3,
  0x71, 0x64, 0x48, 0x97, 0xa2, 0x0d, 0xf9, 0x4e, 0x38, 0x19, 0xef, 0x46, 0xa9, 0xde, 0xac, 0xd8,
  0xa8, 0xfa, 0x76, 0x3f, 0xe3, 0x9c, 0x34, 0x3f, 0xf9, 0xdc, 0xbb, 0xc7, 0xc7, 0x0b, 0x4f, 0x1d,
  0x8a, 0x51, 0xe0, 0x4b, 0xcd, 0xb4, 0x59, 0x31, 0xc8, 0x9f, 0x7e, 0xc9, 0xd9, 0x78, 0x73, 0x64,
  0xea, 0xc5, 0xac, 0x83, 0x34, 0xd3, 0xeb, 0xc3, 0xc5, 0x81, 0xa0, 0xff, 0xfa, 0x13, 0x63, 0xeb,
  0x17, 0x0d, 0xdd, 0x51, 0xb7, 0xf0, 0xda, 0x49, 0xd3, 0x16, 0x55, 0x26, 0x29, 0xd4, 0x68, 0x9e,
  0x2b, 0x16, 0xbe, 0x58, 0x7d, 0x47, 0xa1, 0xfc, 0x8f, 0xf8, 0xb8, 0xd1, 0x7a, 0xd0, 0x31, 0xce,
  0x45, 0xcb, 0x3a, 0x8f, 0x95, 0x16, 0x04, 0x28, 0xaf, 0xd7, 0xfb, 0xca, 0xbb, 0x4b, 0x40, 0x7e]⟩

def prime32₁ : UInt64 := 0x9E3779B1
def prime32₂ : UInt64 := 0x85EBCA77
def prime32₃ : UInt64 := 0xC2B2AE3D
def prime64₁ : UInt64 := 0x9E3779B185EBCA87
def prime64₂ : UInt64 := 0xC2B2AE3D27D4EB4F
def prime64₃ : UInt64 := 0x165667B19E3779F9
def prime64₄ : UInt64 := 0x85EBCA77C2B2AE63
def prime64₅ : UInt64 := 0x27D4EB2F165667C5
def mix₁ : UInt64 := 0x165667919E3779F9
def mix₂ : UInt64 := 0x9FB21C651E98DF25

def byte (b : ByteArray) (i : Nat) : UInt64 := (b.data.getD i 0).toUInt64

/-- Four bytes, the least significant first. -/
def read32 (b : ByteArray) (i : Nat) : UInt64 :=
  byte b i ||| (byte b (i + 1) <<< 8) ||| (byte b (i + 2) <<< 16) ||| (byte b (i + 3) <<< 24)

/-- Eight bytes, the least significant first. -/
def read64 (b : ByteArray) (i : Nat) : UInt64 := read32 b i ||| (read32 b (i + 4) <<< 32)

def rotateLeft (x : UInt64) (k : UInt64) : UInt64 := (x <<< k) ||| (x >>> (64 - k))

/-- The bytes of `x` in reverse order. -/
def swapBytes (x : UInt64) : UInt64 :=
  (List.range 8).foldl (fun acc i => (acc <<< 8) ||| ((x >>> (8 * i.toUInt64)) &&& 0xFF)) 0

/-- Both halves of the 128-bit product, combined. -/
def foldProduct (x y : UInt64) : UInt64 :=
  let p := x.toNat * y.toNat
  p.toUInt64 ^^^ (p >>> 64).toUInt64

/-- The finishing step of short inputs. -/
def avalancheShort (h : UInt64) : UInt64 :=
  let h := (h ^^^ (h >>> 33)) * prime64₂
  let h := (h ^^^ (h >>> 29)) * prime64₃
  h ^^^ (h >>> 32)

/-- The finishing step of all other inputs. -/
def avalanche (h : UInt64) : UInt64 :=
  let h := (h ^^^ (h >>> 37)) * mix₁
  h ^^^ (h >>> 32)

/-- Sixteen bytes of input at `i`, keyed by the sixteen at `k`. -/
def mix16 (b : ByteArray) (i k : Nat) : UInt64 :=
  foldProduct (read64 b i ^^^ read64 secret k) (read64 b (i + 8) ^^^ read64 secret (k + 8))

def ofUpTo3 (b : ByteArray) (n : Nat) : UInt64 :=
  let combined := (byte b 0 <<< 16) ||| (byte b (n / 2) <<< 24) ||| byte b (n - 1) |||
    (n.toUInt64 <<< 8)
  avalancheShort (combined ^^^ (read32 secret 0 ^^^ read32 secret 4))

def ofUpTo8 (b : ByteArray) (n : Nat) : UInt64 :=
  let keyed := (read32 b (n - 4) + (read32 b 0 <<< 32)) ^^^ (read64 secret 8 ^^^ read64 secret 16)
  let h := keyed ^^^ rotateLeft keyed 49 ^^^ rotateLeft keyed 24
  let h := h * mix₂
  let h := (h ^^^ ((h >>> 35) + n.toUInt64)) * mix₂
  h ^^^ (h >>> 28)

def ofUpTo16 (b : ByteArray) (n : Nat) : UInt64 :=
  let lo := read64 b 0 ^^^ (read64 secret 24 ^^^ read64 secret 32)
  let hi := read64 b (n - 8) ^^^ (read64 secret 40 ^^^ read64 secret 48)
  avalanche (n.toUInt64 + swapBytes lo + hi + foldProduct lo hi)

/-- Pairs of sixteen bytes, from both ends towards the middle. -/
def ofUpTo128 (b : ByteArray) (n : Nat) : UInt64 :=
  let pairs := (n - 1) / 32 + 1
  avalanche <| (List.range pairs).foldl
    (fun acc i => acc + mix16 b (16 * i) (32 * i) + mix16 b (n - 16 * (i + 1)) (32 * i + 16))
    (n.toUInt64 * prime64₁)

def ofUpTo240 (b : ByteArray) (n : Nat) : UInt64 :=
  let first := (List.range 8).foldl (fun acc i => acc + mix16 b (16 * i) (16 * i))
    (n.toUInt64 * prime64₁)
  let rest := (List.range (n / 16 - 8)).foldl
    (fun acc i => acc + mix16 b (16 * (i + 8)) (16 * i + 3)) (avalanche first)
  avalanche (rest + mix16 b (n - 16) (136 - 17))

/-- The eight accumulators after one stripe of 64 bytes at `i`, keyed at `k`. -/
def stripe (b : ByteArray) (i k : Nat) (acc : Array UInt64) : Array UInt64 :=
  (List.range 8).foldl (fun acc j =>
    let value := read64 b (i + 8 * j)
    let key := value ^^^ read64 secret (k + 8 * j)
    let other := j ^^^ 1
    let acc := acc.setIfInBounds other (acc.getD other 0 + value)
    acc.setIfInBounds j (acc.getD j 0 + (key &&& (0xFFFFFFFF : UInt64)) * (key >>> 32))) acc

/-- The step between two blocks of sixteen stripes. -/
def scramble (acc : Array UInt64) : Array UInt64 :=
  (List.range 8).foldl (fun acc j =>
    let a := acc.getD j 0
    acc.setIfInBounds j (((a ^^^ (a >>> 47)) ^^^ read64 secret (128 + 8 * j)) * prime32₁)) acc

def stripes (b : ByteArray) (start count : Nat) (acc : Array UInt64) : Array UInt64 :=
  (List.range count).foldl (fun acc j => stripe b (start + 64 * j) (8 * j) acc) acc

def ofLong (b : ByteArray) (n : Nat) : UInt64 :=
  let acc : Array UInt64 :=
    #[prime32₃, prime64₁, prime64₂, prime64₃, prime64₄, prime32₂, prime64₅, prime32₁]
  let blocks := (n - 1) / 1024
  let acc := (List.range blocks).foldl
    (fun acc j => scramble (stripes b (1024 * j) 16 acc)) acc
  let acc := stripes b (1024 * blocks) ((n - 1 - 1024 * blocks) / 64) acc
  let acc := stripe b (n - 64) (192 - 64 - 7) acc
  avalanche <| (List.range 4).foldl
    (fun h j => h + foldProduct (acc.getD (2 * j) 0 ^^^ read64 secret (11 + 16 * j))
      (acc.getD (2 * j + 1) 0 ^^^ read64 secret (19 + 16 * j)))
    (n.toUInt64 * prime64₁)

/-- The digest of `b`. -/
def ofBytes (b : ByteArray) : UInt64 :=
  let n := b.size
  if n = 0 then avalancheShort (read64 secret 56 ^^^ read64 secret 64)
  else if n ≤ 3 then ofUpTo3 b n
  else if n ≤ 8 then ofUpTo8 b n
  else if n ≤ 16 then ofUpTo16 b n
  else if n ≤ 128 then ofUpTo128 b n
  else if n ≤ 240 then ofUpTo240 b n
  else ofLong b n

/-- The digest of the UTF-8 bytes of `t`. -/
def ofText (t : Text) : UInt64 := ofBytes (String.ofList t).toUTF8

end Graft.Digest
