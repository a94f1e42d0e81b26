import Mathlib

/-!
# SHA-256 of the Go runtime

`sum256` is `sha256.Sum256` on lists of bytes: the message is padded to whole
blocks of sixteen words, and each block is folded into the digest by 64 rounds.
-/

namespace Ipv6Mesh.GoSha256

def roundConstants : List UInt32 :=
  [0x428a2f98, 0x71374491, 0xb5c0fbcf, 0xe9b5dba5, 0x3956c25b, 0x59f111f1, 0x923f82a4, 0xab1c5ed5,
   0xd807aa98, 0x12835b01, 0x243185be, 0x550c7dc3, 0x72be5d74, 0x80deb1fe, 0x9bdc06a7, 0xc19bf174,
   0xe49b69c1, 0xefbe4786, 0x0fc19dc6, 0x240ca1cc, 0x2de92c6f, 0x4a7484aa, 0x5cb0a9dc, 0x76f988da,
   0x983e5152, 0xa831c66d, 0xb00327c8, 0xbf597fc7, 0xc6e00bf3, 0xd5a79147, 0x06ca6351, 0x14292967,
   0x27b70a85, 0x2e1b2138, 0x4d2c6dfc, 0x53380d13, 0x650a7354, 0x766a0abb, 0x81c2c92e, 0x92722c85,
   0xa2bfe8a1, 0xa81a664b, 0xc24b8b70, 0xc76c51a3, 0xd192e819, 0xd6990624, 0xf40e3585, 0x106aa070,
   0x19a4c116, 0x1e376c08, 0x2748774c, 0x34b0bcb5, 0x391c0cb3, 0x4ed8aa4a, 0x5b9cca4f, 0x682e6ff3,
   0x748f82ee, 0x78a5636f, 0x84c87814, 0x8cc70208, 0x90befffa, 0xa4506ceb, 0xbef9a3f7, 0xc67178f2]

def rotateRight (word : UInt32) (count : UInt32) : UInt32 :=
  (word >>> count) ||| (word <<< (32 - count))

structure Digest where
  a : UInt32
  b : UInt32
  c : UInt32
  d : UInt32
  e : UInt32
  f : UInt32
  g : UInt32
  h : UInt32

def Digest.initial : Digest :=
  ⟨0x6a09e667, 0xbb67ae85, 0x3c6ef372, 0xa54ff53a, 0x510e527f, 0x9b05688c, 0x1f83d9ab, 0x5be0cd19⟩

def Digest.add (left right : Digest) : Digest :=
  ⟨left.a + right.a, left.b + right.b, left.c + right.c, left.d + right.d, left.e + right.e,
    left.f + right.f, left.g + right.g, left.h + right.h⟩

def Digest.words (digest : Digest) : List UInt32 :=
  [digest.a, digest.b, digest.c, digest.d, digest.e, digest.f, digest.g, digest.h]

def padding (length : Nat) : List UInt8 :=
  0x80 :: (List.replicate ((119 - length % 64) % 64) (0 : UInt8) ++
    (List.range 8).map fun index => UInt8.ofNat ((length * 8) >>> (8 * (7 - index))))

def word (first second third fourth : UInt8) : UInt32 :=
  first.toUInt32 <<< 24 ||| second.toUInt32 <<< 16 ||| third.toUInt32 <<< 8 ||| fourth.toUInt32

def wordsOf : List UInt8 → List UInt32
  | first :: second :: third :: fourth :: rest => word first second third fourth :: wordsOf rest
  | _ => []

def extend : Nat → List UInt32 → List UInt32
  | 0, words => words
  | count + 1, words =>
    let near := words.getD 1 0
    let far := words.getD 14 0
    let sigma1 := rotateRight near 17 ^^^ rotateRight near 19 ^^^ (near >>> 10)
    let sigma0 := rotateRight far 7 ^^^ rotateRight far 18 ^^^ (far >>> 3)
    extend count ((sigma1 + words.getD 6 0 + sigma0 + words.getD 15 0) :: words)

def round (digest : Digest) (input : UInt32 × UInt32) : Digest :=
  let choice := (digest.e &&& digest.f) ^^^ (~~~digest.e &&& digest.g)
  let sum1 := rotateRight digest.e 6 ^^^ rotateRight digest.e 11 ^^^ rotateRight digest.e 25
  let first := digest.h + sum1 + choice + input.1 + input.2
  let majority := (digest.a &&& digest.b) ^^^ (digest.a &&& digest.c) ^^^ (digest.b &&& digest.c)
  let sum0 := rotateRight digest.a 2 ^^^ rotateRight digest.a 13 ^^^ rotateRight digest.a 22
  ⟨first + (sum0 + majority), digest.a, digest.b, digest.c, digest.d + first, digest.e, digest.f,
    digest.g⟩

def block (digest : Digest) (words : List UInt32) : Digest :=
  let schedule := (extend 48 words.reverse).reverse
  digest.add ((roundConstants.zip schedule).foldl round digest)

def blocks : Nat → Digest → List UInt32 → Digest
  | 0, digest, _ => digest
  | count + 1, digest, words => blocks count (block digest (words.take 16)) (words.drop 16)

def sum256 (message : List UInt8) : List UInt8 :=
  let words := wordsOf (message ++ padding message.length)
  (blocks (words.length / 16) Digest.initial words).words.flatMap fun (word : UInt32) =>
    [(word >>> 24).toUInt8, (word >>> 16).toUInt8, (word >>> 8).toUInt8, word.toUInt8]

example : (sum256 [0x61, 0x62, 0x63]).take 4 = [0xba, 0x78, 0x16, 0xbf] := by decide +kernel

end Ipv6Mesh.GoSha256
