/-
Module: SorobanUpgrades.Library.Sha256
Purpose: SHA-256 on byte lists, as a concrete hash for closed runs.
Trusted boundary: human-reviewed spec
Main exports: sha256
-/
import Mathlib

namespace SorobanUpgrades

namespace Sha256

/-- The fractional parts of the cube roots of the first 64 primes. -/
def roundConstants : List UInt32 := [
  0x428a2f98, 0x71374491, 0xb5c0fbcf, 0xe9b5dba5, 0x3956c25b, 0x59f111f1, 0x923f82a4, 0xab1c5ed5,
  0xd807aa98, 0x12835b01, 0x243185be, 0x550c7dc3, 0x72be5d74, 0x80deb1fe, 0x9bdc06a7, 0xc19bf174,
  0xe49b69c1, 0xefbe4786, 0x0fc19dc6, 0x240ca1cc, 0x2de92c6f, 0x4a7484aa, 0x5cb0a9dc, 0x76f988da,
  0x983e5152, 0xa831c66d, 0xb00327c8, 0xbf597fc7, 0xc6e00bf3, 0xd5a79147, 0x06ca6351, 0x14292967,
  0x27b70a85, 0x2e1b2138, 0x4d2c6dfc, 0x53380d13, 0x650a7354, 0x766a0abb, 0x81c2c92e, 0x92722c85,
  0xa2bfe8a1, 0xa81a664b, 0xc24b8b70, 0xc76c51a3, 0xd192e819, 0xd6990624, 0xf40e3585, 0x106aa070,
  0x19a4c116, 0x1e376c08, 0x2748774c, 0x34b0bcb5, 0x391c0cb3, 0x4ed8aa4a, 0x5b9cca4f, 0x682e6ff3,
  0x748f82ee, 0x78a5636f, 0x84c87814, 0x8cc70208, 0x90befffa, 0xa4506ceb, 0xbef9a3f7, 0xc67178f2]

/-- The eight working variables. -/
structure State where
  a : UInt32
  b : UInt32
  c : UInt32
  d : UInt32
  e : UInt32
  f : UInt32
  g : UInt32
  h : UInt32

/-- The fractional parts of the square roots of the first eight primes. -/
def State.initial : State where
  a := 0x6a09e667
  b := 0xbb67ae85
  c := 0x3c6ef372
  d := 0xa54ff53a
  e := 0x510e527f
  f := 0x9b05688c
  g := 0x1f83d9ab
  h := 0x5be0cd19

/-- Word-wise addition. -/
def State.add (left right : State) : State where
  a := left.a + right.a
  b := left.b + right.b
  c := left.c + right.c
  d := left.d + right.d
  e := left.e + right.e
  f := left.f + right.f
  g := left.g + right.g
  h := left.h + right.h

/-- The eight words in order. -/
def State.words (state : State) : List UInt32 :=
  [state.a, state.b, state.c, state.d, state.e, state.f, state.g, state.h]

/-- Rotation of a word. -/
def rotateRight (word : UInt32) (count : UInt32) : UInt32 :=
  (word >>> count) ||| (word <<< (32 - count))

/-- One round with its constant and its word of the schedule. -/
def State.round (state : State) (constant word : UInt32) : State :=
  let choice := (state.e &&& state.f) ^^^ ((~~~ state.e) &&& state.g)
  let majority := (state.a &&& state.b) ^^^ (state.a &&& state.c) ^^^ (state.b &&& state.c)
  let lower := rotateRight state.a 2 ^^^ rotateRight state.a 13 ^^^ rotateRight state.a 22
  let upper := rotateRight state.e 6 ^^^ rotateRight state.e 11 ^^^ rotateRight state.e 25
  let first := state.h + upper + choice + constant + word
  { a := first + (lower + majority)
    b := state.a
    c := state.b
    d := state.c
    e := state.d + first
    f := state.e
    g := state.f
    h := state.g }

/-- Extend a window of 16 schedule words, newest word last. -/
def schedule : Nat → List UInt32 → List UInt32
  | 0, _ => []
  | count + 1, window =>
      let word (position : Nat) := window.getD position 0
      let early := rotateRight (word 1) 7 ^^^ rotateRight (word 1) 18 ^^^ (word 1 >>> 3)
      let late := rotateRight (word 14) 17 ^^^ rotateRight (word 14) 19 ^^^ (word 14 >>> 10)
      word 0 :: schedule count (window.tail ++ [word 0 + early + word 9 + late])

/-- One block of 64 bytes. -/
def compressBlock (state : State) (block : List UInt32) : State :=
  state.add ((roundConstants.zip (schedule 64 block)).foldl
    (fun state (constant, word) => state.round constant word) state)

/-- Big-endian words. -/
def toWords : List UInt8 → List UInt32
  | a :: b :: c :: d :: bytes =>
      (a.toUInt32 <<< 24 ||| b.toUInt32 <<< 16 ||| c.toUInt32 <<< 8 ||| d.toUInt32) :: toWords bytes
  | _ => []

/-- The message with its padding and its length in bits. -/
def padded (message : List UInt8) : List UInt8 :=
  let zeros := (119 - message.length % 64) % 64
  let bits := message.length * 8
  message ++ 0x80 :: List.replicate zeros 0 ++
    (List.range 8).map fun position => UInt8.ofNat (bits / 256 ^ (7 - position))

/-- Split the words into blocks of 16. -/
def blocks (words : List UInt32) : List (List UInt32) :=
  (List.range (words.length / 16)).map fun index => (words.drop (16 * index)).take 16

/-- The four bytes of a word. -/
def bigEndian (word : UInt32) : List UInt8 :=
  [(word >>> 24).toUInt8, (word >>> 16).toUInt8, (word >>> 8).toUInt8, word.toUInt8]

end Sha256

/-- The digest of a message. -/
def sha256 (message : List UInt8) : List UInt8 :=
  ((Sha256.blocks (Sha256.toWords (Sha256.padded message))).foldl Sha256.compressBlock
    Sha256.State.initial).words.flatMap Sha256.bigEndian

end SorobanUpgrades
