set_option autoImplicit false

namespace Casework.Sha256

-- The first 32 bits of the fractional parts of the cube roots of the first 64 primes.
def roundConstants : List UInt32 :=
  [0x428a2f98, 0x71374491, 0xb5c0fbcf, 0xe9b5dba5, 0x3956c25b, 0x59f111f1, 0x923f82a4, 0xab1c5ed5,
   0xd807aa98, 0x12835b01, 0x243185be, 0x550c7dc3, 0x72be5d74, 0x80deb1fe, 0x9bdc06a7, 0xc19bf174,
   0xe49b69c1, 0xefbe4786, 0x0fc19dc6, 0x240ca1cc, 0x2de92c6f, 0x4a7484aa, 0x5cb0a9dc, 0x76f988da,
   0x983e5152, 0xa831c66d, 0xb00327c8, 0xbf597fc7, 0xc6e00bf3, 0xd5a79147, 0x06ca6351, 0x14292967,
   0x27b70a85, 0x2e1b2138, 0x4d2c6dfc, 0x53380d13, 0x650a7354, 0x766a0abb, 0x81c2c92e, 0x92722c85,
   0xa2bfe8a1, 0xa81a664b, 0xc24b8b70, 0xc76c51a3, 0xd192e819, 0xd6990624, 0xf40e3585, 0x106aa070,
   0x19a4c116, 0x1e376c08, 0x2748774c, 0x34b0bcb5, 0x391c0cb3, 0x4ed8aa4a, 0x5b9cca4f, 0x682e6ff3,
   0x748f82ee, 0x78a5636f, 0x84c87814, 0x8cc70208, 0x90befffa, 0xa4506ceb, 0xbef9a3f7, 0xc67178f2]

structure State where
  a : UInt32
  b : UInt32
  c : UInt32
  d : UInt32
  e : UInt32
  f : UInt32
  g : UInt32
  h : UInt32
deriving DecidableEq, Repr

-- The first 32 bits of the fractional parts of the square roots of the first eight primes.
def initial : State :=
  ⟨0x6a09e667, 0xbb67ae85, 0x3c6ef372, 0xa54ff53a, 0x510e527f, 0x9b05688c, 0x1f83d9ab, 0x5be0cd19⟩

def rotateRight (word : UInt32) (count : UInt32) : UInt32 :=
  (word >>> count) ||| (word <<< (32 - count))

def bigEndian (count number : Nat) : List UInt8 :=
  (List.range count).map fun index => UInt8.ofNat (number / Nat.pow 256 (count - 1 - index))

def ofBigEndian (bytes : List UInt8) : Nat :=
  bytes.foldl (fun number byte => 256 * number + byte.toNat) 0

def padded (bytes : List UInt8) : List UInt8 :=
  -- The one bit and the length take nine of the 64 bytes of the last block.
  bytes ++ 0x80 :: List.replicate ((119 - bytes.length % 64) % 64) 0 ++
    bigEndian 8 (8 * bytes.length)

def slice (bytes : List UInt8) (size index : Nat) : List UInt8 :=
  (bytes.drop (size * index)).take size

def schedule (block : List UInt8) : Array UInt32 :=
  (List.range 48).foldl
    (fun words index =>
      let word (back : Nat) : UInt32 := words.getD (index + 16 - back) 0
      let near := word 2
      let far := word 15
      let mixedNear := rotateRight near 17 ^^^ rotateRight near 19 ^^^ (near >>> 10)
      let mixedFar := rotateRight far 7 ^^^ rotateRight far 18 ^^^ (far >>> 3)
      words.push (mixedNear + word 7 + mixedFar + word 16))
    ((List.range 16).map fun index => UInt32.ofNat (ofBigEndian (slice block 4 index))).toArray

def round (state : State) (word constant : UInt32) : State :=
  let choice := (state.e &&& state.f) ^^^ ((~~~state.e) &&& state.g)
  let majority := (state.a &&& state.b) ^^^ (state.a &&& state.c) ^^^ (state.b &&& state.c)
  let high := rotateRight state.e 6 ^^^ rotateRight state.e 11 ^^^ rotateRight state.e 25
  let low := rotateRight state.a 2 ^^^ rotateRight state.a 13 ^^^ rotateRight state.a 22
  let first := state.h + high + choice + constant + word
  let second := low + majority
  ⟨first + second, state.a, state.b, state.c, state.d + first, state.e, state.f, state.g⟩

def compress (state : State) (block : List UInt8) : State :=
  let mixed := ((schedule block).toList.zip roundConstants).foldl
    (fun current (word, constant) => round current word constant) state
  ⟨state.a + mixed.a, state.b + mixed.b, state.c + mixed.c, state.d + mixed.d,
    state.e + mixed.e, state.f + mixed.f, state.g + mixed.g, state.h + mixed.h⟩

def State.words (state : State) : List UInt32 :=
  [state.a, state.b, state.c, state.d, state.e, state.f, state.g, state.h]

def digest (bytes : List UInt8) : List UInt8 :=
  let message := padded bytes
  let last := (List.range (message.length / 64)).foldl
    (fun state index => compress state (slice message 64 index)) initial
  last.words.flatMap fun word => bigEndian 4 word.toNat

end Casework.Sha256
