/-!
The SHA-256 digest of a sequence of bytes.
-/

namespace AutoReply.Talk.Sha256

def roundConstants : List UInt32 :=
  [0x428a2f98, 0x71374491, 0xb5c0fbcf, 0xe9b5dba5, 0x3956c25b, 0x59f111f1, 0x923f82a4, 0xab1c5ed5,
    0xd807aa98, 0x12835b01, 0x243185be, 0x550c7dc3, 0x72be5d74, 0x80deb1fe, 0x9bdc06a7, 0xc19bf174,
    0xe49b69c1, 0xefbe4786, 0x0fc19dc6, 0x240ca1cc, 0x2de92c6f, 0x4a7484aa, 0x5cb0a9dc, 0x76f988da,
    0x983e5152, 0xa831c66d, 0xb00327c8, 0xbf597fc7, 0xc6e00bf3, 0xd5a79147, 0x06ca6351, 0x14292967,
    0x27b70a85, 0x2e1b2138, 0x4d2c6dfc, 0x53380d13, 0x650a7354, 0x766a0abb, 0x81c2c92e, 0x92722c85,
    0xa2bfe8a1, 0xa81a664b, 0xc24b8b70, 0xc76c51a3, 0xd192e819, 0xd6990624, 0xf40e3585, 0x106aa070,
    0x19a4c116, 0x1e376c08, 0x2748774c, 0x34b0bcb5, 0x391c0cb3, 0x4ed8aa4a, 0x5b9cca4f, 0x682e6ff3,
    0x748f82ee, 0x78a5636f, 0x84c87814, 0x8cc70208, 0x90befffa, 0xa4506ceb, 0xbef9a3f7, 0xc67178f2]

/-- The eight words that are carried from block to block. -/
structure State where
  a : UInt32
  b : UInt32
  c : UInt32
  d : UInt32
  e : UInt32
  f : UInt32
  g : UInt32
  h : UInt32

def initial : State :=
  ⟨0x6a09e667, 0xbb67ae85, 0x3c6ef372, 0xa54ff53a, 0x510e527f, 0x9b05688c, 0x1f83d9ab, 0x5be0cd19⟩

def rotate (count word : UInt32) : UInt32 :=
  word >>> count ||| word <<< (32 - count)

def wordOf (bytes : List UInt8) : UInt32 :=
  bytes.foldl (fun word byte => word <<< 8 ||| byte.toUInt32) 0

def bytesOf (word : UInt32) : List UInt8 :=
  [(word >>> 24).toUInt8, (word >>> 16).toUInt8, (word >>> 8).toUInt8, word.toUInt8]

/-- The next word of the schedule, from the sixteen before it, the latest of which comes first. -/
def nextWord (latest : List UInt32) : UInt32 :=
  let word := fun index => latest[index]?.getD 0
  let early := word 14
  let late := word 1
  (rotate 17 late ^^^ rotate 19 late ^^^ late >>> 10) + word 6 +
    (rotate 7 early ^^^ rotate 18 early ^^^ early >>> 3) + word 15

def extend : Nat → List UInt32 → List UInt32
  | 0, words => words
  | count + 1, words => extend count (nextWord words :: words)

def schedule (block : List UInt8) : List UInt32 :=
  let first := (List.range 16).map fun index => wordOf ((block.drop (4 * index)).take 4)
  (extend 48 first.reverse).reverse

def step (state : State) (constant word : UInt32) : State :=
  let mixed := rotate 6 state.e ^^^ rotate 11 state.e ^^^ rotate 25 state.e
  let chosen := state.e &&& state.f ^^^ ~~~state.e &&& state.g
  let first := state.h + mixed + chosen + constant + word
  let turned := rotate 2 state.a ^^^ rotate 13 state.a ^^^ rotate 22 state.a
  let agreed := state.a &&& state.b ^^^ state.a &&& state.c ^^^ state.b &&& state.c
  ⟨first + (turned + agreed), state.a, state.b, state.c, state.d + first, state.e, state.f,
    state.g⟩

def addStates (left right : State) : State :=
  ⟨left.a + right.a, left.b + right.b, left.c + right.c, left.d + right.d, left.e + right.e,
    left.f + right.f, left.g + right.g, left.h + right.h⟩

def compress (state : State) (block : List UInt8) : State :=
  addStates state ((roundConstants.zip (schedule block)).foldl
    (fun state (constant, word) => step state constant word) state)

def pad (bytes : List UInt8) : List UInt8 :=
  let zeros := (119 - bytes.length % 64) % 64
  let bits := UInt64.ofNat (8 * bytes.length)
  bytes ++ (0x80 : UInt8) :: List.replicate zeros 0 ++ bytesOf (bits >>> 32).toUInt32 ++
    bytesOf bits.toUInt32

def absorb : Nat → State → List UInt8 → State
  | 0, state, _ => state
  | count + 1, state, bytes => absorb count (compress state (bytes.take 64)) (bytes.drop 64)

def digest (bytes : List UInt8) : List UInt8 :=
  let padded := pad bytes
  let state := absorb (padded.length / 64) initial padded
  [state.a, state.b, state.c, state.d, state.e, state.f, state.g, state.h].flatMap bytesOf

end AutoReply.Talk.Sha256
