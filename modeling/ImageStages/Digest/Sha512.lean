namespace ImageStages.Digest

/-- The first 64 bits of the fractional parts of the cube roots of the first
eighty primes. -/
def roundConstants : Array UInt64 := #[
  0x428a2f98d728ae22, 0x7137449123ef65cd, 0xb5c0fbcfec4d3b2f, 0xe9b5dba58189dbbc,
  0x3956c25bf348b538, 0x59f111f1b605d019, 0x923f82a4af194f9b, 0xab1c5ed5da6d8118,
  0xd807aa98a3030242, 0x12835b0145706fbe, 0x243185be4ee4b28c, 0x550c7dc3d5ffb4e2,
  0x72be5d74f27b896f, 0x80deb1fe3b1696b1, 0x9bdc06a725c71235, 0xc19bf174cf692694,
  0xe49b69c19ef14ad2, 0xefbe4786384f25e3, 0x0fc19dc68b8cd5b5, 0x240ca1cc77ac9c65,
  0x2de92c6f592b0275, 0x4a7484aa6ea6e483, 0x5cb0a9dcbd41fbd4, 0x76f988da831153b5,
  0x983e5152ee66dfab, 0xa831c66d2db43210, 0xb00327c898fb213f, 0xbf597fc7beef0ee4,
  0xc6e00bf33da88fc2, 0xd5a79147930aa725, 0x06ca6351e003826f, 0x142929670a0e6e70,
  0x27b70a8546d22ffc, 0x2e1b21385c26c926, 0x4d2c6dfc5ac42aed, 0x53380d139d95b3df,
  0x650a73548baf63de, 0x766a0abb3c77b2a8, 0x81c2c92e47edaee6, 0x92722c851482353b,
  0xa2bfe8a14cf10364, 0xa81a664bbc423001, 0xc24b8b70d0f89791, 0xc76c51a30654be30,
  0xd192e819d6ef5218, 0xd69906245565a910, 0xf40e35855771202a, 0x106aa07032bbd1b8,
  0x19a4c116b8d2d0c8, 0x1e376c085141ab53, 0x2748774cdf8eeb99, 0x34b0bcb5e19b48a8,
  0x391c0cb3c5c95a63, 0x4ed8aa4ae3418acb, 0x5b9cca4f7763e373, 0x682e6ff3d6b2b8a3,
  0x748f82ee5defb2fc, 0x78a5636f43172f60, 0x84c87814a1f0ab72, 0x8cc702081a6439ec,
  0x90befffa23631e28, 0xa4506cebde82bde9, 0xbef9a3f7b2c67915, 0xc67178f2e372532b,
  0xca273eceea26619c, 0xd186b8c721c0c207, 0xeada7dd6cde0eb1e, 0xf57d4f7fee6ed178,
  0x06f067aa72176fba, 0x0a637dc5a2c898a6, 0x113f9804bef90dae, 0x1b710b35131c471b,
  0x28db77f523047d84, 0x32caab7b40c72493, 0x3c9ebe0a15c9bebc, 0x431d67c49c100d4c,
  0x4cc5d4becb3e42b6, 0x597f299cfc657e2a, 0x5fcb6fab3ad6faec, 0x6c44198c4a475817]

structure State where
  a : UInt64
  b : UInt64
  c : UInt64
  d : UInt64
  e : UInt64
  f : UInt64
  g : UInt64
  h : UInt64

/-- The first 64 bits of the fractional parts of the square roots of the first
eight primes. -/
def initialState : State where
  a := 0x6a09e667f3bcc908
  b := 0xbb67ae8584caa73b
  c := 0x3c6ef372fe94f82b
  d := 0xa54ff53a5f1d36f1
  e := 0x510e527fade682d1
  f := 0x9b05688c2b3e6c1f
  g := 0x1f83d9abfb41bd6b
  h := 0x5be0cd19137e2179

def rotateRight (word count : UInt64) : UInt64 :=
  (word >>> count) ||| (word <<< (64 - count))

def octetAt (octets : ByteArray) (index : Nat) : UInt8 :=
  if inside : index < octets.size then octets[index] else 0

/-- The eight octets from an offset on as one word, the first octet in front. -/
def wordAt (octets : ByteArray) (offset : Nat) : UInt64 :=
  if inside : offset + 7 < octets.size then
    (octets[offset].toUInt64 <<< 56) ||| (octets[offset + 1].toUInt64 <<< 48) |||
      (octets[offset + 2].toUInt64 <<< 40) ||| (octets[offset + 3].toUInt64 <<< 32) |||
      (octets[offset + 4].toUInt64 <<< 24) ||| (octets[offset + 5].toUInt64 <<< 16) |||
      (octets[offset + 6].toUInt64 <<< 8) ||| octets[offset + 7].toUInt64
  else 0

/-- The word that follows sixteen words: of them it takes the first, the second, the
tenth and the fifteenth. -/
def nextWord (first second tenth fifteenth : UInt64) : UInt64 :=
  let nearMix := rotateRight second 1 ^^^ rotateRight second 8 ^^^ (second >>> 7)
  let farMix := rotateRight fifteenth 19 ^^^ rotateRight fifteenth 61 ^^^ (fifteenth >>> 6)
  first + nearMix + tenth + farMix

/-- The rounds that are left of a block.  The next one uses the first of sixteen words,
which the others then follow. -/
def rounds (remaining : Nat)
    (w0 w1 w2 w3 w4 w5 w6 w7 w8 w9 w10 w11 w12 w13 w14 w15 a b c d e f g h : UInt64) : State :=
  match remaining with
  | 0 => ⟨a, b, c, d, e, f, g, h⟩
  | remaining + 1 =>
      let mixE := rotateRight e 14 ^^^ rotateRight e 18 ^^^ rotateRight e 41
      let choice := (e &&& f) ^^^ ((~~~e) &&& g)
      let first := h + mixE + choice + roundConstants.getD (79 - remaining) 0 + w0
      let mixA := rotateRight a 28 ^^^ rotateRight a 34 ^^^ rotateRight a 39
      let majority := (a &&& b) ^^^ (a &&& c) ^^^ (b &&& c)
      rounds remaining w1 w2 w3 w4 w5 w6 w7 w8 w9 w10 w11 w12 w13 w14 w15
        (nextWord w0 w1 w9 w14) (first + (mixA + majority)) a b c (d + first) e f g

def State.add (left right : State) : State :=
  ⟨left.a + right.a, left.b + right.b, left.c + right.c, left.d + right.d,
    left.e + right.e, left.f + right.f, left.g + right.g, left.h + right.h⟩

def absorb (octets : ByteArray) (state : State) (offset : Nat) : State :=
  let word (index : Nat) : UInt64 := wordAt octets (offset + 8 * index)
  state.add (rounds 80 (word 0) (word 1) (word 2) (word 3) (word 4) (word 5) (word 6) (word 7)
    (word 8) (word 9) (word 10) (word 11) (word 12) (word 13) (word 14) (word 15)
    state.a state.b state.c state.d state.e state.f state.g state.h)

def pushWord (octets : ByteArray) (word : UInt64) : ByteArray :=
  Nat.fold 8 (fun index _ octets =>
    octets.push (word >>> (56 - 8 * index.toUInt64)).toUInt8) octets

/-- Fills up to whole blocks: a single bit, zeros, and the length in bits. -/
def padded (octets : ByteArray) : ByteArray :=
  let missing := (239 - octets.size % 128) % 128
  let filled := Nat.fold missing (fun _ _ octets => octets.push 0) (octets.push 0x80)
  let bits := 8 * octets.size
  pushWord (pushWord filled (bits >>> 64).toUInt64) bits.toUInt64

def sha512 (octets : ByteArray) : ByteArray :=
  let message := padded octets
  let state := Nat.fold (message.size / 128) (fun index _ state =>
    absorb message state (128 * index)) initialState
  [state.a, state.b, state.c, state.d, state.e, state.f, state.g, state.h].foldl pushWord
    ByteArray.empty

end ImageStages.Digest
