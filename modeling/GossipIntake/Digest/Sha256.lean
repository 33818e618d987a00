import GossipIntake.Text.Hex

namespace GossipIntake

abbrev Digest := Vector UInt8 32

namespace Sha256

abbrev State := Vector UInt32 8

def initial : State :=
  #v[0x6a09e667, 0xbb67ae85, 0x3c6ef372, 0xa54ff53a, 0x510e527f, 0x9b05688c, 0x1f83d9ab, 0x5be0cd19]

def roundConstants : List UInt32 :=
  [0x428a2f98, 0x71374491, 0xb5c0fbcf, 0xe9b5dba5, 0x3956c25b, 0x59f111f1, 0x923f82a4, 0xab1c5ed5,
   0xd807aa98, 0x12835b01, 0x243185be, 0x550c7dc3, 0x72be5d74, 0x80deb1fe, 0x9bdc06a7, 0xc19bf174,
   0xe49b69c1, 0xefbe4786, 0x0fc19dc6, 0x240ca1cc, 0x2de92c6f, 0x4a7484aa, 0x5cb0a9dc, 0x76f988da,
   0x983e5152, 0xa831c66d, 0xb00327c8, 0xbf597fc7, 0xc6e00bf3, 0xd5a79147, 0x06ca6351, 0x14292967,
   0x27b70a85, 0x2e1b2138, 0x4d2c6dfc, 0x53380d13, 0x650a7354, 0x766a0abb, 0x81c2c92e, 0x92722c85,
   0xa2bfe8a1, 0xa81a664b, 0xc24b8b70, 0xc76c51a3, 0xd192e819, 0xd6990624, 0xf40e3585, 0x106aa070,
   0x19a4c116, 0x1e376c08, 0x2748774c, 0x34b0bcb5, 0x391c0cb3, 0x4ed8aa4a, 0x5b9cca4f, 0x682e6ff3,
   0x748f82ee, 0x78a5636f, 0x84c87814, 0x8cc70208, 0x90befffa, 0xa4506ceb, 0xbef9a3f7, 0xc67178f2]

def rotateRight (word : UInt32) (places : UInt32) : UInt32 :=
  (word >>> places) ||| (word <<< (32 - places))

def choose (x y z : UInt32) : UInt32 := (x &&& y) ^^^ (~~~x &&& z)

def majority (x y z : UInt32) : UInt32 := (x &&& y) ^^^ (x &&& z) ^^^ (y &&& z)

def bigSigma0 (x : UInt32) : UInt32 := rotateRight x 2 ^^^ rotateRight x 13 ^^^ rotateRight x 22

def bigSigma1 (x : UInt32) : UInt32 := rotateRight x 6 ^^^ rotateRight x 11 ^^^ rotateRight x 25

def smallSigma0 (x : UInt32) : UInt32 := rotateRight x 7 ^^^ rotateRight x 18 ^^^ (x >>> 3)

def smallSigma1 (x : UInt32) : UInt32 := rotateRight x 17 ^^^ rotateRight x 19 ^^^ (x >>> 10)

/-- Sixteen consecutive words of the message schedule; the next round uses the first. -/
abbrev Schedule := Vector UInt32 16

def Schedule.next (words : Schedule) : Schedule :=
  let new := smallSigma1 words[14] + words[9] + smallSigma0 words[1] + words[0]
  Vector.ofFn fun i => if inside : i.val + 1 < 16 then words[i.val + 1] else new

def round (state : State) (constant word : UInt32) : State :=
  let first := state[7] + bigSigma1 state[4] + choose state[4] state[5] state[6] + constant + word
  let second := bigSigma0 state[0] + majority state[0] state[1] state[2]
  #v[first + second, state[0], state[1], state[2], state[3] + first, state[4], state[5], state[6]]

def compress (state : State) (block : Schedule) : State :=
  let rounds := roundConstants.foldl
    (fun (mixed : State × Schedule) constant => (round mixed.1 constant mixed.2[0], mixed.2.next))
    (state, block)
  Vector.ofFn fun i => state[i] + rounds.1[i]

def bigEndian64 (n : UInt64) : List UInt8 :=
  [56, 48, 40, 32, 24, 16, 8, 0].map fun (places : UInt64) => (n >>> places).toUInt8

/-- One bit, then as many zeros as fill up the block that ends with the message's length in bits. -/
def padding (length : Nat) : List UInt8 :=
  0x80 :: List.replicate ((119 - length % 64) % 64) 0 ++ bigEndian64 (UInt64.ofNat (8 * length))

def word (bytes : Array UInt8) (start : Nat) : UInt32 :=
  let byte := fun i => (bytes.getD (start + i) 0).toUInt32
  (byte 0 <<< 24) ||| (byte 1 <<< 16) ||| (byte 2 <<< 8) ||| byte 3

def block (bytes : Array UInt8) (index : Nat) : Schedule :=
  Vector.ofFn fun i => word bytes (64 * index + 4 * i.val)

def bytesOf (state : State) : Digest :=
  Vector.ofFn fun i =>
    (state[i.val / 4] >>> (24 - 8 * UInt32.ofNat (i.val % 4))).toUInt8

end Sha256

open Sha256 in
/-- The SHA-256 digest of a message of fewer than 2^61 bytes. -/
def sha256 (message : List UInt8) : Digest :=
  let padded := (message ++ padding message.length).toArray
  bytesOf ((List.range (padded.size / 64)).foldl
    (fun state index => compress state (block padded index)) initial)

example : Hex.encode (sha256 "abc".toUTF8.toList).toList =
    "ba7816bf8f01cfea414140de5dae2223b00361a396177a9cb410ff61f20015ad" := by
  decide +kernel

end GossipIntake
