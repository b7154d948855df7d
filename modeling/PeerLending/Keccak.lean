/-!
# Keccak-256

The hash that the checksummed spelling of an address is computed from: the Keccak sponge with
rate 136 bytes over the permutation Keccak-f[1600], message padding `0x01 … 0x80` (the first
Keccak padding, not the later standard's `0x06`), and the first 32 bytes of the state as the
digest.

The state is 25 lanes of 64 bits; lane `(x, y)` is at position `x + 5y`, and bytes enter and
leave a lane least significant first. A round is θ, then ρ and π together, then χ, then ι, as in
the Keccak reference.
-/

set_option autoImplicit false

namespace PeerLending

namespace Keccak

/-- The round constants of ι, one per round. -/
def roundConstants : List UInt64 :=
  [0x0000000000000001, 0x0000000000008082, 0x800000000000808A, 0x8000000080008000,
   0x000000000000808B, 0x0000000080000001, 0x8000000080008081, 0x8000000000008009,
   0x000000000000008A, 0x0000000000000088, 0x0000000080008009, 0x000000008000000A,
   0x000000008000808B, 0x800000000000008B, 0x8000000000008089, 0x8000000000008003,
   0x8000000000008002, 0x8000000000000080, 0x000000000000800A, 0x800000008000000A,
   0x8000000080008081, 0x8000000000008080, 0x0000000080000001, 0x8000000080008008]

/-- The rotation of ρ for lane `x + 5y`. -/
def rotations : List Nat :=
  [0, 1, 62, 28, 27, 36, 44, 6, 55, 20, 3, 10, 43, 25, 39, 41, 45, 15, 21, 8, 18, 2, 61, 56, 14]

/-- A lane rotated left by `n` bits. -/
def rotl (v : UInt64) (n : Nat) : UInt64 :=
  if n % 64 = 0 then v else (v <<< (n % 64).toUInt64) ||| (v >>> (64 - n % 64).toUInt64)

/-- The lane at `(x, y)`, coordinates taken modulo five. -/
def lane (s : List UInt64) (x y : Nat) : UInt64 := s.getD (x % 5 + 5 * (y % 5)) 0

/-- The twenty-five positions of a state. -/
def positions : List Nat := List.range 25

/-- θ: each lane takes the parity of two neighbouring columns. -/
def theta (s : List UInt64) : List UInt64 :=
  let column := fun x => lane s x 0 ^^^ lane s x 1 ^^^ lane s x 2 ^^^ lane s x 3 ^^^ lane s x 4
  let d := fun x => column (x + 4) ^^^ rotl (column (x + 1)) 1
  positions.map fun i => s.getD i 0 ^^^ d (i % 5)

/-- ρ and π: lane `(x, y)` is rotated and moved to `(y, 2x + 3y)`. Read backwards, position
`(X, Y)` takes the lane from `((X + 3Y) mod 5, X)`. -/
def rhoPi (s : List UInt64) : List UInt64 :=
  positions.map fun i =>
    let bigX := i % 5
    let bigY := i / 5
    let x := (bigX + 3 * bigY) % 5
    let y := bigX
    rotl (lane s x y) (rotations.getD (x + 5 * y) 0)

/-- χ: each lane is combined with the next two of its row. -/
def chi (s : List UInt64) : List UInt64 :=
  positions.map fun i =>
    let x := i % 5
    let y := i / 5
    lane s x y ^^^ (~~~(lane s (x + 1) y) &&& lane s (x + 2) y)

/-- ι: the first lane takes the round constant. -/
def iota (rc : UInt64) (s : List UInt64) : List UInt64 :=
  match s with
  | a :: rest => (a ^^^ rc) :: rest
  | [] => []

/-- The permutation Keccak-f[1600]: twenty-four rounds. -/
def permute (s : List UInt64) : List UInt64 :=
  roundConstants.foldl (fun st rc => iota rc (chi (rhoPi (theta st)))) s

/-- The rate of Keccak-256 in bytes. -/
def rate : Nat := 136

/-- Eight bytes as a lane, least significant first. -/
def laneOfBytes (bs : List UInt8) : UInt64 :=
  bs.foldr (fun b acc => (acc <<< 8) ||| b.toUInt64) 0

/-- A lane as eight bytes, least significant first. -/
def bytesOfLane (v : UInt64) : List UInt8 :=
  (List.range 8).map fun k => (v >>> (8 * k).toUInt64).toUInt8

/-- The message padded to a whole number of blocks: `0x01`, zeros, and `0x80` in the last byte
(one byte `0x81` when only one byte is missing). -/
def pad (msg : List UInt8) : List UInt8 :=
  let missing := rate - msg.length % rate
  if missing = 1 then msg ++ [0x81]
  else msg ++ [0x01] ++ List.replicate (missing - 2) 0 ++ [0x80]

/-- The message cut into blocks of `rate` bytes; the budget is one step per block. -/
def blocks : Nat → List UInt8 → List (List UInt8)
  | 0, _ => []
  | _, [] => []
  | fuel + 1, bs => bs.take rate :: blocks fuel (bs.drop rate)

/-- One block absorbed into the state: its seventeen lanes are added in, then the state is
permuted. -/
def absorb (s : List UInt64) (block : List UInt8) : List UInt64 :=
  let lanes := (List.range (rate / 8)).map fun k => laneOfBytes ((block.drop (8 * k)).take 8)
  permute (positions.map fun i => s.getD i 0 ^^^ lanes.getD i 0)

/-- The Keccak-256 digest of a message. -/
def digest (msg : List UInt8) : List UInt8 :=
  let padded := pad msg
  let state := (blocks padded.length padded).foldl absorb (List.replicate 25 0)
  (state.take 4).flatMap bytesOfLane

end Keccak

end PeerLending
