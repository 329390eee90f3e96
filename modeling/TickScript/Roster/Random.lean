/-! # The roster's random numbers

    Random draws come from a ChaCha stream with twelve rounds, keyed from a 64-bit seed.  A
    generator is its key and the number of words drawn so far, so equal draws from equal
    generators give equal results, and what a draw returns depends on nothing else.
-/

namespace TickScript

/-- **Random generator**: the key of its stream, and how many words were drawn. -/
structure Rng where
  key : Vector UInt32 8
  drawn : Nat
  deriving DecidableEq

namespace Rng

/-! ## The stream -/

/-- Rotates to the left by less than a word. -/
def rotate (w : UInt32) (n : UInt32) : UInt32 := (w <<< n) ||| (w >>> (32 - n))

/-- The sixteen words of a block. -/
abbrev Block := Vector UInt32 16

/-- One quarter round on four words of a block. -/
def quarterRound (b : Block) (i j k l : Fin 16) : Block :=
  let a0 := b[i] + b[j]
  let d0 := rotate (b[l] ^^^ a0) 16
  let c0 := b[k] + d0
  let b0 := rotate (b[j] ^^^ c0) 12
  let a1 := a0 + b0
  let d1 := rotate (d0 ^^^ a1) 8
  let c1 := c0 + d1
  let b1 := rotate (b0 ^^^ c1) 7
  (((b.set i a1).set j b1).set k c1).set l d1

/-- One round on the columns and one on the diagonals. -/
def doubleRound (b : Block) : Block :=
  let b := quarterRound b 0 4 8 12
  let b := quarterRound b 1 5 9 13
  let b := quarterRound b 2 6 10 14
  let b := quarterRound b 3 7 11 15
  let b := quarterRound b 0 5 10 15
  let b := quarterRound b 1 6 11 12
  let b := quarterRound b 2 7 8 13
  quarterRound b 3 4 9 14

/-- The block before the rounds: four constants, the key, the block's number and two zeros. -/
def startBlock (key : Vector UInt32 8) (number : Nat) : Block :=
  #v[0x61707865, 0x3320646e, 0x79622d32, 0x6b206574,
     key[0], key[1], key[2], key[3], key[4], key[5], key[6], key[7],
     UInt32.ofNat number, UInt32.ofNat (number / UInt32.size), 0, 0]

/-- Block `number` of the stream. -/
def block (key : Vector UInt32 8) (number : Nat) : Block :=
  let start := startBlock key number
  let stirred := Nat.repeat doubleRound 6 start
  Vector.zipWith (· + ·) stirred start

/-- **The next word of the stream.** -/
def next (g : Rng) : UInt32 × Rng :=
  let b := block g.key (g.drawn / 16)
  let i : Fin 16 := ⟨g.drawn % 16, Nat.mod_lt _ (by decide)⟩
  (b[i], { g with drawn := g.drawn + 1 })

/-! ## Seeds -/

/-- The state that follows in the sequence that spreads a seed over a key. -/
def seedStep (s : UInt64) : UInt64 := s * 6364136223846793005 + 11634580027462260723

/-- The word of key that a state of the sequence gives. -/
def seedWord (s : UInt64) : UInt32 :=
  let mixed := (((s >>> 18) ^^^ s) >>> 27).toUInt32
  let turn := (s >>> 59).toUInt32
  (mixed >>> turn) ||| (mixed <<< ((32 - turn) &&& 31))

/-- **A generator from a seed.** -/
def ofSeed (seed : UInt64) : Rng :=
  { key := Vector.ofFn fun i => seedWord (Nat.repeat seedStep (i.val + 1) seed), drawn := 0 }

/-! ## Integers in a range -/

/-- **An integer in `low ..= high`**, for `low ≤ high`.  The draw is scaled to the range; its
    fraction decides whether a second draw refines it, so that every result is as likely as the
    64 bits allow. -/
def inRange (g : Rng) (low high : Int32) : Int32 × Rng :=
  let range := (high - low + 1).toUInt32.toNat
  let (word, g) := g.next
  if range = 0 then (word.toInt32, g)
  else
    let product := word.toNat * range
    let whole := product / UInt32.size
    let fraction := product % UInt32.size
    if UInt32.size - range < fraction then
      let (more, g) := g.next
      let carry := if UInt32.size ≤ fraction + more.toNat * range / UInt32.size then 1 else 0
      (low + Int32.ofNat (whole + carry), g)
    else (low + Int32.ofNat whole, g)

/-- An integer between two bounds in either order, both included. -/
def between (g : Rng) (a b : Int32) : Int32 × Rng :=
  if a ≤ b then g.inRange a b else g.inRange b a

end Rng
end TickScript
