import BuildingWorkflow.Number.Binary64

/-!
Sources of random numbers, and the generator that analyses draw from.

`RandomSource` is what an analysis needs of a source. `Twister` is the generator with a period of
`2 ^ 19937 - 1` on 624 words of 32 bits, which turns a seed into the same numbers everywhere.
-/
namespace BuildingWorkflow

/-- A source of random numbers with states of some type. -/
structure RandomSource (σ : Type) where
  /-- A natural number below a positive bound. -/
  index : Nat → σ → Nat × σ
  /-- A number from zero to one, one excluded. -/
  fraction : σ → Binary64 × σ

namespace Twister

/-- The number of words of state. -/
def size : Nat := 624

/-- The words of state and the position of the next one to be drawn. -/
structure State where
  words : Array UInt32
  position : Nat

def word (words : Array UInt32) (i : Nat) : UInt32 := words.getD i 0

/-- A word mixed with its high bits. -/
def mixed (w : UInt32) : UInt32 := w ^^^ (w >>> 30)

/-- The state that a single word stands for. -/
def ofWord (seed : UInt32) : Array UInt32 :=
  (List.range (size - 1)).foldl (fun words i =>
    words.push (1812433253 * mixed (word words i) + UInt32.ofNat (i + 1))) #[seed]

/-- Writes a word of the state. The first word is kept equal to the last one when that is written,
and the next position follows. -/
def writeWord (words : Array UInt32) (i : Nat) (w : UInt32) : Array UInt32 × Nat :=
  let words := words.setIfInBounds i w
  if i + 1 < size then (words, i + 1) else (words.setIfInBounds 0 w, 1)

/-- Stirs a key into the state, position after position. -/
def stirKey (key : Array UInt32) : Nat → Nat → Array UInt32 × Nat → Array UInt32 × Nat
  | 0, _, state => state
  | n + 1, j, (words, i) =>
      let stirred := word words i ^^^ (mixed (word words (i - 1)) * 1664525)
      let w := stirred + word key j + UInt32.ofNat j
      stirKey key n (if j + 1 < key.size then j + 1 else 0) (writeWord words i w)

def stir : Nat → Array UInt32 × Nat → Array UInt32 × Nat
  | 0, state => state
  | n + 1, (words, i) =>
      let w := (word words i ^^^ (mixed (word words (i - 1)) * 1566083941)) - UInt32.ofNat i
      stir n (writeWord words i w)

/-- The words of a natural number, the lowest first; zero has one. -/
def keyWords (n : Nat) : Array UInt32 :=
  (Array.range (n.log2 / 32 + 1)).map fun i => UInt32.ofNat (n >>> (32 * i))

/-- The state of a seed, whose sign does not count. -/
def ofSeed (seed : Int) : State :=
  let key := keyWords seed.natAbs
  let (words, i) := stirKey key (max size key.size) 0 (ofWord 19650218, 1)
  let (words, _) := stir (size - 1) (words, i)
  ⟨words.setIfInBounds 0 0x80000000, size⟩

/-- All words replaced by new ones. -/
def renew (words : Array UInt32) : Array UInt32 :=
  (List.range size).foldl (fun words i =>
    let y := (word words i &&& 0x80000000) ||| (word words ((i + 1) % size) &&& 0x7fffffff)
    let odd : UInt32 := if y &&& 1 = 1 then 0x9908b0df else 0
    words.setIfInBounds i (word words ((i + 397) % size) ^^^ (y >>> 1) ^^^ odd)) words

/-- Spreads the bits of a word. -/
def temper (w : UInt32) : UInt32 :=
  let w := w ^^^ (w >>> 11)
  let w := w ^^^ ((w <<< 7) &&& 0x9d2c5680)
  let w := w ^^^ ((w <<< 15) &&& 0xefc60000)
  w ^^^ (w >>> 18)

/-- The next word. -/
def next (s : State) : UInt32 × State :=
  let s := if s.position < size then s else ⟨renew s.words, 0⟩
  (temper (word s.words s.position), { s with position := s.position + 1 })

/-- The high bits of words, as many as the bound has, until they are below the bound. After a number
of draws that never occurs the search ends at zero. -/
def drawBelow (bound : Nat) : Nat → State → Nat × State
  | 0, s => (0, s)
  | n + 1, s =>
      let (w, s) := next s
      let drawn := w.toNat >>> (31 - bound.log2)
      if drawn < bound then (drawn, s) else drawBelow bound n s

/-- A fraction with 53 bits, from two words. -/
def drawFraction (s : State) : Binary64 × State :=
  let (a, s) := next s
  let (b, s) := next s
  let bits := ((a.toNat >>> 5) <<< 26) + (b.toNat >>> 6)
  (.ofQuotient false (bits * unitsPerOne) (1 <<< 53), s)

end Twister

/-- The generator as a source. -/
def twister : RandomSource Twister.State where
  index bound := Twister.drawBelow bound 4096
  fraction := Twister.drawFraction

end BuildingWorkflow
