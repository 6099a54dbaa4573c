import StateCheck.Random.Source

/-!
The Mersenne Twister with 624 words of state, seeded by an array of words.
-/

namespace StateCheck

structure MersenneTwister where
  words : Vector UInt32 624
  used : Nat

namespace MersenneTwister

def size : Nat := 624

def blend (factor : UInt32) (words : Vector UInt32 624) (i : Nat) : UInt32 :=
  let before := words[(i + 623) % 624]
  words[i % 624] ^^^ ((before ^^^ (before >>> 30)) * factor)

def fillWord (words : Vector UInt32 624) (i : Nat) : Vector UInt32 624 :=
  let before := words[(i + 623) % 624]
  words.set (i % 624) ((before ^^^ (before >>> 30)) * 1812433253 + i.toUInt32)

def ofWord (seed : UInt32) : Vector UInt32 624 :=
  Nat.fold 623 (fun k _ words => fillWord words (k + 1)) (Vector.replicate 624 seed)

/-- Position 0 repeats the last word once a round is over. -/
def advance (words : Vector UInt32 624) (i : Nat) : Vector UInt32 624 × Nat :=
  if i + 1 ≥ size then (words.set 0 words[623], 1) else (words, i + 1)

def mixKeyWord (key : Array UInt32) (k : Nat) : Vector UInt32 624 × Nat → Vector UInt32 624 × Nat
  | (words, i) =>
    let j := k % key.size
    let w := blend 1664525 words i + key.getD j 0 + j.toUInt32
    advance (words.set (i % 624) w) i

def mixKey (key : Array UInt32) (words : Vector UInt32 624) : Vector UInt32 624 × Nat :=
  Nat.fold (max size key.size) (fun k _ s => mixKeyWord key k s) (words, 1)

def mixPosition : Vector UInt32 624 × Nat → Vector UInt32 624 × Nat
  | (words, i) => advance (words.set (i % 624) (blend 1566083941 words i - i.toUInt32)) i

def mixPositions (words : Vector UInt32 624) (start : Nat) : Vector UInt32 624 :=
  (Nat.fold 623 (fun _ _ s => mixPosition s) (words, start)).1

def ofKey (key : Array UInt32) : MersenneTwister :=
  let mixed := mixKey key (ofWord 19650218)
  ⟨(mixPositions mixed.1 mixed.2).set 0 0x80000000, size⟩

def digits (n : Nat) : Array UInt32 :=
  ((List.range (n.log2 / 32 + 1)).map fun i => (n >>> (32 * i)).toUInt32).toArray

def ofSeed (seed : Int) : MersenneTwister := ofKey (digits seed.natAbs)

def twistWord (words : Vector UInt32 624) (i : Nat) : Vector UInt32 624 :=
  let y := (words[i % 624] &&& 0x80000000) ||| (words[(i + 1) % 624] &&& 0x7fffffff)
  let w := words[(i + 397) % 624] ^^^ (y >>> 1) ^^^ (if y &&& 1 = 0 then 0 else 0x9908b0df)
  words.set (i % 624) w

def twist (words : Vector UInt32 624) : Vector UInt32 624 :=
  Nat.fold 624 (fun i _ words => twistWord words i) words

def temper (y : UInt32) : UInt32 :=
  let y := y ^^^ (y >>> 11)
  let y := y ^^^ ((y <<< 7) &&& 0x9d2c5680)
  let y := y ^^^ ((y <<< 15) &&& 0xefc60000)
  y ^^^ (y >>> 18)

def next (m : MersenneTwister) : UInt32 × MersenneTwister :=
  let m := if m.used ≥ size then ⟨twist m.words, 0⟩ else m
  (temper m.words[m.used % 624], { m with used := m.used + 1 })

instance : WordSource MersenneTwister := ⟨next⟩

end MersenneTwister
end StateCheck
