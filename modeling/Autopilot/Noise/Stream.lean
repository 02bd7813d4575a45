/-!
# A stream of random words

`Stream` is a ChaCha generator with twelve rounds.  Its key comes from a 64-bit seed, which a
congruential generator stretches to eight words.  Every block of sixteen words has the number of the
block for its input, and `Stream.next` hands the blocks out as 64-bit words, low half first.
-/

namespace Autopilot

/-- The sixteen words that a block is computed from and on. -/
structure Block where
  (a b c d e f g h i j k l m n o p : UInt32)
deriving DecidableEq, Repr

namespace Block

/-- The word turned left by `count` bits. -/
def turnLeft (word count : UInt32) : UInt32 :=
  (word <<< count) ||| (word >>> (32 - count))

/-- Mixes four words. -/
@[inline] def mix (a b c d : UInt32) : UInt32 × UInt32 × UInt32 × UInt32 :=
  let a := a + b
  let d := turnLeft (d ^^^ a) 16
  let c := c + d
  let b := turnLeft (b ^^^ c) 12
  let a := a + b
  let d := turnLeft (d ^^^ a) 8
  let c := c + d
  let b := turnLeft (b ^^^ c) 7
  (a, b, c, d)

/-- Two rounds: one over the columns of the block and one over its diagonals. -/
def doubleRound (x : Block) : Block :=
  let (a, e, i, m) := mix x.a x.e x.i x.m
  let (b, f, j, n) := mix x.b x.f x.j x.n
  let (c, g, k, o) := mix x.c x.g x.k x.o
  let (d, h, l, p) := mix x.d x.h x.l x.p
  let (a, f, k, p) := mix a f k p
  let (b, g, l, m) := mix b g l m
  let (c, h, i, n) := mix c h i n
  let (d, e, j, o) := mix d e j o
  ⟨a, b, c, d, e, f, g, h, i, j, k, l, m, n, o, p⟩

/-- The sum of two blocks, word by word. -/
def add (x y : Block) : Block :=
  ⟨x.a + y.a, x.b + y.b, x.c + y.c, x.d + y.d, x.e + y.e, x.f + y.f, x.g + y.g, x.h + y.h,
    x.i + y.i, x.j + y.j, x.k + y.k, x.l + y.l, x.m + y.m, x.n + y.n, x.o + y.o, x.p + y.p⟩

/-- Twelve rounds, with the input added at the end. -/
def scramble (x : Block) : Block :=
  add (Nat.repeat doubleRound 6 x) x

/-- A 64-bit word from its halves. -/
def join (low high : UInt32) : UInt64 :=
  low.toUInt64 ||| (high.toUInt64 <<< 32)

/-- The block as 64-bit words. -/
def words (x : Block) : List UInt64 :=
  [join x.a x.b, join x.c x.d, join x.e x.f, join x.g x.h, join x.i x.j, join x.k x.l, join x.m x.n,
    join x.o x.p]

end Block

/-- A generator of random words. -/
structure Stream where
  /-- The input of the next block, whose number is in the words `m` and `n`. -/
  input : Block
  /-- The words of the last block that have not been handed out. -/
  pending : List UInt64
deriving DecidableEq, Repr

namespace Stream

/-- One step of the generator that stretches a seed, and the word that the step gives. -/
def stretch (seed : UInt64) : UInt64 × UInt32 :=
  let seed := seed * 6364136223846793005 + 11634580027462260723
  let mixed := (((seed >>> 18) ^^^ seed) >>> 27).toUInt32
  let turn := (seed >>> 59).toUInt32
  (seed, (mixed >>> turn) ||| (mixed <<< ((32 - turn) % 32)))

/-- The stream of a seed. -/
def ofSeed (seed : UInt64) : Stream :=
  let (seed, e) := stretch seed
  let (seed, f) := stretch seed
  let (seed, g) := stretch seed
  let (seed, h) := stretch seed
  let (seed, i) := stretch seed
  let (seed, j) := stretch seed
  let (seed, k) := stretch seed
  let (_, l) := stretch seed
  { input := ⟨0x61707865, 0x3320646E, 0x79622D32, 0x6B206574, e, f, g, h, i, j, k, l, 0, 0, 0, 0⟩
    pending := [] }

/-- The input with the number of the next block. -/
def advance (x : Block) : Block :=
  let m := x.m + 1
  { x with m, n := if m = 0 then x.n + 1 else x.n }

/-- The next word, and the stream after it. -/
def next (s : Stream) : UInt64 × Stream :=
  match s.pending with
  | word :: rest => (word, { s with pending := rest })
  | [] =>
    let block := s.input.scramble
    (Block.join block.a block.b, { input := advance s.input, pending := block.words.drop 1 })

end Stream

end Autopilot
