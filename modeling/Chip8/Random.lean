import Chip8.Word

/-!
# Random bytes

Random bytes come from a source, an endless stream together with the number of
bytes that have been taken from it. The stream of a seed is a ChaCha20 key
stream: a block of sixteen words is made from a key and a block counter by ten
double rounds; the nonce is zero. Block `k` gives the words `16 k` to
`16 k + 15` of the stream.
-/

namespace Chip8.KeyStream

abbrev Block := Vector UInt32 16

abbrev Key := Vector UInt32 8

def rotateLeft (word count : UInt32) : UInt32 := word <<< count ||| word >>> (32 - count)

/-- Mixes four words of a block. -/
def quarterRound (a b c d : Fin 16) (block : Block) : Block :=
  let block := block.set a (block[a] + block[b])
  let block := block.set d (rotateLeft (block[d] ^^^ block[a]) 16)
  let block := block.set c (block[c] + block[d])
  let block := block.set b (rotateLeft (block[b] ^^^ block[c]) 12)
  let block := block.set a (block[a] + block[b])
  let block := block.set d (rotateLeft (block[d] ^^^ block[a]) 8)
  let block := block.set c (block[c] + block[d])
  block.set b (rotateLeft (block[b] ^^^ block[c]) 7)

/-- Mixes the four columns, then the four diagonals. -/
def doubleRound (block : Block) : Block :=
  let block := quarterRound 0 4 8 12 block
  let block := quarterRound 1 5 9 13 block
  let block := quarterRound 2 6 10 14 block
  let block := quarterRound 3 7 11 15 block
  let block := quarterRound 0 5 10 15 block
  let block := quarterRound 1 6 11 12 block
  let block := quarterRound 2 7 8 13 block
  quarterRound 3 4 9 14 block

/-- The words that every block starts from before it is mixed. -/
def initial (key : Key) (counter : UInt64) : Block :=
  #v[0x61707865, 0x3320646e, 0x79622d32, 0x6b206574,
    key[0], key[1], key[2], key[3], key[4], key[5], key[6], key[7],
    counter.toUInt32, (counter >>> 32).toUInt32, 0, 0]

def block (key : Key) (counter : UInt64) : Block :=
  let start := initial key counter
  start.zipWith (· + ·) (Nat.repeat doubleRound 10 start)

/-- The word of the stream at an index. -/
def word (key : Key) (index : Nat) : UInt32 :=
  (block key (UInt64.ofNat (index / 16)))[Fin.ofNat 16 index]

/-- One step of the linear generator that spreads a seed over a key. -/
def advance (state : UInt64) : UInt64 := state * 6364136223846793005 + 11634580027462260723

/-- The key word that a state of the generator yields. -/
def output (state : UInt64) : UInt32 :=
  let mixed := (((state >>> 18) ^^^ state) >>> 27).toUInt32
  let turn := (state >>> 59).toUInt32
  mixed >>> turn ||| mixed <<< (32 - turn)

/-- The key for a seed: one word after each of eight steps. -/
def key (seed : UInt64) : Key :=
  Vector.ofFn fun index => output (Nat.repeat advance (index.val + 1) seed)

end Chip8.KeyStream

namespace Chip8

structure RandomSource where
  stream : Nat → Byte
  taken : Nat

namespace RandomSource

def ofStream (stream : Nat → Byte) : RandomSource := ⟨stream, 0⟩

/-- The low bytes of the words of the key stream that a seed selects. -/
def ofSeed (seed : UInt64) : RandomSource :=
  let key := KeyStream.key seed
  ofStream fun index => (KeyStream.word key index).toUInt8

/-- The byte that comes next. -/
def next (source : RandomSource) : Byte := source.stream source.taken

def advance (source : RandomSource) : RandomSource := { source with taken := source.taken + 1 }

end RandomSource

end Chip8
