/-
The hash function BLAKE2b, without a key.

A message is cut into blocks of 128 bytes, the last one filled up with zeros; every block
is mixed into a state of eight words in twelve rounds.
-/

namespace PooledQuery.Blake2b

abbrev State := Vector UInt64 8

/-- The sixteen words that a round works on, or that a block consists of. -/
abbrev Words := Vector UInt64 16

def initial : State :=
  #v[0x6A09E667F3BCC908, 0xBB67AE8584CAA73B, 0x3C6EF372FE94F82B, 0xA54FF53A5F1D36F1,
    0x510E527FADE682D1, 0x9B05688C2B3E6C1F, 0x1F83D9ABFB41BD6B, 0x5BE0CD19137E2179]

def schedule : List (Vector (Fin 16) 16) := [
  #v[0, 1, 2, 3, 4, 5, 6, 7, 8, 9, 10, 11, 12, 13, 14, 15],
  #v[14, 10, 4, 8, 9, 15, 13, 6, 1, 12, 0, 2, 11, 7, 5, 3],
  #v[11, 8, 12, 0, 5, 2, 15, 13, 10, 14, 3, 6, 7, 1, 9, 4],
  #v[7, 9, 3, 1, 13, 12, 11, 14, 2, 6, 5, 10, 4, 0, 15, 8],
  #v[9, 0, 5, 7, 2, 4, 10, 15, 14, 1, 11, 12, 6, 8, 3, 13],
  #v[2, 12, 6, 10, 0, 11, 8, 3, 4, 13, 7, 5, 15, 14, 1, 9],
  #v[12, 5, 1, 15, 14, 13, 4, 10, 0, 7, 6, 3, 9, 2, 8, 11],
  #v[13, 11, 7, 14, 12, 1, 3, 9, 5, 0, 15, 4, 8, 6, 2, 10],
  #v[6, 15, 14, 9, 11, 3, 0, 8, 12, 2, 13, 7, 1, 4, 10, 5],
  #v[10, 2, 8, 4, 7, 6, 1, 5, 15, 11, 9, 14, 3, 12, 13, 0],
  #v[0, 1, 2, 3, 4, 5, 6, 7, 8, 9, 10, 11, 12, 13, 14, 15],
  #v[14, 10, 4, 8, 9, 15, 13, 6, 1, 12, 0, 2, 11, 7, 5, 3]]

def lanes : List (Fin 16 × Fin 16 × Fin 16 × Fin 16) := [
  (0, 4, 8, 12), (1, 5, 9, 13), (2, 6, 10, 14), (3, 7, 11, 15),
  (0, 5, 10, 15), (1, 6, 11, 12), (2, 7, 8, 13), (3, 4, 9, 14)]

def rotated (word : UInt64) (amount : UInt64) : UInt64 :=
  (word >>> amount) ||| (word <<< (64 - amount))

def mix (words : Words) (lane : Fin 16 × Fin 16 × Fin 16 × Fin 16) (x y : UInt64) : Words :=
  let (a, b, c, d) := lane
  let words := words.set a (words[a] + words[b] + x)
  let words := words.set d (rotated (words[d] ^^^ words[a]) 32)
  let words := words.set c (words[c] + words[d])
  let words := words.set b (rotated (words[b] ^^^ words[c]) 24)
  let words := words.set a (words[a] + words[b] + y)
  let words := words.set d (rotated (words[d] ^^^ words[a]) 16)
  let words := words.set c (words[c] + words[d])
  words.set b (rotated (words[b] ^^^ words[c]) 63)

def round (block : Words) (words : Words) (order : Vector (Fin 16) 16) : Words :=
  let indices : List (Fin 16 × Fin 16) :=
    [(0, 1), (2, 3), (4, 5), (6, 7), (8, 9), (10, 11), (12, 13), (14, 15)]
  (lanes.zip indices).foldl
    (fun words (lane, first, second) => mix words lane block[order[first]] block[order[second]])
    words

/-- Mixes a block into a state; `count` is the number of message bytes up to its end. -/
def compress (state : State) (block : Words) (count : Nat) (isLast : Bool) : State :=
  let words : Words := state ++ initial
  let words := words.set 12 (words[12] ^^^ UInt64.ofNat (count % Nat.pow 2 64))
  let words := words.set 13 (words[13] ^^^ UInt64.ofNat (count / Nat.pow 2 64))
  let words := if isLast then words.set 14 (words[14] ^^^ 0xFFFFFFFFFFFFFFFF) else words
  let words := schedule.foldl (round block) words
  Vector.ofFn fun i : Fin 8 => state[i] ^^^ words[i.val] ^^^ words[i.val + 8]

def wordOfBytes (bytes : List UInt8) : UInt64 :=
  bytes.foldr (fun byte word => word * 256 + byte.toUInt64) 0

def bytesOfWord (word : UInt64) : List UInt8 :=
  (List.range 8).map fun index => (word >>> UInt64.ofNat (8 * index)).toUInt8

def wordsOfBlock (block : List UInt8) : Words :=
  Vector.ofFn fun i => wordOfBytes ((block.drop (8 * i.val)).take 8)

/-- Mixes the blocks of a message into a state, at most `blocks` of them. -/
def absorb (state : State) (count : Nat) : (blocks : Nat) → List UInt8 → State
  | 0, _ => state
  | blocks + 1, bytes =>
      match bytes.drop 128 with
      | [] => compress state (wordsOfBlock bytes) (count + bytes.length) true
      | rest =>
          absorb (compress state (wordsOfBlock (bytes.take 128)) (count + 128) false)
            (count + 128) blocks rest

/-- The first `size` bytes of the hash of a message; the size enters the hash. -/
def digest (size : Nat) (message : List UInt8) : List UInt8 :=
  let start := initial.set 0 (initial[0] ^^^ 0x01010000 ^^^ UInt64.ofNat size)
  ((absorb start 0 (message.length / 128 + 1) message).toList.flatMap bytesOfWord).take size

end PooledQuery.Blake2b
