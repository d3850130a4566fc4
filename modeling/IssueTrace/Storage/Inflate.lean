/-!
# Compressed data

Reading of data that was compressed by the deflate method. The data are a stream of bits, the lowest
bit of a byte first. They come in blocks: bytes as they are, or symbols in a code of variable length,
each a byte or a stretch of what was read before.
-/

namespace IssueTrace.Inflate

/-- A place in a stream of bits. -/
structure Reader where
  data : ByteArray
  /-- How many bits have been read. -/
  place : Nat

namespace Reader

def bit? (r : Reader) : Option (Nat × Reader) :=
  if h : r.place / 8 < r.data.size then
    let byte := r.data[r.place / 8].toNat
    some ((byte >>> (r.place % 8)) % 2, { r with place := r.place + 1 })
  else none

/-- A number of bits, the lowest one first. -/
def bits? : Nat → Reader → Option (Nat × Reader)
  | 0, r => some (0, r)
  | n + 1, r => do
      let (low, r) ← r.bit?
      let (high, r) ← bits? n r
      return (low + 2 * high, r)

/-- The place at the next full byte. -/
def atByte (r : Reader) : Reader := { r with place := (r.place + 7) / 8 * 8 }

end Reader

/-- A code in which shorter words come first, and words of one length in the order of their symbols:
how many words have each length, and the symbols in the order of their words. -/
structure Code where
  counts : Array Nat
  symbols : Array Nat

namespace Code

/-- The longest word of a code. -/
def maxLength : Nat := 15

/-- The code in which each symbol has a word of the given length; a symbol of length zero has none. -/
def ofLengths (lengths : List Nat) : Code :=
  let indexed := lengths.zipIdx
  let ofLength := fun n => (indexed.filter (·.1 == n)).map (·.2)
  let groups := (List.range (maxLength + 1)).map fun n => if n = 0 then [] else ofLength n
  ⟨(groups.map List.length).toArray, groups.flatten.toArray⟩

/-- Reads a word. The arguments tell how many lengths are left, the length reached, the word so far,
the first word of this length, and the number of its symbol. -/
def readFrom (c : Code) : Nat → Nat → Nat → Nat → Nat → Reader → Option (Nat × Reader)
  | 0, _, _, _, _, _ => none
  | left + 1, length, word, first, number, r => do
      let (b, r) ← r.bit?
      let word := 2 * word + b
      let first := 2 * first
      let count := c.counts.getD length 0
      if word < first + count then
        let symbol ← c.symbols[number + (word - first)]?
        return (symbol, r)
      else c.readFrom left (length + 1) word (first + count) (number + count) r

def read? (c : Code) (r : Reader) : Option (Nat × Reader) := c.readFrom maxLength 1 0 0 0 r

end Code

/-- The shortest stretches that the symbols for stretches stand for, with how many bits are added. -/
def lengthTable : Array (Nat × Nat) :=
  #[(3, 0), (4, 0), (5, 0), (6, 0), (7, 0), (8, 0), (9, 0), (10, 0), (11, 1), (13, 1), (15, 1),
    (17, 1), (19, 2), (23, 2), (27, 2), (31, 2), (35, 3), (43, 3), (51, 3), (59, 3), (67, 4),
    (83, 4), (99, 4), (115, 4), (131, 5), (163, 5), (195, 5), (227, 5), (258, 0)]

/-- The least distances that the symbols for distances stand for, with how many bits are added. -/
def distanceTable : Array (Nat × Nat) :=
  #[(1, 0), (2, 0), (3, 0), (4, 0), (5, 1), (7, 1), (9, 2), (13, 2), (17, 3), (25, 3), (33, 4),
    (49, 4), (65, 5), (97, 5), (129, 6), (193, 6), (257, 7), (385, 7), (513, 8), (769, 8),
    (1025, 9), (1537, 9), (2049, 10), (3073, 10), (4097, 11), (6145, 11), (8193, 12), (12289, 12),
    (16385, 13), (24577, 13)]

/-- The order in which the lengths of the code for lengths are given. -/
def lengthOrder : List Nat := [16, 17, 18, 0, 8, 7, 9, 6, 10, 5, 11, 4, 12, 3, 13, 2, 14, 1, 15]

/-- Repeats a stretch of what was read before. -/
def copyBack (distance : Nat) : Nat → ByteArray → ByteArray
  | 0, out => out
  | n + 1, out => copyBack distance n (out.push (out.get! (out.size - distance)))

/-- A number that a symbol stands for, with the bits that are added. -/
def tabled? (table : Array (Nat × Nat)) (symbol : Nat) (r : Reader) : Option (Nat × Reader) := do
  let (base, extra) ← table[symbol]?
  let (more, r) ← r.bits? extra
  return (base + more, r)

/-- Reads symbols up to the end of a block. -/
def readSymbols (lengths distances : Code) : Nat → ByteArray → Reader → Option (ByteArray × Reader)
  | 0, _, _ => none
  | fuel + 1, out, r => do
      let (symbol, r) ← lengths.read? r
      if symbol < 256 then readSymbols lengths distances fuel (out.push symbol.toUInt8) r
      else if symbol = 256 then return (out, r)
      else
        let (length, r) ← tabled? lengthTable (symbol - 257) r
        let (code, r) ← distances.read? r
        let (distance, r) ← tabled? distanceTable code r
        if out.size < distance then none
        else readSymbols lengths distances fuel (copyBack distance length out) r

/-- Reads the lengths of the words of two codes, some of them given as repetitions. -/
def readLengths (code : Code) (total : Nat) :
    Nat → Array Nat → Reader → Option (Array Nat × Reader)
  | 0, _, _ => none
  | fuel + 1, lengths, r => do
      if total ≤ lengths.size then return (lengths, r)
      else
        let (symbol, r) ← code.read? r
        if symbol < 16 then readLengths code total fuel (lengths.push symbol) r
        else
          let (value, base, extra) :=
            if symbol = 16 then (lengths.back?.getD 0, 3, 2)
            else if symbol = 17 then (0, 3, 3)
            else (0, 11, 7)
          let (more, r) ← r.bits? extra
          readLengths code total fuel (lengths ++ Array.replicate (base + more) value) r

/-- The codes of a block that brings none. -/
def fixedCodes : Code × Code :=
  (Code.ofLengths (List.replicate 144 8 ++ List.replicate 112 9 ++ List.replicate 24 7
      ++ List.replicate 8 8),
    Code.ofLengths (List.replicate 30 5))

def readCodes (r : Reader) : Option ((Code × Code) × Reader) := do
  let (literals, r) ← r.bits? 5
  let (distances, r) ← r.bits? 5
  let (given, r) ← r.bits? 4
  let (lengths, r) ← (lengthOrder.take (given + 4)).foldlM
    (fun (lengths, r) symbol => do
      let (n, r) ← r.bits? 3
      return (lengths.setIfInBounds symbol n, r))
    (Array.replicate 19 0, r)
  let total := literals + 257 + (distances + 1)
  let (all, r) ← readLengths (Code.ofLengths lengths.toList) total (total + 1) #[] r
  let all := all.toList
  return ((Code.ofLengths (all.take (literals + 257)),
    Code.ofLengths ((all.take total).drop (literals + 257))), r)

/-- Reads a block of bytes as they are. -/
def readPlain (out : ByteArray) (r : Reader) : Option (ByteArray × Reader) := do
  let (length, r) ← r.atByte.bits? 16
  let (_, r) ← r.bits? 16
  let start := r.place / 8
  if r.data.size < start + length then none
  else
    return (out ++ r.data.extract start (start + length), { r with place := 8 * (start + length) })

def readBlocks : Nat → ByteArray → Reader → Option ByteArray
  | 0, _, _ => none
  | fuel + 1, out, r => do
      let (last, r) ← r.bit?
      let (type, r) ← r.bits? 2
      let symbols := 8 * r.data.size + 1
      let (out, r) ←
        if type = 0 then readPlain out r
        else if type = 1 then readSymbols fixedCodes.1 fixedCodes.2 symbols out r
        else if type = 2 then do
          let (codes, r) ← readCodes r
          readSymbols codes.1 codes.2 symbols out r
        else none
      if last = 1 then return out else readBlocks fuel out r

/-- The data whose compressed form begins at a byte, behind a head of two bytes. -/
def inflate? (data : ByteArray) (start : Nat) : Option ByteArray := do
  let method ← data[start]?
  if method.toNat % 16 != 8 then none
  else readBlocks (8 * data.size + 1) .empty ⟨data, 8 * (start + 2)⟩

end IssueTrace.Inflate
