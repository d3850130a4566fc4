import Std.Data.HashMap
import IssueTrace.History.Objects.Stored

/-!
# Packs

Many objects in one file, with an index that tells where each begins. An object in a pack may be
given by its difference to another one: what to copy from that, and what to insert.
-/

namespace IssueTrace.History.Objects

/-- A pack: where its objects begin, and its bytes. -/
structure Pack where
  offsets : Std.HashMap CommitId Nat
  data : ByteArray

instance : Inhabited Pack := ⟨⟨∅, .empty⟩⟩

/-- The number in some bytes at an offset, the highest byte first. -/
def numberAt (data : ByteArray) (offset width : Nat) : Nat :=
  (data.extract offset (offset + width)).foldl (fun n b => 256 * n + b.toNat) 0

/-- The offsets in an index of the second version: after a table of counts the ids, their checks,
their offsets, and the offsets that take more room. -/
def offsetsOf (index : ByteArray) : Std.HashMap CommitId Nat :=
  let count := numberAt index (8 + 255 * 4) 4
  let ids := 8 + 256 * 4
  let short := ids + 24 * count
  let long := short + 4 * count
  (List.range count).foldl
    (fun m k =>
      let n := numberAt index (short + 4 * k) 4
      let offset := if n < 0x80000000 then n else numberAt index (long + 8 * (n - 0x80000000)) 8
      m.insert (idAt index (ids + 20 * k)) offset)
    ∅

/-- A number in as many bytes as it needs, seven bits in each, the lowest ones first, with the offset
after it. -/
def readSize (data : ByteArray) : Nat → Nat → Nat → Nat → Nat × Nat
  | 0, offset, _, n => (n, offset)
  | fuel + 1, offset, shift, n =>
      let b := (data.get! offset).toNat
      let n := n + ((b % 128) <<< shift)
      if b < 128 then (n, offset + 1) else readSize data fuel (offset + 1) (shift + 7) n

/-- The distance to the object that a difference is to, with the offset after it. -/
def readDistance (data : ByteArray) : Nat → Nat → Nat → Nat × Nat
  | 0, offset, n => (n, offset)
  | fuel + 1, offset, n =>
      let b := (data.get! offset).toNat
      let n := 128 * n + b % 128
      if b < 128 then (n, offset + 1) else readDistance data fuel (offset + 1) (n + 1)

/-- A number of which only the bytes with a set bit are given, the lowest byte first. -/
def readSparse (delta : ByteArray) : List Nat → Nat → Nat → Nat → Nat × Nat
  | [], _, offset, n => (n, offset)
  | k :: ks, flags, offset, n =>
      if flags.testBit 0 then
        readSparse delta ks (flags / 2) (offset + 1) (n + ((delta.get! offset).toNat <<< (8 * k)))
      else readSparse delta ks (flags / 2) offset n

/-- Follows the steps of a difference. -/
def applySteps (base delta : ByteArray) : Nat → Nat → ByteArray → ByteArray
  | 0, _, out => out
  | fuel + 1, offset, out =>
      if delta.size ≤ offset then out
      else
        let step := (delta.get! offset).toNat
        if step < 128 then
          applySteps base delta fuel (offset + 1 + step)
            (out ++ delta.extract (offset + 1) (offset + 1 + step))
        else
          let (start, next) := readSparse delta [0, 1, 2, 3] step (offset + 1) 0
          let (size, next) := readSparse delta [0, 1, 2] (step / 16) next 0
          let size := if size = 0 then 0x10000 else size
          applySteps base delta fuel next (out ++ base.extract start (start + size))

/-- What a difference makes of an object. -/
def applyDelta (base delta : ByteArray) : ByteArray :=
  let (_, offset) := readSize delta 10 0 0 0
  let (_, offset) := readSize delta 10 offset 0 0
  applySteps base delta delta.size offset .empty

/-- What an object in a pack is given by. -/
inductive Packed where
  | whole (type : StoredType) (start : Nat)
  /-- The difference to an object in the same pack. -/
  | atOffset (base start : Nat)
  /-- The difference to an object of an id. -/
  | ofId (base : CommitId) (start : Nat)

def Pack.head? (p : Pack) (offset : Nat) : Option Packed :=
  let type := (p.data.get! offset).toNat / 16 % 8
  let (_, start) := readSize p.data 10 offset 0 0
  if type = 1 then some (.whole .commit start)
  else if type = 2 then some (.whole .directory start)
  else if type = 3 then some (.whole .file start)
  else if type = 4 then some (.whole .note start)
  else if type = 6 then
    let (distance, start) := readDistance p.data 10 start 0
    some (.atOffset (offset - distance) start)
  else if type = 7 then some (.ofId (idAt p.data start) (start + 20))
  else none

/-- The object that begins at an offset. -/
def Pack.objectAt (p : Pack) : Nat → Nat → Option Stored
  | 0, _ => none
  | fuel + 1, offset => do
      match ← p.head? offset with
      | .whole type start => return ⟨type, ← Inflate.inflate? p.data start⟩
      | .atOffset base start =>
          let base ← p.objectAt fuel base
          return { base with bytes := applyDelta base.bytes (← Inflate.inflate? p.data start) }
      | .ofId base start =>
          let base ← p.objectAt fuel (← p.offsets[base]?)
          return { base with bytes := applyDelta base.bytes (← Inflate.inflate? p.data start) }

def Pack.find? (p : Pack) (id : CommitId) : Option Stored := do
  p.objectAt (p.offsets.size + 1) (← p.offsets[id]?)

end IssueTrace.History.Objects
