import ChainProfile.Bytes

/-! Counts in front of lists and byte strings. A count takes one, three, five or nine bytes: below
`0xfd` it is its own byte, above that a marker byte announces a word of two, four or eight bytes,
and the shortest form is written. -/

namespace ChainProfile.CompactSize

def encode (n : UInt64) : Bytes :=
  if n < 0xfd then [n.toUInt8]
  else if n < 0x10000 then 0xfd :: Bytes.le 2 n.toNat
  else if n < 0x100000000 then 0xfe :: Bytes.le 4 n.toNat
  else 0xff :: Bytes.u64 n

theorem length_encode (n : UInt64) :
    (encode n).length =
      if n < 0xfd then 1 else if n < 0x10000 then 3 else if n < 0x100000000 then 5 else 9 := by
  unfold encode
  split
  · rfl
  · split
    · simp
    · split <;> simp

def counted {α : Type} (member : α → Bytes) (xs : List α) : Bytes :=
  encode (UInt64.ofNat xs.length) ++ xs.flatMap member

def sized (bs : Bytes) : Bytes := encode (UInt64.ofNat bs.length) ++ bs

end ChainProfile.CompactSize
