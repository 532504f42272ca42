import ChainProfile.Proofs.Wire.Reader
import ChainProfile.Script

/-! Pushed data and bare opcodes, read back. The first byte of a script is an opcode or says how long
the data is that follows, by itself or with a word after it, so the length form can be told from
what comes next. Of all forms that are read as the same token the one that is written is the
shortest. A word of four bytes keeps a length modulo `2 ^ 32`. -/

namespace ChainProfile.Script

theorem length_pushHeader (n : Nat) :
    (pushHeader n).length =
      if n ≤ 75 then 1 else if n ≤ 0xff then 2 else if n ≤ 0xffff then 3 else 5 := by
  unfold pushHeader
  split
  · rfl
  split
  · simp
  split <;> simp

def readLength (first : UInt8) : Reader Nat :=
  if first.toNat ≤ 75 then pure first.toNat
  else if first = 0x4c then Reader.word 1
  else if first = 0x4d then Reader.word 2
  else Reader.word 4

inductive Token
  | opcode (code : UInt8)
  | data (bytes : Bytes)
  deriving DecidableEq, Repr

namespace Token

def readAfter (first : UInt8) : Reader Token :=
  if first.toNat ≤ 0x4e then do
    let size ← readLength first
    data <$> Reader.bytes size
  else pure (opcode first)

def read : Reader Token := Reader.u8 >>= readAfter

def bytes : Token → Bytes
  | opcode code => [code]
  | data bs => push bs

/-- The opcode starts no push, and the length of the data fits the longest form. -/
def Readable : Token → Prop
  | opcode code => 0x4e < code.toNat
  | data bs => bs.length < 2 ^ 32

end Token

theorem exists_pushHeader (n : Nat) :
    ∃ first more, pushHeader n = first :: more ∧ first.toNat ≤ 0x4e ∧
      (readLength first).Reads more (n % 2 ^ 32) := by
  have low (fits : n < 2 ^ 32) : n % 2 ^ 32 = n := Nat.mod_eq_of_lt fits
  unfold pushHeader
  split
  · rename_i short
    have byte : n < 256 := by omega
    have own : (UInt8.ofNat n).toNat = n := UInt8.toNat_ofNat_of_lt' byte
    refine ⟨_, [], rfl, by omega, ?_⟩
    rw [readLength, own, if_pos short, low (by omega)]
    exact .pure n
  split
  · refine ⟨_, _, rfl, by decide, ?_⟩
    rw [low (by omega)]
    exact Reader.word_reads_le 1 (by omega)
  split
  · refine ⟨_, _, rfl, by decide, ?_⟩
    rw [low (by omega)]
    exact Reader.word_reads_le 2 (by omega)
  · have reads := Reader.word_reads (Bytes.length_le 4 n)
    rw [Bytes.value_le] at reads
    exact ⟨_, _, rfl, by decide, reads⟩

theorem pushHeader_append_inj {m n : Nat} {x y : Bytes}
    (same : pushHeader m ++ x = pushHeader n ++ y) : x = y := by
  obtain ⟨first, more, form, _, reads⟩ := exists_pushHeader m
  obtain ⟨first', more', form', _, reads'⟩ := exists_pushHeader n
  rw [form, form'] at same
  obtain ⟨rfl, rest⟩ := List.cons.inj same
  exact (reads.inj reads' rest).2

theorem push_inj {bs cs : Bytes} (same : push bs = push cs) : bs = cs :=
  pushHeader_append_inj same

theorem length_pushHeader_of_readLength {first : UInt8} {bs rest : Bytes} {size : Nat}
    (taken : (readLength first).run bs = some (size, rest)) :
    (pushHeader size).length + rest.length ≤ 1 + bs.length := by
  have width := length_pushHeader size
  unfold readLength at taken
  split at taken
  · rename_i short
    cases taken
    rw [if_pos short] at width
    omega
  split at taken
  · obtain ⟨length, bound⟩ := Reader.word_eq_some taken
    grind
  split at taken
  · obtain ⟨length, bound⟩ := Reader.word_eq_some taken
    grind
  · obtain ⟨length, bound⟩ := Reader.word_eq_some taken
    grind

namespace Token

theorem bytes_ne_nil (t : Token) : t.bytes ≠ [] := by
  cases t with
  | opcode code => exact List.cons_ne_nil _ _
  | data bs =>
    obtain ⟨first, more, form, _⟩ := exists_pushHeader bs.length
    rw [bytes, push, form]
    exact List.cons_ne_nil _ _

theorem run_read_cons (first : UInt8) (after : Bytes) :
    read.run (first :: after) = (readAfter first).run after := by
  rw [read, StateT.run_bind]
  have head : Reader.u8.run (first :: after) = some (first, after) := Reader.u8_reads first after
  rw [head]
  rfl

theorem push_reads {bs : Bytes} (fits : bs.length < 2 ^ 32) : read.Reads (push bs) (data bs) := by
  obtain ⟨first, more, form, pushes, reads⟩ := exists_pushHeader bs.length
  rw [Nat.mod_eq_of_lt fits] at reads
  have after : (readAfter first).Reads (more ++ bs) (data bs) := by
    rw [readAfter, if_pos pushes]
    exact reads.bind ((Reader.bytes_reads rfl).map data)
  rw [push, form]
  exact (Reader.u8_reads first).bind after

theorem bytes_reads {t : Token} (readable : t.Readable) : read.Reads t.bytes t := by
  cases t with
  | opcode code =>
    have after : (readAfter code).Reads [] (opcode code) := by
      rw [readAfter, if_neg (Nat.not_le_of_lt readable)]
      exact .pure _
    exact (Reader.u8_reads code).bind after
  | data bs => exact push_reads readable

theorem length_bytes_of_read {t : Token} {bs rest : Bytes} (taken : read.run bs = some (t, rest)) :
    t.bytes.length + rest.length ≤ bs.length := by
  cases bs with
  | nil => cases taken
  | cons first after =>
    rw [run_read_cons, readAfter] at taken
    split at taken
    · rw [StateT.run_bind] at taken
      obtain ⟨⟨size, more⟩, sized, pushed⟩ := Option.bind_eq_some_iff.mp taken
      obtain ⟨x, rfl, filled⟩ := Reader.map_eq_some pushed
      obtain ⟨rfl, rfl⟩ := Reader.bytes_eq_some filled
      have header := length_pushHeader_of_readLength sized
      simp only [bytes, push, List.length_append, List.length_cons] at header ⊢
      omega
    · cases taken
      simp only [bytes, List.length_cons, List.length_nil]
      omega

end Token

end ChainProfile.Script
