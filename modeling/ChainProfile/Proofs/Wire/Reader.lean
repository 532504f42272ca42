import ChainProfile.Proofs.LittleEndian

/-! Readers of byte strings. A reader takes a value off the front and leaves the rest. `Reads` says
that it takes exactly those bytes, whatever follows them; readers of parts chain to a reader of the
whole, and a form that is read so determines both the value and where the form ends. -/

namespace ChainProfile

/-- The value and what follows it, unless the bytes run out. -/
abbrev Reader := StateT Bytes Option

namespace Reader

variable {α β : Type}

def bytes (size : Nat) : Reader Bytes := fun bs =>
  if size ≤ bs.length then some (bs.take size, bs.drop size) else none

def word (width : Nat) : Reader Nat := Bytes.value <$> bytes width

def u8 : Reader UInt8 := UInt8.ofNat <$> word 1

def u32 : Reader UInt32 := UInt32.ofNat <$> word 4

def u64 : Reader UInt64 := UInt64.ofNat <$> word 8

def i32 : Reader Int32 := UInt32.toInt32 <$> u32

def i64 : Reader Int64 := UInt64.toInt64 <$> u64

def hash : Reader Hash256 := Hash256.ofNat <$> word 32

def many (member : Reader α) : Nat → Reader (List α)
  | 0 => pure []
  | n + 1 => List.cons <$> member <*> many member n

/-- The reader takes exactly these bytes off the front, and they stand for `a`. -/
def Reads (read : Reader α) (bs : Bytes) (a : α) : Prop :=
  ∀ rest, read.run (bs ++ rest) = some (a, rest)

namespace Reads

variable {read : Reader α} {bs cs x y : Bytes} {a b : α}

theorem inj (first : read.Reads bs a) (second : read.Reads cs b) (same : bs ++ x = cs ++ y) :
    a = b ∧ x = y := by
  have onward := first x
  rw [same, second y] at onward
  cases onward
  exact ⟨rfl, rfl⟩

theorem pure (a : α) : (pure a : Reader α).Reads [] a := fun _ => rfl

theorem map (f : α → β) (reads : read.Reads bs a) : (f <$> read).Reads bs (f a) := by
  intro rest
  rw [StateT.run_map, reads rest]
  rfl

theorem bind {next : α → Reader β} {b : β} (first : read.Reads bs a)
    (second : (next a).Reads cs b) : (read >>= next).Reads (bs ++ cs) b := by
  intro rest
  rw [List.append_assoc, StateT.run_bind, first (cs ++ rest)]
  exact second rest

theorem seq {f : Reader (α → β)} {g : α → β} (first : f.Reads bs g) (second : read.Reads cs a) :
    (f <*> read).Reads (bs ++ cs) (g a) := by
  rw [seq_eq_bind_map]
  exact first.bind (second.map g)

end Reads

theorem bytes_reads {bs : Bytes} {size : Nat} (length : bs.length = size) :
    (bytes size).Reads bs bs := by
  intro rest
  have present : size ≤ (bs ++ rest).length := by
    rw [List.length_append]
    omega
  have taken : (bytes size).run (bs ++ rest) =
      some ((bs ++ rest).take size, (bs ++ rest).drop size) := if_pos present
  rw [taken, ← length, List.take_left, List.drop_left]

theorem bytes_eq_some {size : Nat} {bs x rest : Bytes}
    (taken : (bytes size).run bs = some (x, rest)) : bs = x ++ rest ∧ x.length = size := by
  change (if size ≤ bs.length then some (bs.take size, bs.drop size) else none) = _ at taken
  split at taken
  · rename_i present
    cases taken
    exact ⟨(List.take_append_drop size bs).symm, List.length_take_of_le present⟩
  · cases taken

theorem map_eq_some {read : Reader α} {f : α → β} {bs rest : Bytes} {b : β}
    (taken : (f <$> read).run bs = some (b, rest)) : ∃ a, b = f a ∧ read.run bs = some (a, rest) := by
  rw [StateT.run_map] at taken
  obtain ⟨⟨a, _⟩, found, same⟩ := Option.map_eq_some_iff.mp taken
  cases same
  exact ⟨a, rfl, found⟩

theorem word_eq_some {width n : Nat} {bs rest : Bytes}
    (taken : (word width).run bs = some (n, rest)) :
    bs.length = width + rest.length ∧ n < 256 ^ width := by
  obtain ⟨x, rfl, found⟩ := map_eq_some taken
  obtain ⟨rfl, rfl⟩ := bytes_eq_some found
  exact ⟨List.length_append, Bytes.value_lt x⟩

theorem eq_le_of_word {width n : Nat} {bs rest : Bytes}
    (taken : (word width).run bs = some (n, rest)) : bs = Bytes.le width n ++ rest := by
  obtain ⟨x, rfl, found⟩ := map_eq_some taken
  obtain ⟨rfl, rfl⟩ := bytes_eq_some found
  rw [Bytes.le_value]

theorem word_reads {bs : Bytes} {width : Nat} (length : bs.length = width) :
    (word width).Reads bs (Bytes.value bs) :=
  (bytes_reads length).map Bytes.value

theorem word_reads_le (width : Nat) {n : Nat} (fits : n < 256 ^ width) :
    (word width).Reads (Bytes.le width n) n := by
  have reads := word_reads (Bytes.length_le width n)
  rwa [Bytes.value_le, Nat.mod_eq_of_lt fits] at reads

theorem u8_reads (b : UInt8) : u8.Reads [b] b := by
  have single : Bytes.value [b] = b.toNat := rfl
  have reads := (word_reads (List.length_singleton (a := b))).map UInt8.ofNat
  rwa [single, UInt8.ofNat_toNat] at reads

theorem u32_reads (n : UInt32) : u32.Reads (Bytes.u32 n) n := by
  have reads := (word_reads_le 4 n.toNat_lt).map UInt32.ofNat
  rwa [UInt32.ofNat_toNat] at reads

theorem u64_reads (n : UInt64) : u64.Reads (Bytes.u64 n) n := by
  have reads := (word_reads_le 8 n.toNat_lt).map UInt64.ofNat
  rwa [UInt64.ofNat_toNat] at reads

theorem i32_reads (n : Int32) : i32.Reads (Bytes.i32 n) n := by
  have reads := (u32_reads n.toUInt32).map UInt32.toInt32
  rwa [Int32.toInt32_toUInt32] at reads

theorem i64_reads (n : Int64) : i64.Reads (Bytes.i64 n) n := by
  have reads := (u64_reads n.toUInt64).map UInt64.toInt64
  rwa [Int64.toInt64_toUInt64] at reads

theorem hash_reads (h : Hash256) : hash.Reads h.bytes h := by
  have reads := (word_reads h.length_bytes).map Hash256.ofNat
  rwa [← Hash256.value, Hash256.ofNat_value] at reads

theorem many_reads {member : Reader α} {form : α → Bytes} (xs : List α)
    (each : ∀ x ∈ xs, member.Reads (form x) x) :
    (many member xs.length).Reads (xs.flatMap form) xs := by
  induction xs with
  | nil => exact .pure []
  | cons x xs ih =>
    have first := each x List.mem_cons_self
    have rest := ih fun y later => each y (List.mem_cons_of_mem x later)
    exact (first.map List.cons).seq rest

end Reader

end ChainProfile
