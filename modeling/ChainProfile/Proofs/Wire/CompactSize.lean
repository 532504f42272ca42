import Mathlib.Tactic.SplitIfs
import ChainProfile.CompactSize
import ChainProfile.Proofs.Wire.Reader

/-! Counts, counted lists and sized byte strings are read back. The first byte of a count says how
many bytes follow, so each of the four forms is told from the others, and the first with room for
the count is the shortest. A list is read back if its length fits the count. -/

namespace ChainProfile.CompactSize

def readAfter (first : UInt8) : Reader UInt64 :=
  if first < 0xfd then pure first.toUInt64
  else if first = 0xfd then UInt64.ofNat <$> Reader.word 2
  else if first = 0xfe then UInt64.ofNat <$> Reader.word 4
  else Reader.u64

def read : Reader UInt64 := Reader.u8 >>= readAfter

def readCounted {α : Type} (member : Reader α) : Reader (List α) := do
  let count ← read
  Reader.many member count.toNat

def readSized : Reader Bytes := do
  let size ← read
  Reader.bytes size.toNat

theorem word_reads_toNat (width : Nat) {n : UInt64} (fits : n.toNat < 256 ^ width) :
    (UInt64.ofNat <$> Reader.word width).Reads (Bytes.le width n.toNat) n := by
  have reads := (Reader.word_reads_le width fits).map UInt64.ofNat
  rwa [UInt64.ofNat_toNat] at reads

theorem readAfter_small {n : UInt64} (small : n < 0xfd) : (readAfter n.toUInt8).Reads [] n := by
  have bound : n.toNat < 253 := UInt64.lt_iff_toNat_lt.mp small
  have low : n.toNat % 256 = n.toNat := Nat.mod_eq_of_lt (by omega)
  have own : n.toUInt8 < 0xfd := by
    rw [UInt8.lt_iff_toNat_lt, UInt64.toNat_toUInt8, low]
    exact bound
  have back : n.toUInt8.toUInt64 = n := by
    apply UInt64.toNat_inj.mp
    rw [UInt8.toNat_toUInt64, UInt64.toNat_toUInt8, low]
  rw [readAfter, if_pos own, back]
  exact .pure n

inductive Form
  | byte
  | two
  | four
  | eight
  deriving DecidableEq, Repr

namespace Form

/-- The counts that the form has room for. -/
def Carries : Form → UInt64 → Prop
  | byte, n => n < 0xfd
  | two, n => n < 0x10000
  | four, n => n < 0x100000000
  | eight, _ => True

instance (form : Form) (n : UInt64) : Decidable (form.Carries n) :=
  match form with
  | byte => inferInstanceAs (Decidable (n < 0xfd))
  | two => inferInstanceAs (Decidable (n < 0x10000))
  | four => inferInstanceAs (Decidable (n < 0x100000000))
  | eight => inferInstanceAs (Decidable True)

def write : Form → UInt64 → Bytes
  | byte, n => [n.toUInt8]
  | two, n => 0xfd :: Bytes.le 2 n.toNat
  | four, n => 0xfe :: Bytes.le 4 n.toNat
  | eight, n => 0xff :: Bytes.u64 n

def size : Form → Nat
  | byte => 1
  | two => 3
  | four => 5
  | eight => 9

def least (n : UInt64) : Form :=
  if n < 0xfd then byte else if n < 0x10000 then two else if n < 0x100000000 then four else eight

variable {form : Form} {n : UInt64} {bs rest : Bytes}

theorem length_write (form : Form) (n : UInt64) : (form.write n).length = form.size := by
  cases form <;> simp [write, size]

theorem write_reads (carries : form.Carries n) : read.Reads (form.write n) n := by
  cases form with
  | byte => exact (Reader.u8_reads n.toUInt8).bind (readAfter_small carries)
  | two =>
    exact (Reader.u8_reads 0xfd).bind (word_reads_toNat 2 (UInt64.lt_iff_toNat_lt.mp carries))
  | four =>
    exact (Reader.u8_reads 0xfe).bind (word_reads_toNat 4 (UInt64.lt_iff_toNat_lt.mp carries))
  | eight => exact (Reader.u8_reads 0xff).bind (Reader.u64_reads n)

theorem carries_iff (form : Form) (n : UInt64) : form.Carries n ↔ (least n).size ≤ form.size := by
  have one : (0xfd : UInt64).toNat = 0xfd := rfl
  have two : (0x10000 : UInt64).toNat = 0x10000 := rfl
  have four : (0x100000000 : UInt64).toNat = 0x100000000 := rfl
  simp only [least, UInt64.lt_iff_toNat_lt, one, two, four]
  cases form
  all_goals
    simp only [Carries, UInt64.lt_iff_toNat_lt, one, two, four]
    split_ifs <;> simp only [size, true_iff] <;> omega

theorem carries_least (n : UInt64) : (least n).Carries n := (carries_iff _ n).mpr (Nat.le_refl _)

theorem size_inj : ∀ form other : Form, form.size = other.size → form = other := by
  rintro (_ | _ | _ | _) (_ | _ | _ | _) <;> simp [size]

theorem size_least_lt (carries : form.Carries n) (differs : form ≠ least n) :
    (least n).size < form.size :=
  Nat.lt_of_le_of_ne ((carries_iff form n).mp carries) fun same => differs (size_inj _ _ same).symm

end Form

theorem encode_eq_write (n : UInt64) : encode n = (Form.least n).write n := by
  unfold encode Form.least
  split
  · rfl
  split
  · rfl
  split
  · rfl
  · rfl

theorem encode_reads (n : UInt64) : read.Reads (encode n) n := by
  rw [encode_eq_write]
  exact Form.write_reads (Form.carries_least n)

theorem word_of_read {width : Nat} {n : UInt64} {bs rest : Bytes} (short : width ≤ 8)
    (taken : (UInt64.ofNat <$> Reader.word width).run bs = some (n, rest)) :
    bs = Bytes.le width n.toNat ++ rest ∧ n.toNat < 256 ^ width := by
  obtain ⟨m, rfl, found⟩ := Reader.map_eq_some taken
  have small := (Reader.word_eq_some found).2
  have fits : 256 ^ width ≤ 256 ^ 8 := Nat.pow_le_pow_right (by decide) short
  rw [UInt64.toNat_ofNat_of_lt' (Nat.lt_of_lt_of_le small fits)]
  exact ⟨Reader.eq_le_of_word found, small⟩

theorem exists_form_of_read {n : UInt64} {bs rest : Bytes} (taken : read.run bs = some (n, rest)) :
    ∃ form : Form, form.Carries n ∧ bs = form.write n ++ rest := by
  obtain ⟨⟨first, tail⟩, start, onward⟩ := Option.bind_eq_some_iff.mp taken
  obtain ⟨m, rfl, found⟩ := Reader.map_eq_some start
  obtain rfl : bs = UInt8.ofNat m :: tail := Reader.eq_le_of_word found
  generalize UInt8.ofNat m = first at onward
  dsimp only at onward
  rw [readAfter] at onward
  split at onward
  · rename_i small
    obtain ⟨rfl, rfl⟩ := Prod.mk.inj (Option.some.inj onward)
    refine ⟨.byte, UInt8.toUInt64_lt.mpr small, ?_⟩
    rw [Form.write, UInt8.toUInt8_toUInt64]
    rfl
  split at onward
  · rename_i marker
    obtain ⟨rfl, fits⟩ := word_of_read (by decide) onward
    exact ⟨.two, UInt64.lt_iff_toNat_lt.mpr fits, by rw [marker]; rfl⟩
  split at onward
  · rename_i marker
    obtain ⟨rfl, fits⟩ := word_of_read (by decide) onward
    exact ⟨.four, UInt64.lt_iff_toNat_lt.mpr fits, by rw [marker]; rfl⟩
  · rename_i large two four
    have marker : first = 0xff := by
      have bound := first.toNat_lt
      simp only [UInt8.lt_iff_toNat_lt, ← UInt8.toNat_inj, UInt8.reduceToNat] at large two four ⊢
      omega
    obtain ⟨rfl, -⟩ := word_of_read (by decide) onward
    exact ⟨.eight, trivial, by rw [marker]; rfl⟩

theorem toNat_count {n : Nat} (fits : n < 2 ^ 64) : (UInt64.ofNat n).toNat = n :=
  UInt64.toNat_ofNat_of_lt' fits

theorem counted_reads {α : Type} {member : Reader α} {form : α → Bytes} {xs : List α}
    (fits : xs.length < 2 ^ 64) (each : ∀ x ∈ xs, member.Reads (form x) x) :
    (readCounted member).Reads (counted form xs) xs := by
  refine (encode_reads _).bind ?_
  rw [toNat_count fits]
  exact Reader.many_reads xs each

theorem sized_reads {bs : Bytes} (fits : bs.length < 2 ^ 64) : readSized.Reads (sized bs) bs := by
  refine (encode_reads _).bind ?_
  rw [toNat_count fits]
  exact Reader.bytes_reads rfl

theorem append_eq_of_sized {bs cs x y : Bytes} (same : sized bs ++ x = sized cs ++ y) :
    bs ++ x = cs ++ y := by
  simp only [sized, List.append_assoc] at same
  exact ((encode_reads _).inj (encode_reads _) same).2

theorem sized_append_inj {bs cs x y : Bytes} (tails : x.length = y.length)
    (same : sized bs ++ x = sized cs ++ y) : bs = cs ∧ x = y :=
  List.append_inj' (append_eq_of_sized same) tails

/-- A count is read back whatever follows it. The four forms are all that is read as a count, and of those
with room for it the one that is written is shorter than any other. -/
theorem read_encode_shortest (n : UInt64) (rest : Bytes) :
    read.run (encode n ++ rest) = some (n, rest) ∧
    (∀ bs, read.run bs = some (n, rest) ↔
      ∃ form : Form, form.Carries n ∧ bs = form.write n ++ rest) ∧
    ∃ form : Form, form.Carries n ∧ encode n = form.write n ∧
      ∀ other : Form, other.Carries n → other ≠ form →
        (form.write n).length < (other.write n).length := by
  refine ⟨encode_reads n rest, ?_, .least n, Form.carries_least n, encode_eq_write n, ?_⟩
  · intro bs
    constructor
    · exact exists_form_of_read
    · rintro ⟨form, carries, rfl⟩
      exact Form.write_reads carries rest
  · intro other carries differs
    rw [Form.length_write, Form.length_write]
    exact Form.size_least_lt carries differs

theorem read_encode_shortest_threeBytes :
    read.run (encode 0xffff ++ [0xfe]) = some (0xffff, [0xfe]) ∧
      read.run (Form.four.write 0xffff ++ [0xfe]) = some (0xffff, [0xfe]) ∧
      (encode 0xffff).length < (Form.four.write 0xffff).length := by
  have four : Form.four.Carries 0xffff := by decide
  obtain ⟨reads, forms, form, -, written, shortest⟩ := read_encode_shortest 0xffff [0xfe]
  refine ⟨reads, (forms _).mpr ⟨.four, four, rfl⟩, ?_⟩
  rw [written]
  exact shortest .four four fun same => absurd (same ▸ written) (by decide)

end ChainProfile.CompactSize
