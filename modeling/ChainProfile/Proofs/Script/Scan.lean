import ChainProfile.Proofs.Script.Number
import ChainProfile.Proofs.Script.Push

/-! Scripts are read back piece by piece. Tokens follow each other without marks between them, and
each piece is written as the shortest form of one token, so the scan of an assembled script gives
the tokens of its pieces and has nothing left at the end. Numbers that have an opcode of their own are
read back as that opcode, all others as the data they are pushed as. -/

namespace ChainProfile.Script

theorem Token.length_rest_lt {t : Token} {script rest : Bytes}
    (taken : read.run script = some (t, rest)) : rest.length < script.length := by
  have whole := length_bytes_of_read taken
  have some := List.length_pos_iff.mpr t.bytes_ne_nil
  omega

/-- All tokens of a script, unless its last push is cut short. -/
def scan (script : Bytes) : Option (List Token) :=
  if script = [] then some []
  else
    match _ : Token.read.run script with
    | none => none
    | some (token, rest) => (scan rest).map (token :: ·)
termination_by script.length
decreasing_by exact Token.length_rest_lt (by assumption)

@[simp] theorem scan_nil : scan [] = some [] := by
  rw [scan, if_pos rfl]

theorem scan_of_read {t : Token} {script rest : Bytes}
    (taken : Token.read.run script = some (t, rest)) : scan script = (scan rest).map (t :: ·) := by
  have some : script ≠ [] := by
    rintro rfl
    cases taken
  rw [scan, if_neg some]
  split
  · rename_i cut
    rw [taken] at cut
    cases cut
  · rename_i found
    rw [taken] at found
    cases found
    rfl

theorem read_of_scan {t : Token} {script : Bytes} (scanned : scan script = some [t]) :
    ∃ rest, Token.read.run script = some (t, rest) := by
  rw [scan] at scanned
  split at scanned
  · cases scanned
  · split at scanned
    · cases scanned
    · rename_i taken
      obtain ⟨_, _, same⟩ := Option.map_eq_some_iff.mp scanned
      cases same
      exact ⟨_, taken⟩

theorem scan_flatMap {ts : List Token} (readable : ∀ t ∈ ts, t.Readable) :
    scan (ts.flatMap Token.bytes) = some ts := by
  induction ts with
  | nil => exact scan_nil
  | cons t ts ih =>
    have first := Token.bytes_reads (readable t List.mem_cons_self) (ts.flatMap Token.bytes)
    rw [List.flatMap_cons, scan_of_read first,
      ih fun u later => readable u (List.mem_cons_of_mem t later), Option.map_some]

namespace Piece

/-- What a piece is read back as. Zero has no opcode of its own, its number is the empty push. -/
def token : Piece → Token
  | opcode code => .opcode code
  | data bytes => .data bytes
  | int n =>
    if n = -1 then .opcode 0x4f
    else if 1 ≤ n ∧ n ≤ 16 then .opcode (UInt8.ofNat (0x50 + n.toInt.toNat))
    else .data (number n)
  | num n => .data (number n)

def Readable : Piece → Prop
  | opcode code => 0x4e < code.toNat
  | data bytes => bytes.length < 2 ^ 32
  | int _ => True
  | num _ => True

theorem bytes_token (p : Piece) : p.token.bytes = p.bytes := by
  cases p with
  | opcode code => rfl
  | data bs => rfl
  | num n => rfl
  | int n =>
    rw [token, bytes]
    by_cases zero : n = 0
    · subst zero
      have empty : push (number 0) = [0x00] := by
        rw [number_zero]
        rfl
      exact empty
    · rw [if_neg zero]
      split
      · rfl
      split
      · rw [UInt8.ofNat_add]
        rfl
      · rfl

theorem readable_token {p : Piece} (readable : p.Readable) : p.token.Readable := by
  have number_readable (n : Int64) : (Token.data (number n)).Readable := by
    have length := length_number_le n
    rw [Token.Readable]
    omega
  cases p with
  | opcode code => exact readable
  | data bs => exact readable
  | num n => exact number_readable n
  | int n =>
    rw [token]
    split
    · rw [Token.Readable]
      decide
    split
    · rename_i small
      have upper := Int64.le_iff_toInt_le.mp small.2
      have sixteen : (16 : Int64).toInt = 16 := rfl
      have byte : 0x50 + n.toInt.toNat < 256 := by omega
      rw [Token.Readable, UInt8.toNat_ofNat_of_lt' byte]
      omega
    · exact number_readable n

end Piece

theorem assemble_eq_flatMap (pieces : List Piece) :
    assemble pieces = (pieces.map Piece.token).flatMap Token.bytes := by
  rw [assemble, List.flatMap_map]
  simp only [Piece.bytes_token]

/-- An assembled script is scanned to the tokens of its pieces, and no form of any of them is
shorter than the one that was written. -/
theorem scan_assemble {pieces : List Piece} (readable : ∀ p ∈ pieces, p.Readable) :
    scan (assemble pieces) = some (pieces.map Piece.token) ∧
      ∀ p ∈ pieces, ∀ form, scan form = some [p.token] → p.bytes.length ≤ form.length := by
  constructor
  · rw [assemble_eq_flatMap]
    refine scan_flatMap ?_
    intro t member
    obtain ⟨p, among, rfl⟩ := List.mem_map.mp member
    exact Piece.readable_token (readable p among)
  · intro p _ form scanned
    obtain ⟨rest, taken⟩ := read_of_scan scanned
    have whole := Token.length_bytes_of_read taken
    rw [p.bytes_token] at whole
    omega

theorem scan_assemble_bounds :
    let filled : Nat → Piece := fun n => .data (List.replicate n 0x4c)
    let pieces := [filled 75, .int (-1), filled 76, .int 0, filled 255, .int 16, filled 256, .int 17,
      .num .minValue, .opcode 0xac]
    (∀ p ∈ pieces, p.Readable) ∧
      scan (assemble pieces) = some [.data (List.replicate 75 0x4c), .opcode 0x4f,
        .data (List.replicate 76 0x4c), .data [], .data (List.replicate 255 0x4c), .opcode 0x60,
        .data (List.replicate 256 0x4c), .data [0x11], .data (number .minValue), .opcode 0xac] ∧
      ∀ form, scan form = some [.data (List.replicate 256 0x4c)] → 259 ≤ form.length := by
  intro filled pieces
  have small : ∀ n, n < 2 ^ 32 → (filled n).Readable := by
    intro n bound
    rwa [Piece.Readable, List.length_replicate]
  have readable : ∀ p ∈ pieces, p.Readable := by
    have sign : 0x4e < (0xac : UInt8).toNat := by decide
    simp only [pieces, List.forall_mem_cons]
    exact ⟨small 75 (by decide), trivial, small 76 (by decide), trivial, small 255 (by decide), trivial,
      small 256 (by decide), trivial, trivial, sign, nofun⟩
  obtain ⟨scanned, shortest⟩ := scan_assemble readable
  have zero : (Piece.int 0).token = .data [] := congrArg Token.data number_zero
  have seventeen : (Piece.int 17).token = .data [0x11] := by
    have pushed : number 17 = [0x11] := by simp [number, magnitude, withSign]
    exact congrArg Token.data pushed
  have length : (filled 256).bytes.length = 259 := by
    rw [Piece.bytes, push, List.length_append, List.length_replicate]
    rfl
  simp only [pieces, List.map_cons, List.map_nil, zero, seventeen] at scanned
  have each := shortest (filled 256) (by simp [pieces])
  rw [length] at each
  exact ⟨readable, scanned, each⟩

end ChainProfile.Script
