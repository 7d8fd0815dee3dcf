import Mathlib.Data.List.Basic
import Mathlib.Tactic.Common

namespace SecureChat.Library

variable {Cell : Type*}

/-- The copy overwrites the cells of a block from one offset on. -/
def memcpy (block : List Cell) (offset : Nat) (source : List Cell) : List Cell :=
  block.take offset ++ source ++ block.drop (offset + source.length)

/-- The move copies `count` cells inside one block. -/
def memmove (block : List Cell) (target source count : Nat) : List Cell :=
  memcpy block target ((block.drop source).take count)

/-- The new block keeps the old cells, and its other cells hold an arbitrary value. -/
def realloc (arbitrary : Cell) (block : List Cell) (size : Nat) : List Cell :=
  block.take size ++ List.replicate (size - block.length) arbitrary

theorem memcpy_length (block : List Cell) (offset : Nat) (source : List Cell)
    (fits : offset + source.length ≤ block.length) :
    (memcpy block offset source).length = block.length := by
  simp only [memcpy, List.length_append, List.length_take, List.length_drop]
  omega

/-- A copy behind the used cells appends to them. -/
theorem memcpy_take (block : List Cell) (used : Nat) (source : List Cell)
    (fits : used + source.length ≤ block.length) :
    (memcpy block used source).take (used + source.length) = block.take used ++ source := by
  have measured : (block.take used ++ source).length = used + source.length := by
    simp only [List.length_append, List.length_take]
    omega
  rw [memcpy, ← measured, List.take_left]

/-- Two copies behind one another are one copy. -/
theorem memcpy_append (block : List Cell) (offset : Nat) (source more : List Cell)
    (fits : offset + source.length ≤ block.length) :
    memcpy (memcpy block offset source) (offset + source.length) more = memcpy block offset (source ++ more) := by
  have measured : (block.take offset ++ source).length = offset + source.length := by
    simp only [List.length_append, List.length_take]
    omega
  have front := memcpy_take block offset source fits
  have back : (memcpy block offset source).drop (offset + source.length) = block.drop (offset + source.length) := by
    rw [memcpy, ← measured, List.drop_left]
  have behind : (memcpy block offset source).drop (offset + source.length + more.length) =
      block.drop (offset + (source ++ more).length) := by
    rw [← List.drop_drop, back, List.drop_drop, List.length_append, Nat.add_assoc]
  conv_lhs => rw [memcpy, front, behind]
  rw [memcpy, List.append_assoc (block.take offset)]

/-- A copy of the size of the block is all that is left. -/
theorem memcpy_whole (block source : List Cell) (size : source.length = block.length) :
    memcpy block 0 source = source := by
  rw [memcpy, List.take_zero, List.nil_append, Nat.zero_add, size, List.drop_length, List.append_nil]

theorem memmove_length (block : List Cell) (source count : Nat)
    (fits : source + count ≤ block.length) :
    (memmove block 0 source count).length = block.length := by
  apply memcpy_length
  simp only [List.length_take, List.length_drop]
  omega

/-- A move to the front removes the first used cells. -/
theorem memmove_take (block : List Cell) (removed used : Nat) (ordered : removed ≤ used)
    (fits : used ≤ block.length) :
    (memmove block 0 removed (used - removed)).take (used - removed) =
      (block.take used).drop removed := by
  have measured : ((block.drop removed).take (used - removed)).length = used - removed := by
    simp only [List.length_take, List.length_drop]
    omega
  have copied := memcpy_take block 0 ((block.drop removed).take (used - removed)) (by omega)
  rw [measured] at copied
  rw [memmove]
  simpa [List.drop_take] using copied

theorem realloc_length (arbitrary : Cell) (block : List Cell) (size : Nat) :
    (realloc arbitrary block size).length = size := by
  simp only [realloc, List.length_append, List.length_take, List.length_replicate]
  omega

/-- Growth keeps the used cells. -/
theorem realloc_take (arbitrary : Cell) (block : List Cell) (used size : Nat)
    (kept : used ≤ block.length) (grown : used ≤ size) :
    (realloc arbitrary block size).take used = block.take used := by
  have inside : used ≤ (block.take size).length := by
    simp only [List.length_take]
    omega
  rw [realloc, List.take_append_of_le_length inside, List.take_take, Nat.min_eq_left grown]

end SecureChat.Library

namespace SecureChat.Library

variable {Cell : Type*} (zero : Cell)

/-- The content of a file after some cells were written behind a seek.
A gap in front of them is filled, and nothing happens without cells. -/
def writeAt (file : List Cell) (offset : Nat) (cells : List Cell) : List Cell :=
  if cells = [] then file else
  (file ++ List.replicate (offset - file.length) zero).take offset ++ cells ++
    file.drop (offset + cells.length)

/-- The content after a list of writes. -/
def writeAll (file : List Cell) (writes : List (Nat × List Cell)) : List Cell :=
  writes.foldl (fun file write => writeAt zero file write.1 write.2) file

@[simp] theorem writeAt_nil (file : List Cell) (offset : Nat) : writeAt zero file offset [] = file :=
  if_pos rfl

@[simp] theorem writeAll_nil (file : List Cell) : writeAll zero file [] = file := rfl

theorem writeAll_cons (file : List Cell) (write : Nat × List Cell) (writes : List (Nat × List Cell)) :
    writeAll zero file (write :: writes) = writeAll zero (writeAt zero file write.1 write.2) writes := rfl

/-- A write behind the last cell appends. -/
theorem writeAt_end (file cells : List Cell) : writeAt zero file file.length cells = file ++ cells := by
  by_cases present : cells = []
  · rw [present, writeAt_nil, List.append_nil]
  · rw [writeAt, if_neg present, Nat.sub_self, List.replicate_zero, List.append_nil, List.take_length,
      List.drop_eq_nil_of_le (Nat.le_add_right ..), List.append_nil]

section Position

variable (file : List Cell) (offset : Nat) (cells : List Cell)

theorem writeAt_length (present : cells ≠ []) :
    (writeAt zero file offset cells).length = max file.length (offset + cells.length) := by
  rw [writeAt, if_neg present]
  simp only [List.length_append, List.length_take, List.length_replicate, List.length_drop]
  omega

/-- The written cells stand at their place. -/
theorem writeAt_inside (position : Nat) (inside : position < cells.length) :
    (writeAt zero file offset cells)[offset + position]? = cells[position]? := by
  have present : cells ≠ [] := List.ne_nil_of_length_pos (Nat.lt_of_le_of_lt (Nat.zero_le _) inside)
  have front : ((file ++ List.replicate (offset - file.length) zero).take offset).length = offset := by
    simp only [List.length_append, List.length_take, List.length_replicate]
    omega
  rw [writeAt, if_neg present, List.append_assoc, List.getElem?_append_right (by omega), front,
    Nat.add_sub_cancel_left, List.getElem?_append_left inside]

/-- A write keeps every cell outside its range. -/
theorem writeAt_outside (position : Nat) (kept : position < file.length)
    (outside : position < offset ∨ offset + cells.length ≤ position) :
    (writeAt zero file offset cells)[position]? = file[position]? := by
  by_cases present : cells = []
  · rw [present, writeAt_nil]
  · have front : ((file ++ List.replicate (offset - file.length) zero).take offset).length = offset := by
      simp only [List.length_append, List.length_take, List.length_replicate]
      omega
    rw [writeAt, if_neg present]
    rcases outside with before | behind
    · rw [List.append_assoc, List.getElem?_append_left (by omega), List.getElem?_take_of_lt before,
        List.getElem?_append_left kept]
    · rw [List.getElem?_append_right (by rw [List.length_append, front]; exact behind), List.getElem?_drop]
      congr 1
      rw [List.length_append, front]
      omega

end Position

/-- A write puts a piece of the source where it belongs. -/
def Piece (source : List Cell) (write : Nat × List Cell) : Prop :=
  write.2 = (source.drop write.1).take write.2.length

/-- The write reaches a position. -/
def Covers (write : Nat × List Cell) (position : Nat) : Prop :=
  write.1 ≤ position ∧ position < write.1 + write.2.length

theorem Piece.getElem? {source : List Cell} {write : Nat × List Cell} (piece : Piece source write)
    {position : Nat} (covers : Covers write position) :
    write.2[position - write.1]? = source[position]? := by
  have inside : position - write.1 < write.2.length := by
    have := covers.2
    have := covers.1
    omega
  have same : write.1 + (position - write.1) = position := Nat.add_sub_cancel' covers.1
  conv_lhs => rw [piece]
  rw [List.getElem?_take_of_lt inside, List.getElem?_drop, same]

theorem Piece.end_le {source : List Cell} {write : Nat × List Cell} (piece : Piece source write)
    (present : write.2 ≠ []) : write.1 + write.2.length ≤ source.length := by
  have measured := congrArg List.length piece
  rw [List.length_take, List.length_drop] at measured
  have positive := List.length_pos_of_ne_nil present
  omega

/-- A file that is no longer than the source and agrees with it at some positions. -/
structure Partial (source file : List Cell) (reached : Nat → Prop) : Prop where
  within : file.length ≤ source.length
  agrees : ∀ position, reached position → file[position]? = source[position]?

namespace Partial

variable {source file : List Cell} {reached : Nat → Prop}

/-- A piece of the source adds its range to the positions that agree. -/
theorem write (agreement : Partial source file reached) (write : Nat × List Cell)
    (piece : Piece source write) (bounded : ∀ position, reached position → position < file.length) :
    Partial source (writeAt zero file write.1 write.2)
        (fun position => reached position ∨ Covers write position) ∧
      ∀ position, reached position ∨ Covers write position →
        position < (writeAt zero file write.1 write.2).length := by
  by_cases present : write.2 = []
  · have nowhere : ∀ position, ¬ Covers write position := by
      intro position covers
      have inside := covers.2
      rw [present] at inside
      exact absurd covers.1 (Nat.not_le.mpr inside)
    rw [present, writeAt_nil]
    refine ⟨⟨agreement.within, fun position there => ?_⟩, fun position there => ?_⟩
    · exact agreement.agrees position (there.resolve_right (nowhere position))
    · exact bounded position (there.resolve_right (nowhere position))
  · have size := writeAt_length zero file write.1 write.2 present
    have fits := piece.end_le present
    refine ⟨⟨?_, fun position there => ?_⟩, fun position there => ?_⟩
    · rw [size]
      exact Nat.max_le.mpr ⟨agreement.within, fits⟩
    · by_cases covers : Covers write position
      · have inside : position - write.1 < write.2.length := by
          have := covers.2
          have := covers.1
          omega
        have written := writeAt_inside zero file write.1 write.2 (position - write.1) inside
        rw [Nat.add_sub_cancel' covers.1] at written
        rw [written, piece.getElem? covers]
      · have old := there.resolve_right covers
        rw [writeAt_outside zero file write.1 write.2 position (bounded position old)]
        · exact agreement.agrees position old
        · rcases Nat.lt_or_ge position write.1 with before | behind
          · exact .inl before
          · exact .inr (Nat.not_lt.mp fun inside => covers ⟨behind, inside⟩)
    · rw [size]
      rcases there with old | covers
      · exact Nat.lt_of_lt_of_le (bounded position old) (Nat.le_max_left ..)
      · exact Nat.lt_of_lt_of_le covers.2 (Nat.le_max_right ..)

/-- A list of pieces adds all their ranges. -/
theorem writeAll (agreement : Partial source file reached) (writes : List (Nat × List Cell))
    (pieces : ∀ write ∈ writes, Piece source write)
    (bounded : ∀ position, reached position → position < file.length) :
    Partial source (Library.writeAll zero file writes)
        (fun position => reached position ∨ ∃ write ∈ writes, Covers write position) ∧
      ∀ position, (reached position ∨ ∃ write ∈ writes, Covers write position) →
        position < (Library.writeAll zero file writes).length := by
  induction writes generalizing file reached with
  | nil => simpa using ⟨⟨agreement.within, agreement.agrees⟩, bounded⟩
  | cons write writes ih =>
      rw [List.forall_mem_cons] at pieces
      obtain ⟨next, within⟩ := agreement.write zero write pieces.1 bounded
      simpa only [writeAll_cons, List.exists_mem_cons_iff, or_assoc] using ih next pieces.2 within

end Partial

end SecureChat.Library
