import Mathlib.Data.List.DropRight
import Mathlib.Data.List.Rotate
import Mathlib.Data.Nat.ModEq
import SecureChat.Library.Memory

namespace SecureChat.Library

variable {Cell : Type*}

/-- Only the last cells of a list count when more cells follow. -/
theorem rtake_append_rtake (first second : List Cell) (count : Nat) :
    (first.rtake count ++ second).rtake count = (first ++ second).rtake count := by
  simp only [List.rtake_eq_reverse_take_reverse, List.reverse_append, List.reverse_reverse,
    List.take_append, List.take_take]
  rw [Nat.min_eq_left (Nat.sub_le count _)]

theorem rtake_of_length_le (list : List Cell) (count : Nat) (short : list.length ≤ count) :
    list.rtake count = list := by
  rw [List.rtake, Nat.sub_eq_zero_of_le short, List.drop_zero]

/-- The cells from one position on end at another position. -/
theorem rotate_drop (buffer : List Cell) (tail size : Nat) (within : size ≤ buffer.length) :
    (buffer.rotate ((tail + size) % buffer.length)).drop (buffer.length - size) =
      (buffer.rotate tail).take size := by
  have behind : size ≤ (buffer.rotate tail).length := by rwa [List.length_rotate]
  rw [List.rotate_mod, ← List.rotate_rotate, List.rotate_eq_drop_append_take behind]
  apply List.drop_left'
  rw [List.length_drop, List.length_rotate]

/-- A copy replaces the oldest cells by the newest ones. -/
theorem memcpy_rotate (buffer : List Cell) (head : Nat) (chunk : List Cell)
    (fits : head + chunk.length ≤ buffer.length) :
    (memcpy buffer head chunk).rotate (head + chunk.length) =
      (buffer.rotate head ++ chunk).drop chunk.length := by
  have inside : head ≤ buffer.length := by omega
  have length := memcpy_length buffer head chunk fits
  have rest : (memcpy buffer head chunk).drop (head + chunk.length) = buffer.drop (head + chunk.length) := by
    rw [memcpy]
    apply List.drop_left'
    simp [inside]
  rw [List.rotate_eq_drop_append_take (by rw [length]; exact fits), memcpy_take _ _ _ fits, rest,
    List.rotate_eq_drop_append_take inside, List.append_assoc, List.drop_append_of_le_length, List.drop_drop]
  rw [List.length_drop]
  omega

/-- The buffer holds the content from the tail on, and goes on at its start behind its end. -/
structure Ring (buffer : List Cell) (head tail : Nat) (content : List Cell) : Prop where
  first : tail < buffer.length
  within : content.length ≤ buffer.length
  behind : head = (tail + content.length) % buffer.length
  held : (buffer.rotate tail).take content.length = content

namespace Ring

variable {buffer : List Cell} {head tail : Nat} {content : List Cell}

theorem empty (buffer : List Cell) (positive : 0 < buffer.length) : Ring buffer 0 0 [] where
  first := positive
  within := Nat.zero_le _
  behind := by simp
  held := rfl

theorem head_lt (ring : Ring buffer head tail content) : head < buffer.length := by
  rw [ring.behind]
  exact Nat.mod_lt _ (Nat.zero_lt_of_lt ring.first)

/-- A copy to the head appends to the content. The oldest cells make room for it if they have to. -/
theorem write (ring : Ring buffer head tail content) (chunk : List Cell)
    (fits : head + chunk.length ≤ buffer.length) :
    Ring (memcpy buffer head chunk) ((head + chunk.length) % buffer.length)
      ((tail + (content.length + chunk.length - buffer.length)) % buffer.length)
      ((content ++ chunk).rtake buffer.length) := by
  have within := ring.within
  have length := memcpy_length buffer head chunk fits
  have measured : ((content ++ chunk).rtake buffer.length).length =
      content.length + chunk.length - (content.length + chunk.length - buffer.length) := by
    simp [List.rtake]
  have behind : (head + chunk.length) % buffer.length =
      ((tail + (content.length + chunk.length - buffer.length)) % buffer.length +
        ((content ++ chunk).rtake buffer.length).length) % buffer.length := by
    rw [ring.behind, Nat.mod_add_mod, Nat.mod_add_mod, measured]
    congr 1
    omega
  have older : (buffer.rotate head).drop (buffer.length - content.length) = content := by
    rw [ring.behind, rotate_drop _ _ _ within, ring.held]
  have joined : content ++ chunk = (buffer.rotate head ++ chunk).drop (buffer.length - content.length) := by
    rw [List.drop_append_of_le_length (by rw [List.length_rotate]; omega), older]
  have newest : (memcpy buffer head chunk).rotate ((head + chunk.length) % buffer.length) =
      (buffer.rotate head ++ chunk).drop chunk.length := by
    rw [← memcpy_rotate _ _ _ fits, ← List.rotate_mod _ (head + chunk.length), length]
  apply Ring.mk
  · rw [length]
    exact Nat.mod_lt _ (Nat.zero_lt_of_lt ring.first)
  · rw [length, measured]
    omega
  · rw [length]
    exact behind
  · have small : ((content ++ chunk).rtake buffer.length).length ≤ (memcpy buffer head chunk).length := by
      rw [length, measured]
      omega
    rw [← rotate_drop _ _ _ small, length, ← behind, newest, List.drop_drop, measured, List.rtake,
      List.length_append, joined, List.drop_drop]
    congr 1
    omega

/-- A copy from the tail reads the first cells of the content. -/
theorem read (ring : Ring buffer head tail content) (count : Nat) (short : count ≤ content.length)
    (fits : tail + count ≤ buffer.length) : (buffer.drop tail).take count = content.take count := by
  rw [← ring.held, List.take_take, Nat.min_eq_left short,
    List.rotate_eq_drop_append_take (Nat.le_of_lt ring.first), List.take_append_of_le_length]
  rw [List.length_drop]
  omega

/-- Each cell of the content lies behind the tail at its own place of the order. -/
theorem getElem? (ring : Ring buffer head tail content) (index : Nat) (inside : index < content.length) :
    buffer[(tail + index) % buffer.length]? = content[index]? := by
  have held := congrArg (fun cells : List Cell => cells[index]?) ring.held
  have within : index < buffer.length := Nat.lt_of_lt_of_le inside ring.within
  rw [Nat.add_comm, ← List.getElem?_rotate within, ← held]
  exact (List.getElem?_take_of_lt inside).symm

/-- A cell of the content is changed at its place of the order. -/
theorem modify (ring : Ring buffer head tail content) (index : Nat) (inside : index < content.length)
    (change : Cell → Cell) :
    Ring (buffer.modify ((tail + index) % buffer.length) change) head tail (content.modify index change) := by
  have within := ring.within
  have length : (buffer.modify ((tail + index) % buffer.length) change).length = buffer.length :=
    List.length_modify ..
  have measured : (content.modify index change).length = content.length := List.length_modify ..
  refine ⟨by rw [length]; exact ring.first, by rw [length, measured]; exact within, ?_, ?_⟩
  · rw [length, measured]
    exact ring.behind
  · rw [measured]
    refine List.ext_getElem? fun place => ?_
    by_cases short : place < content.length
    · have near : place < (buffer.modify ((tail + index) % buffer.length) change).length := by omega
      have held := ring.getElem? place short
      have same : (tail + index) % buffer.length = (tail + place) % buffer.length ↔ index = place := by
        constructor
        · intro equal
          have reduced : index % buffer.length = place % buffer.length := Nat.ModEq.add_left_cancel' tail equal
          rwa [Nat.mod_eq_of_lt (by omega), Nat.mod_eq_of_lt (by omega)] at reduced
        · rintro rfl
          rfl
      rw [List.getElem?_take_of_lt short, List.getElem?_rotate near, length, Nat.add_comm place,
        List.getElem?_modify, List.getElem?_modify, held]
      simp only [same]
    · rw [List.getElem?_eq_none (by rw [List.length_take]; omega), List.getElem?_eq_none (by omega)]

/-- The next cell is appended to a content that leaves room for it. -/
theorem push (ring : Ring buffer head tail content) (room : content.length < buffer.length) (cell : Cell) :
    Ring (buffer.set head cell) ((head + 1) % buffer.length) tail (content ++ [cell]) := by
  have first := ring.first
  have inside := ring.head_lt
  have written := ring.write [cell] inside
  have copied : memcpy buffer head [cell] = buffer.set head cell := by
    rw [memcpy, List.set_eq_take_append_cons_drop, if_pos inside, List.append_assoc]
    rfl
  have none : content.length + 1 - buffer.length = 0 := Nat.sub_eq_zero_of_le room
  have all : (content ++ [cell]).rtake buffer.length = content ++ [cell] :=
    rtake_of_length_le _ _ (by rw [List.length_append]; exact room)
  rw [copied, all, List.length_singleton, none] at written
  simpa only [Nat.add_zero, Nat.mod_eq_of_lt first] using written

/-- The content loses its first cells when the tail moves on. -/
theorem advance (ring : Ring buffer head tail content) (count : Nat) (short : count ≤ content.length) :
    Ring buffer head ((tail + count) % buffer.length) (content.drop count) := by
  have within := ring.within
  apply Ring.mk
  · exact Nat.mod_lt _ (Nat.zero_lt_of_lt ring.first)
  · rw [List.length_drop]
    omega
  · rw [ring.behind, List.length_drop, Nat.mod_add_mod]
    congr 1
    omega
  · have inside : count ≤ (buffer.rotate tail).length := by
      rw [List.length_rotate]
      omega
    rw [List.rotate_mod, ← List.rotate_rotate, List.rotate_eq_drop_append_take inside, List.length_drop,
      List.take_append_of_le_length (by rw [List.length_drop, List.length_rotate]; omega), ← List.drop_take,
      ring.held]

end Ring

end SecureChat.Library
