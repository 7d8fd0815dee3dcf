import Mathlib.Data.Nat.Log
import SecureChat.Construction.Utils.Strings
import SecureChat.Library.Text
import SecureChat.Proof.Utils.RingBuffer

namespace SecureChat.Utils
open Library

/-- The text that a call appends. A text that is too long for `vsnprintf` is not appended. -/
def StringCall.text : StringCall → List UInt8
  | .append text => text.val
  | .appendChar ch => appendedChar ch
  | .appendFormat text => if text.val.length ≤ intMax then text.val else []
  | .clear => []

/-- All texts since the last clear. -/
def appendedSinceClear (calls : List StringCall) : List UInt8 :=
  (calls.reverse.takeWhile (· ≠ .clear)).reverse.flatMap StringCall.text

@[simp] theorem appendedSinceClear_nil : appendedSinceClear [] = [] := rfl

@[simp] theorem appendedSinceClear_clear (calls : List StringCall) : appendedSinceClear (calls ++ [.clear]) = [] := by
  simp [appendedSinceClear]

theorem appendedSinceClear_append (calls : List StringCall) {call : StringCall} (appends : call ≠ .clear) :
    appendedSinceClear (calls ++ [call]) = appendedSinceClear calls ++ call.text := by
  simp [appendedSinceClear, appends]

theorem appendedSinceClear_of_forall {calls : List StringCall} (appends : ∀ call ∈ calls, call ≠ .clear) :
    appendedSinceClear calls = calls.flatMap StringCall.text := by
  have all : calls.reverse.takeWhile (· ≠ .clear) = calls.reverse := by
    rw [List.takeWhile_eq_self_iff]
    intro call member
    exact decide_eq_true (appends call (List.mem_reverse.mp member))
  rw [appendedSinceClear, all, List.reverse_reverse]

/-- The block is as large as the string says, and its end stands behind the content. -/
structure DynamicString.Holds (str : DynamicString) (content : List UInt8) : Prop where
  block : str.data.length = str.capacity.toNat
  room : str.length.toNat < str.capacity.toNat
  terminated : str.data.take (str.length.toNat + 1) = content ++ [0]

namespace DynamicString.Holds

variable {str : DynamicString} {content : List UInt8}

theorem measured (holds : str.Holds content) : content.length = str.length.toNat := by
  have lengths := congrArg List.length holds.terminated
  have inside := holds.room
  rw [List.length_take, holds.block, List.length_append, List.length_singleton] at lengths
  omega

theorem take_length (holds : str.Holds content) : str.data.take str.length.toNat = content := by
  have cut := congrArg (List.take str.length.toNat) holds.terminated
  rwa [List.take_take, Nat.min_eq_left (Nat.le_succ _), ← holds.measured, List.take_left, holds.measured] at cut

theorem getElem?_length (holds : str.Holds content) : str.data[str.length.toNat]? = some 0 := by
  have cell := congrArg (fun block => block[str.length.toNat]?) holds.terminated
  rwa [List.getElem?_take_of_lt (Nat.lt_succ_self _), ← holds.measured, List.getElem?_concat_length,
    holds.measured] at cell

theorem stringGet (holds : str.Holds content) (noZero : 0 ∉ content) : stringGet str = content := by
  have split : str.data = content ++ 0 :: str.data.drop (str.length.toNat + 1) := by
    rw [List.append_cons, ← holds.terminated, List.take_append_drop]
  rw [Utils.stringGet, split]
  refine (takeWhile_append_cons_iff _ _ _ _).mpr ⟨fun byte member => ?_, by simp⟩
  exact decide_eq_true (ne_of_mem_of_not_mem member noZero)

end DynamicString.Holds

/-- The new length of a string is no machine word that wraps around. -/
theorem newLength_toNat {str : DynamicString} {content text : List UInt8} (holds : str.Holds content)
    (bounded : (content ++ text).length < 2 ^ 62) :
    (str.length + UInt64.ofNat text.length).toNat = (content ++ text).length := by
  rw [List.length_append, holds.measured] at bounded
  rw [UInt64.toNat_add, UInt64.toNat_ofNat', List.length_append, holds.measured]
  omega

/-- The loop doubles the capacity until it is larger than the new length. -/
theorem doubleCapacity_ends {fuel : Nat} (enough : 64 ≤ fuel) {newLength capacity : UInt64}
    (short : newLength.toNat < 2 ^ 62) (positive : 0 < capacity.toNat) (small : capacity.toNat ≤ newLength.toNat) :
    ∃ newCapacity, loop (doubleCapacity newLength) fuel (capacity * 2) = some newCapacity ∧
      newLength.toNat < newCapacity.toNat := by
  have double : ∀ old : UInt64, old.toNat ≤ newLength.toNat → (old * 2).toNat = old.toNat * 2 := by
    intro old below
    have two : (2 : UInt64).toNat = 2 := rfl
    rw [UInt64.toNat_mul, two]
    omega
  refine loop_total (doubleCapacity newLength)
    (fun newCapacity => 0 < newCapacity.toNat ∧ newCapacity.toNat < 2 ^ 63)
    (fun newCapacity => 63 - Nat.log 2 newCapacity.toNat) (fun newCapacity => newLength.toNat < newCapacity.toNat)
    ?_ fuel (capacity * 2) ?_ ?_
  · intro newCapacity ⟨positive, bounded⟩
    unfold doubleCapacity
    split
    · -- The capacity is below the new length, so that twice as much does not wrap around.
      rename_i below
      have below := UInt64.le_iff_toNat_le.mp below
      have twice := double newCapacity below
      refine .inl ⟨newCapacity * 2, rfl, ?_, ?_⟩
      · rw [twice]
        omega
      · have log : Nat.log 2 (newCapacity.toNat * 2) = Nat.log 2 newCapacity.toNat + 1 :=
          Nat.log_mul_base (by decide) (Nat.pos_iff_ne_zero.mp positive)
        have low : Nat.log 2 newCapacity.toNat < 63 := Nat.log_lt_of_lt_pow (Nat.pos_iff_ne_zero.mp positive) bounded
        rw [twice, log]
        omega
    · rename_i above
      rw [UInt64.le_iff_toNat_le] at above
      exact .inr ⟨newCapacity, rfl, Nat.not_le.mp above⟩
  · rw [double capacity small]
    omega
  · exact Nat.lt_of_lt_of_le (Nat.lt_succ_of_le (Nat.sub_le _ _)) enough

theorem runStringCalls_append (allocation : Allocation) (fuel : Nat) (str : DynamicString)
    (calls : List StringCall) (call : StringCall) :
    runStringCalls allocation fuel str (calls ++ [call]) =
      (runStringCalls allocation fuel str calls).bind (runStringCalls allocation fuel · [call]) := by
  induction calls generalizing str with
  | nil => rfl
  | cons first rest ih =>
      rw [List.cons_append, runStringCalls, runStringCalls]
      cases first.run allocation fuel str with
      | none => rfl
      | some found => exact ih found.2

section Calls

variable {allocation : Allocation} (succeeds : ∀ size, allocation.succeeds size = true) {fuel : Nat}
  (enough : 64 ≤ fuel)

include succeeds

theorem stringCreate_holds (initialCapacity : UInt64) :
    ∃ str, stringCreate allocation initialCapacity = some str ∧ str.Holds [] := by
  have large : 16 ≤ (if initialCapacity < 16 then 16 else initialCapacity).toNat := by
    split
    · rfl
    · rename_i above
      rw [UInt64.lt_iff_toNat_lt] at above
      exact Nat.not_lt.mp above
  have fits : 0 + [(0 : UInt8)].length ≤ (List.replicate (if initialCapacity < 16 then 16 else initialCapacity).toNat
      allocation.arbitrary).length := by
    rw [List.length_replicate, List.length_singleton]
    omega
  unfold stringCreate
  rw [if_pos ⟨succeeds _, succeeds _⟩, copyInto_fits _ _ _ fits]
  refine ⟨_, rfl, ?_, ?_, ?_⟩
  · rw [memcpy_length _ _ _ fits, List.length_replicate]
  · exact Nat.lt_of_lt_of_le (Nat.zero_lt_succ 15) large
  · exact memcpy_take _ 0 [0] fits

include enough

/-- The block grows if it has to, and it keeps the content and its end. -/
theorem growString_holds {str : DynamicString} {content : List UInt8} (holds : str.Holds content)
    {newLength : UInt64} (short : newLength.toNat < 2 ^ 62) :
    ∃ grown, growString allocation fuel str newLength = some (some grown) ∧ grown.Holds content ∧
      grown.length = str.length ∧ newLength.toNat < grown.capacity.toNat := by
  have successor : (newLength + 1).toNat = newLength.toNat + 1 := by
    have one : (1 : UInt64).toNat = 1 := rfl
    rw [UInt64.toNat_add, one]
    omega
  unfold growString
  split
  · rename_i full
    rw [gt_iff_lt, UInt64.lt_iff_toNat_lt, successor] at full
    have inside := holds.room
    obtain ⟨newCapacity, ended, larger⟩ :=
      doubleCapacity_ends enough short (by omega) (Nat.le_of_lt_succ full)
    have grows : str.length.toNat + 1 ≤ newCapacity.toNat := by omega
    rw [ended, Option.bind_eq_bind, Option.bind_some, if_pos (succeeds _)]
    refine ⟨_, rfl, ⟨?_, ?_, ?_⟩, rfl, larger⟩
    · exact realloc_length ..
    · exact grows
    · rw [realloc_take _ _ _ _ (by rw [holds.block]; exact inside) grows]
      exact holds.terminated
  · rename_i fits
    rw [gt_iff_lt, UInt64.lt_iff_toNat_lt, successor] at fits
    exact ⟨str, rfl, holds, rfl, Nat.lt_of_succ_le (Nat.not_lt.mp fits)⟩

theorem stringAppend_holds {str : DynamicString} {content : List UInt8} (holds : str.Holds content)
    {text : List UInt8} (bounded : (content ++ text).length < 2 ^ 62) :
    ∃ next, stringAppend allocation fuel str text = some (0, next) ∧ next.Holds (content ++ text) := by
  have newLength := newLength_toNat holds bounded
  obtain ⟨grown, grows, kept, same, larger⟩ := growString_holds succeeds enough holds (newLength ▸ bounded)
  have sum : str.length.toNat + text.length = (str.length + UInt64.ofNat text.length).toNat := by
    rw [newLength, List.length_append, holds.measured]
  have fits : grown.length.toNat + text.length ≤ grown.data.length := by
    rw [kept.block, same, sum]
    exact Nat.le_of_lt larger
  have copied := memcpy_length _ _ _ fits
  have fits' : (str.length + UInt64.ofNat text.length).toNat + [(0 : UInt8)].length ≤
      (memcpy grown.data grown.length.toNat text).length := by
    rw [copied, kept.block]
    exact larger
  unfold stringAppend
  dsimp only
  rw [grows, Option.bind_eq_bind, Option.bind_some]
  dsimp only
  rw [copyInto_fits _ _ _ fits, Option.bind_eq_bind, Option.bind_some, copyInto_fits _ _ _ fits', Option.bind_some]
  refine ⟨_, rfl, ?_, larger, ?_⟩
  · rw [memcpy_length _ _ _ fits', copied, kept.block]
  · have text_copied := memcpy_take grown.data grown.length.toNat text fits
    rw [kept.take_length, same, sum] at text_copied
    have end_copied := memcpy_take _ _ [0] fits'
    rw [List.length_singleton, same, text_copied] at end_copied
    rw [same]
    exact end_copied

theorem stringAppendFormat_holds {str : DynamicString} {content : List UInt8} (holds : str.Holds content)
    {text : List UInt8} (representable : text.length ≤ intMax) (bounded : (content ++ text).length < 2 ^ 62) :
    ∃ next, stringAppendFormat allocation fuel str text = some (0, next) ∧ next.Holds (content ++ text) := by
  have newLength := newLength_toNat holds bounded
  obtain ⟨grown, grows, kept, same, larger⟩ := growString_holds succeeds enough holds (newLength ▸ bounded)
  have sum : str.length.toNat + text.length = (str.length + UInt64.ofNat text.length).toNat := by
    rw [newLength, List.length_append, holds.measured]
  have inside := kept.room
  have left : (grown.capacity - grown.length).toNat = grown.capacity.toNat - grown.length.toNat :=
    UInt64.toNat_sub_of_le _ _ (UInt64.le_iff_toNat_le.mpr (Nat.le_of_lt inside))
  have whole : printed (grown.capacity - grown.length).toNat text = text ++ [0] := by
    have space : text.length ≤ grown.capacity.toNat - grown.length.toNat - 1 := by
      rw [same]
      omega
    rw [printed, left, if_neg (by omega), List.take_of_length_le space]
  have fits : grown.length.toNat + (text ++ [0]).length ≤ grown.data.length := by
    rw [kept.block, same, List.length_append, List.length_singleton]
    omega
  unfold stringAppendFormat
  dsimp only
  rw [if_neg (Nat.not_lt.mpr representable), grows, Option.bind_eq_bind, Option.bind_some]
  dsimp only
  rw [whole, copyInto_fits _ _ _ fits, Option.bind_eq_bind, Option.bind_some]
  refine ⟨_, rfl, ?_, larger, ?_⟩
  · rw [memcpy_length _ _ _ fits, kept.block]
  · have copied := memcpy_take grown.data grown.length.toNat (text ++ [0]) fits
    rw [kept.take_length, List.length_append, List.length_singleton, ← Nat.add_assoc, same, sum,
      ← List.append_assoc] at copied
    rw [same]
    exact copied

omit succeeds enough in
theorem stringClear_holds {str : DynamicString} {content : List UInt8} (holds : str.Holds content) :
    ∃ next, stringClear str = some next ∧ next.Holds [] := by
  have inside := holds.room
  have fits : 0 + [(0 : UInt8)].length ≤ str.data.length := by
    rw [holds.block, List.length_singleton]
    omega
  unfold stringClear
  rw [copyInto_fits _ _ _ fits]
  refine ⟨_, rfl, ?_, ?_, ?_⟩
  · rw [memcpy_length _ _ _ fits, holds.block]
  · exact Nat.lt_of_le_of_lt (Nat.zero_le _) inside
  · exact memcpy_take _ 0 [0] fits

/-- A call that keeps the content short appends its text, or clears the string. -/
theorem StringCall.run_holds {str : DynamicString} {calls : List StringCall}
    (holds : str.Holds (appendedSinceClear calls)) (call : StringCall)
    (bounded : (appendedSinceClear (calls ++ [call])).length < 2 ^ 62) :
    ∃ code next, call.run allocation fuel str = some (code, next) ∧
      next.Holds (appendedSinceClear (calls ++ [call])) := by
  cases call with
  | clear =>
      obtain ⟨next, cleared, kept⟩ := stringClear_holds holds
      rw [appendedSinceClear_clear]
      exact ⟨0, next, by rw [run, cleared]; rfl, kept⟩
  | append text =>
      rw [appendedSinceClear_append calls (by simp)] at bounded ⊢
      obtain ⟨next, appended, kept⟩ := stringAppend_holds succeeds enough holds bounded
      exact ⟨0, next, appended, kept⟩
  | appendChar ch =>
      rw [appendedSinceClear_append calls (by simp)] at bounded ⊢
      obtain ⟨next, appended, kept⟩ := stringAppend_holds succeeds enough holds bounded
      exact ⟨0, next, appended, kept⟩
  | appendFormat text =>
      rw [appendedSinceClear_append calls (by simp), StringCall.text] at bounded ⊢
      split_ifs at bounded ⊢ with representable
      · obtain ⟨next, appended, kept⟩ := stringAppendFormat_holds succeeds enough holds representable bounded
        exact ⟨0, next, appended, kept⟩
      · -- The formatted text is too long, and the string stays as it is.
        refine ⟨-1, str, ?_, by rwa [List.append_nil]⟩
        rw [run, stringAppendFormat, if_pos (Nat.not_le.mp representable)]

theorem runStringCalls_holds {str : DynamicString} (created : str.Holds []) (calls : List StringCall)
    (bounded : ∀ before, before <+: calls → (appendedSinceClear before).length < 2 ^ 62) :
    ∃ next, runStringCalls allocation fuel str calls = some next ∧ next.Holds (appendedSinceClear calls) := by
  induction calls using List.reverseRecOn with
  | nil => exact ⟨str, rfl, created⟩
  | append_singleton calls call ih =>
      have front : calls <+: calls ++ [call] := List.prefix_append ..
      obtain ⟨middle, ran, holds⟩ := ih fun before prior => bounded before (prior.trans front)
      obtain ⟨code, next, last, kept⟩ := call.run_holds succeeds enough holds (bounded _ (List.prefix_refl _))
      refine ⟨next, ?_, kept⟩
      rw [runStringCalls_append, ran, Option.bind_some, runStringCalls, last]
      rfl

end Calls

/-- A string that was created is terminated inside its block after every sequence of calls, and it holds
the texts since the last clear. The loops that look for a new capacity find one. -/
theorem runStringCalls_content (allocation : Allocation) (succeeds : ∀ size, allocation.succeeds size = true)
    (fuel : Nat) (enough : 64 ≤ fuel) (initialCapacity : UInt64) (calls : List StringCall)
    (bounded : ∀ before, before <+: calls → (appendedSinceClear before).length < 2 ^ 62) :
    ∃ created str, stringCreate allocation initialCapacity = some created ∧
      runStringCalls allocation fuel created calls = some str ∧
      str.data.length = str.capacity.toNat ∧ str.length < str.capacity ∧
      str.data[str.length.toNat]? = some 0 ∧
      str.data.take str.length.toNat = appendedSinceClear calls ∧
      ∀ newLength : UInt64, newLength.toNat < 2 ^ 62 → str.capacity ≤ newLength →
        ∃ newCapacity, loop (doubleCapacity newLength) fuel (str.capacity * 2) = some newCapacity ∧
          newLength < newCapacity := by
  obtain ⟨created, creates, empty⟩ := stringCreate_holds succeeds initialCapacity
  obtain ⟨str, ran, holds⟩ := runStringCalls_holds succeeds enough empty calls bounded
  refine ⟨created, str, creates, ran, holds.block, UInt64.lt_iff_toNat_lt.mpr holds.room, holds.getElem?_length,
    holds.take_length, fun newLength short full => ?_⟩
  have positive : 0 < str.capacity.toNat := Nat.lt_of_le_of_lt (Nat.zero_le _) holds.room
  obtain ⟨newCapacity, ended, larger⟩ :=
    doubleCapacity_ends enough short positive (UInt64.le_iff_toNat_le.mp full)
  exact ⟨newCapacity, ended, UInt64.lt_iff_toNat_lt.mpr larger⟩

theorem runStringCalls_content_abc :
    ∃ created str, stringCreate ⟨fun _ => true, 0xAA⟩ 16 = some created ∧
      runStringCalls ⟨fun _ => true, 0xAA⟩ 64 created
        [.append ⟨[0x7A], by decide⟩, .clear, .append ⟨[0x61, 0x62], by decide⟩, .appendChar 0x63] = some str ∧
      str.data.take str.length.toNat = [0x61, 0x62, 0x63] := by
  obtain ⟨created, str, creates, ran, -, -, -, content, -⟩ :=
    runStringCalls_content ⟨fun _ => true, 0xAA⟩ (fun _ => rfl) 64 (Nat.le_refl _) 16
      [.append ⟨[0x7A], by decide⟩, .clear, .append ⟨[0x61, 0x62], by decide⟩, .appendChar 0x63] (by
        simp only [← List.mem_inits]
        decide)
  exact ⟨created, str, creates, ran, content⟩

variable {str old : List UInt8}

/-- The first loop counts the leftmost occurrences. -/
theorem countLoop {start : Nat} {positions : List Nat} (nonempty : old ≠ [])
    (leftmost : Leftmost old str start positions) {fuel : Nat} (enough : positions.length < fuel)
    (count : UInt64) (found : List Nat) :
    loop (countTurn str old) fuel ⟨start, count, found⟩ =
      some (count + UInt64.ofNat positions.length, found ++ positions) := by
  induction leftmost generalizing fuel count found with
  | @done start absent =>
      obtain ⟨fuel, rfl⟩ := Nat.exists_eq_succ_of_ne_zero (Nat.ne_of_gt enough)
      have ends : countTurn str old ⟨start, count, found⟩ = some (.inr (count, found)) := by
        rw [countTurn, firstOccurrenceFrom_eq_none absent]
      rw [loop_done ends]
      simp
  | @next start index positions behind here first later ih =>
      obtain ⟨fuel, rfl⟩ := Nat.exists_eq_succ_of_ne_zero (Nat.ne_of_gt (Nat.lt_of_le_of_lt (Nat.zero_le _) enough))
      have goes : countTurn str old ⟨start, count, found⟩ =
          some (.inl ⟨index + old.length, count + 1, found ++ [index]⟩) := by
        rw [countTurn, firstOccurrenceFrom_eq_some nonempty behind here first]
      have one : UInt64.ofNat (positions.length + 1) = UInt64.ofNat positions.length + 1 := UInt64.ofNat_add ..
      rw [loop_next goes, ih (Nat.lt_of_succ_lt_succ enough), List.length_cons, one, List.append_assoc,
        List.singleton_append, UInt64.add_assoc, UInt64.add_comm 1]

/-- The second loop meets the same occurrences and writes the replaced text behind what it has written. -/
theorem replaceLoop {start : Nat} {positions : List Nat} (nonempty : old ≠ [])
    (leftmost : Leftmost old str start positions) {fuel : Nat} (enough : positions.length < fuel) (new : List UInt8)
    (block : List UInt8) (dest : Nat) (found : List Nat)
    (fits : dest + ((replaceAt old new str start positions).length + 1) ≤ block.length) :
    loop (replaceTurn str old new) fuel ⟨block, dest, start, found⟩ =
      some (memcpy block dest (replaceAt old new str start positions ++ [0]), found ++ positions) := by
  induction leftmost generalizing fuel block dest found with
  | @done start absent =>
      obtain ⟨fuel, rfl⟩ := Nat.exists_eq_succ_of_ne_zero (Nat.ne_of_gt enough)
      have room : dest + (str.drop start ++ [0]).length ≤ block.length := by
        rwa [List.length_append, List.length_singleton]
      have ends : replaceTurn str old new ⟨block, dest, start, found⟩ =
          some (.inr (memcpy block dest (str.drop start ++ [0]), found)) := by
        rw [replaceTurn, firstOccurrenceFrom_eq_none absent]
        dsimp only
        rw [copyInto_fits _ _ _ room]
        rfl
      rw [loop_done ends, List.append_nil, replaceAt]
  | @next start index positions behind here first later ih =>
      obtain ⟨fuel, rfl⟩ := Nat.exists_eq_succ_of_ne_zero (Nat.ne_of_gt (Nat.lt_of_le_of_lt (Nat.zero_le _) enough))
      rw [replaceAt, List.length_append, List.length_append] at fits
      have segmentFits : dest + ((str.drop start).take (index - start)).length ≤ block.length := by omega
      have copied := memcpy_length _ _ _ segmentFits
      have newFits : dest + ((str.drop start).take (index - start)).length + new.length ≤
          (memcpy block dest ((str.drop start).take (index - start))).length := by omega
      have copied' := memcpy_length _ _ _ newFits
      have goes : replaceTurn str old new ⟨block, dest, start, found⟩ = some (.inl
          ⟨memcpy (memcpy block dest ((str.drop start).take (index - start)))
              (dest + ((str.drop start).take (index - start)).length) new,
            dest + ((str.drop start).take (index - start)).length + new.length, index + old.length,
            found ++ [index]⟩) := by
        rw [replaceTurn, firstOccurrenceFrom_eq_some nonempty behind here first]
        dsimp only
        rw [copyInto_fits _ _ _ segmentFits, Option.bind_eq_bind, Option.bind_some, copyInto_fits _ _ _ newFits,
          Option.bind_some]
      rw [loop_next goes, ih (Nat.lt_of_succ_lt_succ enough) _ _ _ (by omega), memcpy_append _ _ _ _ newFits,
        memcpy_append _ _ _ _ segmentFits, replaceAt]
      simp only [List.append_assoc, List.singleton_append]

/-- The size that is computed modulo the size of a word is the length of the result. -/
theorem newStrLen_eq {positions : List Nat} (nonempty : old ≠ []) (leftmost : Leftmost old str 0 positions)
    (new : List UInt8) :
    UInt64.ofNat str.length + UInt64.ofNat positions.length * (UInt64.ofNat new.length - UInt64.ofNat old.length) =
      UInt64.ofNat (replaceAt old new str 0 positions).length := by
  have lengths := congrArg UInt64.ofNat (leftmost.replaceAt_length nonempty new)
  rw [Nat.sub_zero, UInt64.ofNat_add, UInt64.ofNat_mul, UInt64.ofNat_add, UInt64.ofNat_mul] at lengths
  grind

/-- Every string has leftmost occurrences of a word, and the result is the string with these occurrences replaced.
Its block has just the size of the result and its end, and both loops end and meet the same occurrences. -/
theorem utilsStrreplace_eq (allocation : Allocation) (succeeds : ∀ size, allocation.succeeds size = true)
    (str old new : CString) (nonempty : old.val ≠ []) (fuel : Nat) (enough : str.val.length < fuel) :
    (∃ positions, Leftmost old.val str.val 0 positions) ∧
      ∀ positions, Leftmost old.val str.val 0 positions →
        (replaceAt old.val new.val str.val 0 positions).length < 2 ^ 63 →
        ∃ size : UInt64, size.toNat = (replaceAt old.val new.val str.val 0 positions).length + 1 ∧
          utilsStrreplace allocation fuel str old new =
            some (some ⟨size, replaceAt old.val new.val str.val 0 positions ++ [0], positions, positions⟩) := by
  refine ⟨Leftmost.exists_positions nonempty str.val 0, fun positions leftmost short => ?_⟩
  have turns : positions.length < fuel :=
    Nat.lt_of_le_of_lt (Nat.le_trans (leftmost.length_le nonempty) (Nat.sub_le _ _)) enough
  have size : (UInt64.ofNat (replaceAt old.val new.val str.val 0 positions).length + 1).toNat =
      (replaceAt old.val new.val str.val 0 positions).length + 1 := by
    have one : (1 : UInt64).toNat = 1 := rfl
    rw [UInt64.toNat_add, UInt64.toNat_ofNat', one]
    omega
  refine ⟨_, size, ?_⟩
  have present : old.val.length ≠ 0 := Nat.ne_of_gt (List.length_pos_of_ne_nil nonempty)
  have positive : UInt64.ofNat (replaceAt old.val new.val str.val 0 positions).length + 1 ≠ 0 := by
    intro zero
    rw [zero] at size
    exact absurd size (Nat.ne_of_lt (Nat.succ_pos _))
  have measured : (List.replicate (UInt64.ofNat (replaceAt old.val new.val str.val 0 positions).length + 1).toNat
      allocation.arbitrary).length = (replaceAt old.val new.val str.val 0 positions).length + 1 := by
    rw [List.length_replicate, size]
  have written := replaceLoop nonempty leftmost turns new.val _ 0 [] (by rw [measured, Nat.zero_add])
  rw [memcpy_whole _ _ (by rw [measured, List.length_append, List.length_singleton]), List.nil_append] at written
  unfold utilsStrreplace
  rw [if_neg present, countLoop nonempty leftmost turns, Option.bind_eq_bind, Option.bind_some]
  dsimp only
  rw [UInt64.zero_add, newStrLen_eq nonempty leftmost, utilsMalloc, if_pos ⟨positive, succeeds _⟩]
  dsimp only
  rw [written]
  rfl

/-- Of two occurrences that overlap the first one is taken, and the block shrinks. -/
theorem utilsStrreplace_eq_overlap :
    ∃ size : UInt64, size.toNat = 2 ∧
      utilsStrreplace ⟨fun _ => true, 0xAA⟩ 4 ⟨[0x61, 0x61, 0x61], by decide⟩ ⟨[0x61, 0x61], by decide⟩
        ⟨[], by decide⟩ = some (some ⟨size, [0x61, 0], [0], [0]⟩) := by
  have leftmost : Leftmost [0x61, 0x61] ([0x61, 0x61, 0x61] : List UInt8) 0 [0] := by
    refine .next (Nat.le_refl 0) (by decide) (fun earlier _ before => absurd before (Nat.not_lt_zero _)) ?_
    refine .done fun index behind here => ?_
    have short := here.length_le
    simp only [List.length_drop, List.length_cons, List.length_nil] at short behind
    omega
  exact (utilsStrreplace_eq ⟨fun _ => true, 0xAA⟩ (fun _ => rfl) ⟨[0x61, 0x61, 0x61], by decide⟩
    ⟨[0x61, 0x61], by decide⟩ ⟨[], by decide⟩ (by decide) 4 (by decide)).2 [0] leftmost (by decide)

end SecureChat.Utils
