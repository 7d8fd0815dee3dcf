import SecureChat.Construction.Utils.Logger

namespace SecureChat.Utils
open Library

/-- The log itself has the number 0. -/
def logNumber (filePath : LogPath) (number : Nat) : LogPath :=
  if number = 0 then filePath else filePath ++ '.' :: decimal number

theorem logNumber_injective (filePath : LogPath) : Function.Injective (logNumber filePath) := by
  have longer : ∀ number : Nat, filePath ++ '.' :: decimal number ≠ filePath := by
    intro number same
    have lengths := congrArg List.length same
    rw [List.length_append, List.length_cons] at lengths
    omega
  intro first second same
  unfold logNumber at same
  split_ifs at same with zero zero' zero'
  · rw [zero, zero']
  · exact absurd same.symm (longer second)
  · exact absurd same (longer first)
  · have digits := (List.cons.inj (List.append_cancel_left same)).2
    exact Int.ofNat.inj (decimal_injective digits)

/-- A smaller number has no more digits. -/
theorem decimal_length_mono {first second : Nat} (ordered : first ≤ second) :
    (decimal (first : Int)).length ≤ (decimal (second : Int)).length := by
  have positive : 0 < (Nat.toDigits 10 second).length := Nat.length_toDigits_pos
  have bound : second < 10 ^ (Nat.toDigits 10 second).length :=
    (Nat.length_toDigits_le_iff (by decide) positive).mp (Nat.le_refl _)
  exact (Nat.length_toDigits_le_iff (by decide) positive).mpr (Nat.lt_of_le_of_lt ordered bound)

/-- The buffers hold the whole paths. -/
theorem rotateBackups_eq {filePath : LogPath} {backups : Nat}
    (short : (filePath ++ '.' :: decimal backups).length < logPathSize) (files : LogFiles) :
    rotateBackups filePath backups files = renameUp (logNumber filePath) backups files := by
  induction backups generalizing files with
  | zero => rfl
  | succ backups ih =>
      have digits := decimal_length_mono (Nat.le_succ backups)
      have short' : (filePath ++ '.' :: decimal backups).length < logPathSize := by
        rw [List.length_append, List.length_cons] at short ⊢
        exact Nat.lt_of_le_of_lt (Nat.add_le_add_left (Nat.succ_le_succ digits) _) short
      have target : newLogPath filePath (backups + 1) = logNumber filePath (backups + 1) := by
        rw [newLogPath, cutTo_of_short short, logNumber, if_neg (Nat.succ_ne_zero backups)]
      have source : oldLogPath filePath (backups + 1) = logNumber filePath backups := by
        have previous : ((backups + 1 : Nat) : Int) - 1 = backups := by omega
        rw [oldLogPath, previous, cutTo_of_short short', logNumber]
        rcases Nat.eq_zero_or_pos backups with rfl | positive
        · rw [List.length_append] at short
          rw [if_pos rfl, if_pos rfl, cutTo_of_short (Nat.lt_of_le_of_lt (Nat.le_add_right ..) short)]
        · rw [if_neg (by omega), if_neg (Nat.ne_of_gt positive)]
      rw [rotateBackups, renameUp, source, target, ih short']

/-- What the files are after a rotation. -/
structure Rotated (filePath : LogPath) (backups : Nat) (before after : LogFiles) : Prop where
  moves : ∀ number < backups, ∀ content, before (logNumber filePath number) = some content →
    after (logNumber filePath (number + 1)) = some content
  log : after (logNumber filePath 0) = none
  gaps : ∀ number, number + 1 < backups → before (logNumber filePath number) = none →
    after (logNumber filePath (number + 1)) = none
  last : before (logNumber filePath (backups - 1)) = none →
    after (logNumber filePath backups) = before (logNumber filePath backups)
  above : ∀ number, backups < number → after (logNumber filePath number) = before (logNumber filePath number)
  others : ∀ path, (∀ number, path ≠ logNumber filePath number) → after path = before path
  /-- Only the content of the last backup may be lost. -/
  kept : ∀ path content, before path = some content → (∃ path', after path' = some content) ∨
    path = logNumber filePath backups ∧ before (logNumber filePath (backups - 1)) ≠ none

theorem renameUp_rotated (filePath : LogPath) {backups : Nat} (positive : 0 < backups) (files : LogFiles) :
    Rotated filePath backups files (renameUp (logNumber filePath) backups files) := by
  obtain ⟨limit, rfl⟩ := Nat.exists_eq_succ_of_ne_zero (Nat.ne_of_gt positive)
  have number := renameUp_number (logNumber_injective filePath) (limit + 1) files
  have outside : ∀ path, (∀ number ≤ limit + 1, path ≠ logNumber filePath number) →
      renameUp (logNumber filePath) (limit + 1) files path = files path :=
    fun path apart => renameUp_other (logNumber filePath) (limit + 1) files apart
  have up : ∀ below ≤ limit, ∀ content, files (logNumber filePath below) = some content →
      renameUp (logNumber filePath) (limit + 1) files (logNumber filePath (below + 1)) = some content := by
    intro below inside content here
    rw [number]
    rcases Nat.lt_or_eq_of_le inside with lower | rfl
    · rw [movedUp_below _ (Nat.succ_lt_succ lower)]
      exact here
    · rw [movedUp_limit, Function.comp_apply, here, Option.some_or]
  have still : files (logNumber filePath limit) = none →
      renameUp (logNumber filePath) (limit + 1) files (logNumber filePath (limit + 1)) =
        files (logNumber filePath (limit + 1)) := by
    intro missing
    rw [number, movedUp_limit, Function.comp_apply, missing, Option.none_or]
    rfl
  have above : ∀ other, limit + 1 < other →
      renameUp (logNumber filePath) (limit + 1) files (logNumber filePath other) = files (logNumber filePath other) := by
    intro other higher
    rw [number, movedUp_above _ higher]
    rfl
  refine ⟨fun below lower => up below (Nat.le_of_lt_succ lower), ?_, fun below lower missing => ?_, still, above,
    fun path foreign => outside path fun other _ => foreign other, fun path content here => ?_⟩
  · rw [number, movedUp_first _ positive]
  · rw [number, movedUp_below _ lower]
    exact missing
  · by_cases numbered : ∃ other ≤ limit + 1, path = logNumber filePath other
    · obtain ⟨other, inside, rfl⟩ := numbered
      rcases Nat.lt_or_eq_of_le inside with lower | rfl
      · exact .inl ⟨_, up other (Nat.le_of_lt_succ lower) content here⟩
      · cases missing : files (logNumber filePath limit) with
        | none => exact .inl ⟨_, (still missing).trans here⟩
        | some pushed => exact .inr ⟨rfl, by rw [Nat.succ_sub_one, missing]; exact Option.some_ne_none pushed⟩
    · refine .inl ⟨path, (outside path fun other inside same => ?_).trans here⟩
      exact numbered ⟨other, inside, same⟩

/-- A log that has reached its size moves up together with its backups. A smaller one changes nothing. -/
theorem loggerRotate_rotated (logger : Logger) (filePath : LogPath) (named : logger.filePath = some filePath)
    (backups : 1 ≤ logger.maxBackups)
    (short : (filePath ++ '.' :: decimal logger.maxBackups).length < logPathSize) (files : LogFiles) :
    (∀ content, files filePath = some content → logger.maxFileSize ≤ UInt64.ofNat content.length →
        Rotated filePath logger.maxBackups.toNat files (loggerRotate logger files)) ∧
      (∀ content, files filePath = some content → UInt64.ofNat content.length < logger.maxFileSize →
        loggerRotate logger files = files) ∧
      (files filePath = none → loggerRotate logger files = files) := by
  refine ⟨fun content present reached => ?_, fun content present small => ?_, fun missing => ?_⟩
  · have count : ((logger.maxBackups.toNat : Nat) : Int) = logger.maxBackups := Int.toNat_of_nonneg (by omega)
    have positive : 0 < logger.maxBackups.toNat := by omega
    rw [← count] at short
    rw [loggerRotate, named]
    dsimp only
    rw [present]
    dsimp only
    rw [if_neg (UInt64.not_lt.mpr reached), rotateBackups_eq short]
    exact renameUp_rotated filePath positive files
  · simp [loggerRotate, named, present, small]
  · simp [loggerRotate, named, missing]

theorem loggerRotate_rotated_two :
    Rotated ['a'] 2 (Function.update (fun _ => none) ['a'] (some [7]))
      (loggerRotate ⟨some ['a'], 1, 2⟩ (Function.update (fun _ => none) ['a'] (some [7]))) :=
  (loggerRotate_rotated ⟨some ['a'], 1, 2⟩ ['a'] rfl (by decide) (by decide)
    (Function.update (fun _ => none) ['a'] (some [7]))).1 [7] (by decide) (by decide)

end SecureChat.Utils
