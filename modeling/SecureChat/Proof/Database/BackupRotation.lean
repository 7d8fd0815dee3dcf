import SecureChat.Construction.Database.Backup
import SecureChat.Library.BoundedLog

namespace SecureChat.Database.Backup

open Library

/-- A name of a backup, with any text for the time. -/
def IsBackup (name : Name) : Prop := ∃ time, name = namePrefix ++ time ++ nameSuffix

/-- The parts of a local time, the greatest first. -/
def Tm.fields (tm : Tm) : List Int := [tm.year, tm.mon.val, tm.mday.val, tm.hour.val, tm.min.val, tm.sec.val]

def Tm.Before (first second : Tm) : Prop := first.fields < second.fields

/-- The year has four digits. -/
def Tm.FourDigits (tm : Tm) : Prop := 1000 ≤ tm.year + 1900 ∧ tm.year + 1900 ≤ 9999

section Listing

theorem dotDot_lt {name : Name} (backup : IsBackup name) : dotDot < name := by
  obtain ⟨time, rfl⟩ := backup
  exact List.Lex.rel (by decide)

theorem dot_lt_dotDot : dot < dotDot := by decide

/-- The entries of the directory itself and of its parent come first. -/
theorem scandir_backups {directory : Directory} (backups : ∀ name ∈ directory, IsBackup name) :
    scandir directory = dot :: dotDot :: directory.sort := by
  have behind : ∀ name ∈ directory, dotDot < name := fun name member => dotDot_lt (backups name member)
  have absent : dotDot ∉ directory := fun member => (behind dotDot member).ne rfl
  have first : ∀ name ∈ insert dotDot directory, dot < name := by
    intro name member
    rcases Finset.mem_insert.mp member with rfl | file
    · exact dot_lt_dotDot
    · exact dot_lt_dotDot.trans (behind name file)
  have absent' : dot ∉ insert dotDot directory := fun member => (first dot member).ne rfl
  rw [scandir, Finset.sort_insert (· ≤ ·) (fun name member => (first name member).le) absent',
    Finset.sort_insert (· ≤ ·) (fun name member => (behind name member).le) absent]

theorem unlink_dots (directory : Directory) : unlink (unlink directory dot) dotDot = directory := by
  rw [unlink, unlink, if_pos (.inr rfl), if_pos (.inl rfl)]

/-- Files are removed one by one. -/
theorem foldl_unlink (names : List Name) (directory : Directory)
    (files : ∀ name ∈ names, name ≠ dot ∧ name ≠ dotDot) :
    names.foldl unlink directory = directory \ names.toFinset := by
  induction names generalizing directory with
  | nil => rw [List.foldl_nil, List.toFinset_nil, Finset.sdiff_empty]
  | cons name names ih =>
      obtain ⟨file, rest⟩ := List.forall_mem_cons.mp files
      have one : unlink directory name = directory.erase name := if_neg (not_or.mpr file)
      rw [List.foldl_cons, ih _ rest, one, List.toFinset_cons, Finset.sdiff_insert, Finset.erase_sdiff_comm]

/-- The two entries that stay take the two places that the limit lacks. -/
theorem cleanupOldBackups_eq {directory : Directory} (backups : ∀ name ∈ directory, IsBackup name) :
    cleanupOldBackups directory =
      directory \ (directory.sort.take (directory.card - maxBackupFiles)).toFinset := by
  have files : ∀ name ∈ directory.sort.take (directory.card - maxBackupFiles), name ≠ dot ∧ name ≠ dotDot := by
    intro name member
    have file := dotDot_lt (backups name ((directory.mem_sort (· ≤ ·)).mp (List.mem_of_mem_take member)))
    exact ⟨(dot_lt_dotDot.trans file).ne', file.ne'⟩
  unfold cleanupOldBackups
  dsimp only
  rw [scandir_backups backups, List.length_cons, List.length_cons, Finset.length_sort]
  split
  · rename_i many
    have limit : maxBackupFiles = 30 := rfl
    rcases Nat.lt_or_ge directory.card maxBackupFiles with fewer | full
    · have one : directory.card + 1 + 1 - maxBackupFiles = 1 := by omega
      have none : directory.card - maxBackupFiles = 0 := by omega
      rw [one, none, List.take_succ_cons, List.take_zero, List.take_zero, List.foldl_cons, List.foldl_nil,
        List.toFinset_nil, Finset.sdiff_empty, unlink, if_pos (.inl rfl)]
    · have two : directory.card + 1 + 1 - maxBackupFiles = directory.card - maxBackupFiles + 1 + 1 := by omega
      rw [two, List.take_succ_cons, List.take_succ_cons, List.foldl_cons, List.foldl_cons, unlink_dots,
        foldl_unlink _ _ files]
  · rename_i few
    have none : directory.card - maxBackupFiles = 0 := by omega
    rw [none, List.take_zero, List.toFinset_nil, Finset.sdiff_empty]

theorem cleanupOldBackups_greatest {directory : Directory} (backups : ∀ name ∈ directory, IsBackup name) :
    Greatest maxBackupFiles directory (cleanupOldBackups directory) := by
  rw [cleanupOldBackups_eq backups]
  exact greatest_sdiff maxBackupFiles directory

end Listing

section Names

/-- A number that fits its width decides the order before what stands behind it. -/
theorem formatPadded_append_lt_iff {width : Nat} {first second : Int} (positive : 0 < width)
    (fits : 0 ≤ first ∧ first < 10 ^ width) (fits' : 0 ≤ second ∧ second < 10 ^ width) (rest rest' : List Char) :
    formatPadded width first ++ rest < formatPadded width second ++ rest' ↔
      first < second ∨ first = second ∧ rest < rest' := by
  obtain ⟨nonneg, small⟩ := fits
  obtain ⟨nonneg', small'⟩ := fits'
  lift first to Nat using nonneg
  lift second to Nat using nonneg'
  have fits : first < 10 ^ width := by exact_mod_cast small
  have fits' : second < 10 ^ width := by exact_mod_cast small'
  obtain ⟨less, equal⟩ := zeroPadded_order positive fits fits'
  have same : (zeroPadded width first).length = (zeroPadded width second).length := by
    rw [zeroPadded_length positive fits, zeroPadded_length positive fits']
  rw [formatPadded, formatPadded, if_neg (Int.not_lt.mpr (Int.natCast_nonneg _)),
    if_neg (Int.not_lt.mpr (Int.natCast_nonneg _)),
    Int.natAbs_natCast, Int.natAbs_natCast, append_lt_append_iff _ _ _ _ same, less, equal, Int.ofNat_lt,
    Int.natCast_inj]

theorem generateBackupFilename_isBackup (tm : Tm) : IsBackup (generateBackupFilename tm) := by
  refine ⟨formatPadded 4 (tm.year + 1900) ++ (formatPadded 2 (tm.mon.val + 1) ++ (formatPadded 2 tm.mday.val ++
    ('_' :: (formatPadded 2 tm.hour.val ++ (formatPadded 2 tm.min.val ++ formatPadded 2 tm.sec.val))))), ?_⟩
  simp only [generateBackupFilename, List.append_assoc, List.cons_append]

/-- The names are in the order of the local times. -/
theorem generateBackupFilename_lt_iff (first second : Tm) (digits : first.FourDigits) (digits' : second.FourDigits) :
    generateBackupFilename first < generateBackupFilename second ↔ first.Before second := by
  obtain ⟨low, high⟩ := digits
  obtain ⟨low', high'⟩ := digits'
  have two : ∀ {number : Nat}, number < 61 → 0 ≤ (number : Int) ∧ (number : Int) < 10 ^ 2 := by
    intro number small
    omega
  have month : ∀ month : Fin 12, 0 ≤ (month.val + 1 : Int) ∧ (month.val + 1 : Int) < 10 ^ 2 := by
    intro month
    omega
  unfold generateBackupFilename
  rw [append_lt_append_iff _ _ _ _ rfl, formatPadded_append_lt_iff (by decide) ⟨by omega, by omega⟩
    ⟨by omega, by omega⟩, formatPadded_append_lt_iff (by decide) (month _) (month _),
    formatPadded_append_lt_iff (by decide) (two (by omega)) (two (by omega)), List.cons_lt_cons_iff,
    formatPadded_append_lt_iff (by decide) (two (by omega)) (two (by omega)),
    formatPadded_append_lt_iff (by decide) (two (by omega)) (two (by omega)),
    formatPadded_append_lt_iff (by decide) (two (by omega)) (two (by omega))]
  simp only [lt_irrefl, false_or, true_and, and_false, or_false, Tm.Before, Tm.fields, List.cons_lt_cons_iff,
    add_lt_add_iff_right, add_left_inj]

end Names

section Runs

theorem databaseBackup_success {files : Directory} {name : Name} {call : BackupCall}
    (success : (databaseBackup files name call).1 = true) : (databaseBackup files name call).2 = insert name files := by
  unfold databaseBackup at success ⊢
  split
  · rfl
  · rename_i failed
    rw [if_neg failed] at success
    cases success

theorem createBackupDir_success {directory : Option Directory} {mkdir : Bool} {files : Directory}
    (created : createBackupDir directory mkdir = (true, some files)) : files = directory.getD ∅ := by
  unfold createBackupDir at created
  split at created
  · exact (Option.some.inj (Prod.mk.inj created).2).symm
  · split at created
    · exact (Option.some.inj (Prod.mk.inj created).2).symm
    · cases created

/-- A call that succeeds trims the directory with its own backup in it. -/
theorem databasePerformBackup_success (directory : Option Directory) (call : BackupCall)
    (success : (databasePerformBackup directory call).1 = true) :
    (databasePerformBackup directory call).2 =
      some (cleanupOldBackups (insert (generateBackupFilename call.tm) (directory.getD ∅))) := by
  unfold databasePerformBackup at success ⊢
  split at success
  · rename_i files created
    obtain rfl := createBackupDir_success created
    dsimp only at success ⊢
    split at success
    · rename_i copied
      rw [if_pos copied, databaseBackup_success copied]
    · cases success
  · cases success

theorem recent_isBackup (calls : List BackupCall) :
    ∀ name ∈ (recent maxBackupFiles (calls.map fun call => generateBackupFilename call.tm)).toFinset,
      IsBackup name := by
  intro name member
  have made := (recent_sublist _ _).subset (List.mem_toFinset.mp member)
  obtain ⟨call, -, rfl⟩ := List.mem_map.mp made
  exact generateBackupFilename_isBackup call.tm

/-- The last backups are kept up to date by each call. -/
theorem run_recent (start : Option Directory) (calls : List BackupCall) (empty : start.getD ∅ = ∅)
    (increasing : (calls.map fun call => generateBackupFilename call.tm).Pairwise (· < ·))
    (successful : ∀ success ∈ (backupMachine.run start calls).2, success = true) :
    (backupMachine.run start calls).1.getD ∅ =
      (recent maxBackupFiles (calls.map fun call => generateBackupFilename call.tm)).toFinset := by
  induction calls using List.reverseRecOn with
  | nil =>
      rw [Machine.run_nil, List.map_nil, recent_nil]
      exact empty
  | append_singleton calls call ih =>
      rw [Machine.run_append] at successful ⊢
      rw [List.map_append] at increasing ⊢
      have before := ih (List.pairwise_append.mp increasing).1
        fun success member => successful success (List.mem_append_left _ member)
      have success := successful _ (List.mem_append_right _ List.mem_cons_self)
      have trimmed := databasePerformBackup_success _ call success
      have backups : ∀ name ∈ insert (generateBackupFilename call.tm)
          (recent maxBackupFiles (calls.map fun call => generateBackupFilename call.tm)).toFinset, IsBackup name := by
        intro name member
        rcases Finset.mem_insert.mp member with rfl | earlier
        · exact generateBackupFilename_isBackup call.tm
        · exact recent_isBackup calls name earlier
      have kept := cleanupOldBackups_greatest backups
      rw [before] at trimmed
      have pushed := greatest_push maxBackupFiles _ _ increasing
      have same := kept.unique pushed
      show (databasePerformBackup _ call).2.getD ∅ = _
      rw [trimmed, same]
      rfl

end Runs

/-- A cleanup leaves the greatest names, which are those of the latest local times,
so that a run of successful backups at increasing times always leaves the last of them. -/
theorem backupRotation_keepsNewest :
    (∀ directory : Directory, (∀ name ∈ directory, IsBackup name) →
      Greatest maxBackupFiles directory (cleanupOldBackups directory)) ∧
    (∀ first second : Tm, first.FourDigits → second.FourDigits →
      (generateBackupFilename first < generateBackupFilename second ↔ first.Before second)) ∧
    ∀ (start : Option Directory) (calls : List BackupCall), start.getD ∅ = ∅ →
      (∀ call ∈ calls, call.tm.FourDigits) → (calls.map BackupCall.tm).Pairwise Tm.Before →
      (∀ success ∈ (backupMachine.run start calls).2, success = true) →
      (calls.map fun call => generateBackupFilename call.tm).Nodup ∧
        (backupMachine.run start calls).1.getD ∅ =
          (recent maxBackupFiles (calls.map fun call => generateBackupFilename call.tm)).toFinset := by
  refine ⟨fun directory backups => cleanupOldBackups_greatest backups, generateBackupFilename_lt_iff,
    fun start calls empty digits ordered successful => ?_⟩
  have increasing : (calls.map fun call => generateBackupFilename call.tm).Pairwise (· < ·) := by
    rw [List.pairwise_map] at ordered ⊢
    refine ordered.imp_of_mem fun {first second} one other before => ?_
    exact (generateBackupFilename_lt_iff first.tm second.tm (digits first one) (digits second other)).mpr before
  exact ⟨increasing.imp fun less => less.ne, run_recent start calls empty increasing successful⟩

/-- New Year's Eve of 1999, in the evening, and the first second of the next year. -/
def eve : BackupCall := ⟨⟨99, 11, 31, 23, 59, 59⟩, true, true, false⟩

def newYear : BackupCall := ⟨⟨100, 0, 1, 0, 0, 0⟩, true, true, false⟩

theorem backupRotation_keepsNewest_newYear :
    ((backupMachine.run none [eve, newYear]).1.getD ∅) =
        {"securechat_backup_19991231_235959.db".toList, "securechat_backup_20000101_000000.db".toList} ∧
      generateBackupFilename eve.tm < generateBackupFilename newYear.tm ∧
      Greatest maxBackupFiles {generateBackupFilename eve.tm} (cleanupOldBackups {generateBackupFilename eve.tm}) := by
  obtain ⟨trimmed, ordered, runs⟩ := backupRotation_keepsNewest
  have digits : ∀ call ∈ [eve, newYear], call.tm.FourDigits := by
    unfold Tm.FourDigits
    decide
  have before : eve.tm.Before newYear.tm := by
    unfold Tm.Before
    decide
  have successful : ∀ success ∈ (backupMachine.run none [eve, newYear]).2, success = true := by
    have outputs : (backupMachine.run none [eve, newYear]).2 = [true, true] := rfl
    rw [outputs]
    decide
  refine ⟨(runs none [eve, newYear] rfl digits (List.pairwise_pair.mpr before) successful).2, ?_, ?_⟩
  · exact (ordered eve.tm newYear.tm (digits eve List.mem_cons_self)
      (digits newYear (List.mem_cons_of_mem _ List.mem_cons_self))).mpr before
  · refine trimmed _ fun name member => ?_
    rw [Finset.mem_singleton] at member
    rw [member]
    exact generateBackupFilename_isBackup eve.tm

end SecureChat.Database.Backup
