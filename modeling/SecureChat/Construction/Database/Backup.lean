/-
This file makes backup files and removes the oldest ones.
-/

import SecureChat.Library.Text
import SecureChat.Library.Machine
import Mathlib.Data.Finset.Sort

namespace SecureChat.Database.Backup

open Library

/-- The name of an entry of the backup directory. -/
abbrev Name := List Char

def maxBackupFiles : Nat := 30

/-- A local time, with years since 1900 and months since January. A minute may have a leap second. -/
structure Tm where
  year : Int
  mon : Fin 12
  mday : Fin 32
  hour : Fin 24
  min : Fin 60
  sec : Fin 61
  deriving DecidableEq, Repr

/-- This is the `%0*d` conversion. -/
def formatPadded (width : Nat) (number : Int) : List Char :=
  if number < 0 then '-' :: zeroPadded (width - 1) number.natAbs else zeroPadded width number.natAbs

def namePrefix : Name := "securechat_backup_".toList

def nameSuffix : Name := ".db".toList

/-- The name inside the backup directory. -/
def generateBackupFilename (tm : Tm) : Name :=
  namePrefix ++ (formatPadded 4 (tm.year + 1900) ++ (formatPadded 2 (tm.mon.val + 1) ++
    (formatPadded 2 tm.mday.val ++ ('_' :: (formatPadded 2 tm.hour.val ++ (formatPadded 2 tm.min.val ++
      (formatPadded 2 tm.sec.val ++ nameSuffix)))))))

def dot : Name := ['.']

def dotDot : Name := ['.', '.']

/-- The files in the directory. -/
abbrev Directory := Finset Name

/-- The entries in the order of their names. -/
def scandir (directory : Directory) : List Name := (insert dot (insert dotDot directory)).sort

/-- The entries of the directory itself and of its parent stay. -/
def unlink (directory : Directory) (name : Name) : Directory :=
  if name = dot ∨ name = dotDot then directory else directory.erase name

def cleanupOldBackups (directory : Directory) : Directory :=
  let namelist := scandir directory
  if namelist.length > maxBackupFiles then
    (namelist.take (namelist.length - maxBackupFiles)).foldl unlink directory
  else directory

/-- The local time, whether the directory can be made when there is none, and whether the copy is complete.
A copy that fails may leave its file. -/
structure BackupCall where
  tm : Tm
  mkdir : Bool
  copied : Bool
  leaves : Bool
  deriving DecidableEq, Repr

def createBackupDir (directory : Option Directory) (mkdir : Bool) : Bool × Option Directory :=
  match directory with
  | some files => (true, some files)
  | none => if mkdir then (true, some ∅) else (false, none)

def databaseBackup (directory : Directory) (name : Name) (call : BackupCall) : Bool × Directory :=
  if call.copied then (true, insert name directory)
  else (false, if call.leaves then insert name directory else directory)

def databasePerformBackup (directory : Option Directory) (call : BackupCall) : Bool × Option Directory :=
  match createBackupDir directory call.mkdir with
  | (true, some files) =>
      let (success, files) := databaseBackup files (generateBackupFilename call.tm) call
      if success then (true, some (cleanupOldBackups files)) else (false, some files)
  | (_, directory) => (false, directory)

def backupMachine : Machine (Option Directory) BackupCall Bool where
  step directory call := ((databasePerformBackup directory call).2, [(databasePerformBackup directory call).1])

end SecureChat.Database.Backup
