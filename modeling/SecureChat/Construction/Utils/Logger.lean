/-
This file holds the rotation of the log files.
-/

import SecureChat.Library.Files
import SecureChat.Library.Text

namespace SecureChat.Utils
open Library

abbrev LogPath := List Char

/-- The files by their paths. -/
abbrev LogFiles := LogPath → Option (List UInt8)

/-- The fields of the logger that a rotation reads. -/
structure Logger where
  filePath : Option LogPath
  maxFileSize : UInt64
  maxBackups : Int

/-- The size of `old_path` and of `new_path`. -/
def logPathSize : Nat := 256

def oldLogPath (filePath : LogPath) (i : Nat) : LogPath :=
  if i = 1 then cutTo logPathSize filePath else cutTo logPathSize (filePath ++ '.' :: decimal (i - 1))

def newLogPath (filePath : LogPath) (i : Nat) : LogPath := cutTo logPathSize (filePath ++ '.' :: decimal i)

/-- The loop counts down to one. -/
def rotateBackups (filePath : LogPath) : Nat → LogFiles → LogFiles
  | 0, files => files
  | i + 1, files => rotateBackups filePath i (rename files (oldLogPath filePath (i + 1)) (newLogPath filePath (i + 1)))

def loggerRotate (logger : Logger) (files : LogFiles) : LogFiles :=
  match logger.filePath with
  | none => files
  | some filePath =>
      match files filePath with
      | none => files
      | some content =>
          if UInt64.ofNat content.length < logger.maxFileSize then files
          else rotateBackups filePath logger.maxBackups.toNat files

end SecureChat.Utils
