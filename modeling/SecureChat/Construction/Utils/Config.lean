/-
This file holds the configuration of the server's utilities and its text form.
-/

import Mathlib.Data.List.DropRight
import SecureChat.Construction.Utils.HashTable
import SecureChat.Library.Buckets

namespace SecureChat.Utils
open Library

def newline : UInt8 := 0x0A
def blank : UInt8 := 0x20
def equalsSign : UInt8 := 0x3D
def semicolon : UInt8 := 0x3B
def numberSign : UInt8 := 0x23
def openBracket : UInt8 := 0x5B
def closeBracket : UInt8 := 0x5D

/-- The string that starts at a pointer to these bytes. -/
def cString (bytes : List UInt8) : CString :=
  ⟨bytes.takeWhile (· ≠ 0), fun member => by simpa using List.mem_takeWhile_imp member⟩

/-- The white space of the C locale. -/
def isspace (byte : UInt8) : Bool := byte = blank ∨ (0x09 ≤ byte ∧ byte ≤ 0x0D)

def utilsStrtrim (text : List UInt8) : List UInt8 := (text.dropWhile isspace).rdropWhile isspace

/-- What the calls of `strtok` return one after another. -/
def strtok (text : List UInt8) (delimiter : UInt8) : List (List UInt8) :=
  (text.splitOn delimiter).filter (· ≠ [])

/-- The hash table without its pointers. The table of strings is hashed with djb2. -/
abbrev StringTable (Value : Type) := Buckets CString Value

structure ConfigItem where
  key : CString
  value : CString
  deriving DecidableEq

structure ConfigSection where
  name : CString
  items : StringTable ConfigItem
  deriving DecidableEq

structure Config where
  sections : StringTable ConfigSection
  deriving DecidableEq

def configCreate : Config := ⟨Buckets.empty (tableSize 16)⟩

def Config.findSection (config : Config) (name : CString) : Option ConfigSection :=
  config.sections.lookup hashStringDjb2 name

def ConfigSection.findItem (found : ConfigSection) (key : CString) : Option ConfigItem :=
  found.items.lookup hashStringDjb2 key

/-- The loader and the setter both create a section that they do not find. -/
def Config.ensureSection (config : Config) (name : CString) : Config :=
  match config.findSection name with
  | some _ => config
  | none => ⟨config.sections.insert hashStringDjb2 name ⟨name, Buckets.empty (tableSize 16)⟩⟩

/-- The items of a section change behind the pointer that the table holds. -/
def Config.changeItems (config : Config) (name : CString)
    (change : StringTable ConfigItem → StringTable ConfigItem) : Config :=
  match config.findSection name with
  | none => config
  | some found => ⟨config.sections.insert hashStringDjb2 name { found with items := change found.items }⟩

/-- An item that is present keeps its key and gets another value. -/
def putItem (items : StringTable ConfigItem) (key value : CString) : StringTable ConfigItem :=
  match items.lookup hashStringDjb2 key with
  | some item => items.insert hashStringDjb2 key { item with value := value }
  | none => items.insert hashStringDjb2 key ⟨key, value⟩

/-- Null pointers are refused. The allocations succeed. -/
def configSetValue (config : Config) : Option CString → Option CString → Option CString → Config × Int
  | some sectionName, some key, some value =>
      let config := config.ensureSection sectionName
      (config.changeItems sectionName fun items => putItem items key value, 0)
  | _, _, _ => (config, -1)

def configGetValue (config : Config) : Option CString → Option CString → Option CString
  | some sectionName, some key =>
      (config.findSection sectionName).bind fun found => (found.findItem key).map ConfigItem.value
  | _, _ => none

def configRemoveKey (config : Config) : Option CString → Option CString → Config × Int
  | some sectionName, some key =>
      match config.findSection sectionName with
      | none => (config, -1)
      | some found =>
          match found.items.remove hashStringDjb2 key with
          | none => (config, -1)
          | some items => (config.changeItems sectionName fun _ => items, 0)
  | _, _ => (config, -1)

def configRemoveSection (config : Config) : Option CString → Config × Int
  | some sectionName =>
      match config.sections.remove hashStringDjb2 sectionName with
      | none => (config, -1)
      | some sections => (⟨sections⟩, 0)
  | none => (config, -1)

def ConfigItem.line (item : ConfigItem) : List UInt8 :=
  item.key.val ++ [blank, equalsSign, blank] ++ item.value.val

def ConfigSection.header (found : ConfigSection) : List UInt8 :=
  openBracket :: found.name.val ++ [closeBracket]

/-- A section is its header, a line for each item in the order of the buckets, and an empty line. -/
def ConfigSection.text (found : ConfigSection) : List UInt8 :=
  found.header ++ newline :: (found.items.entries.flatMap fun entry => entry.2.line ++ [newline]) ++ [newline]

/-- The bytes that `config_save_file` writes. -/
def configSaveFile (config : Config) : List UInt8 :=
  config.sections.entries.flatMap fun entry => entry.2.text

/-- The configuration under the loader and its pointer to the section of the last header. -/
structure ConfigLoader where
  config : Config
  currentSection : Option CString

/-- A line in brackets is a header, and other lines are items of the section in front of them. -/
def ConfigLoader.readLine (loader : ConfigLoader) (line : List UInt8) : ConfigLoader :=
  let trimmed := utilsStrtrim line
  if trimmed.head? = none ∨ trimmed.head? = some semicolon ∨ trimmed.head? = some numberSign then loader
  else if trimmed.head? = some openBracket ∧ trimmed.getLast? = some closeBracket then
    let sectionName := cString (trimmed.dropLast.drop 1)
    ⟨loader.config.ensureSection sectionName, some sectionName⟩
  else
    match loader.currentSection with
    | none => loader
    | some sectionName =>
        if equalsSign ∉ trimmed then loader else
        let key := cString (utilsStrtrim (trimmed.takeWhile (· ≠ equalsSign)))
        let value := cString (utilsStrtrim ((trimmed.dropWhile (· ≠ equalsSign)).drop 1))
        { loader with
          config := loader.config.changeItems sectionName fun items =>
            items.insert hashStringDjb2 key ⟨key, value⟩ }

/-- The loader stops at the end of the string. -/
def configLoadString (config : Config) (text : List UInt8) : Config × Int :=
  let loader := (strtok (cString text).val newline).foldl ConfigLoader.readLine ⟨config, none⟩
  (loader.config, 0)

/-- The calls that change a configuration. -/
inductive ConfigCall where
  | setValue (sectionName key value : Option CString)
  | removeKey (sectionName key : Option CString)
  | removeSection (sectionName : Option CString)
  deriving DecidableEq

def configMachine : Machine Config ConfigCall Int where
  step config call :=
    let (next, result) := match call with
      | .setValue sectionName key value => configSetValue config sectionName key value
      | .removeKey sectionName key => configRemoveKey config sectionName key
      | .removeSection sectionName => configRemoveSection config sectionName
    (next, [result])

end SecureChat.Utils
