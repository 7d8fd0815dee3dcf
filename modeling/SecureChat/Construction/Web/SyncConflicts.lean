/-
This file resolves the conflicts between the copies of the server and of the client, and merges two copies.
-/

import SecureChat.Library.JsValue
import SecureChat.Library.StableSort

namespace SecureChat.Web
open Library

/-- An object that is being merged: its own properties, and those that it has from a prototype that was set. -/
structure Merged where
  own : List (String × JsValue)
  inherited : List (String × JsValue)

/-- The functions that every object has from `Object.prototype`. -/
def prototypeFunctions : List String :=
  ["constructor", "__defineGetter__", "__defineSetter__", "hasOwnProperty", "__lookupGetter__", "__lookupSetter__",
    "isPrototypeOf", "propertyIsEnumerable", "toString", "valueOf", "toLocaleString"]

/-- The accessor of the prototype. -/
def prototypeKey : String := "__proto__"

/-- A property that is present keeps its place. -/
def setField (fields : List (String × JsValue)) (key : String) (value : JsValue) : List (String × JsValue) :=
  fields.map fun field => if field.1 = key then (key, value) else field

namespace SyncConflictResolver

/-- The items of the second array that are not in the first one follow. -/
def mergeItems (primary secondary : List JsValue) : List JsValue :=
  secondary.foldl (fun merged item => if merged.any (·.sameValueZero item) then merged else merged ++ [item]) primary

/-- The merge of two values. The last argument goes through the properties of the second value. -/
def mergeWith (address : JsValue → JsValue → Nat) (primary secondary : JsValue) (into : Merged → Merged) : JsValue :=
  if !primary.truthy || !secondary.truthy then
    if primary.truthy then primary else secondary
  else if primary.typeOf ≠ secondary.typeOf then primary
  else
    match primary, secondary with
    | .array _ first, .array _ second => .array (address primary secondary) (mergeItems first second)
    | _, _ =>
        if primary.isContainer then .object (address primary secondary) (into ⟨primary.fields, []⟩).own else primary

/-- One key of the second value. The test `key in merged` finds the properties of the prototypes, too. -/
def mergeKey (address : JsValue → JsValue → Nat) (merged : Merged) (key : String) (value : JsValue)
    (into : Merged → Merged) : Merged :=
  match merged.own.lookup key with
  | some current =>
      if current.isContainer then { merged with own := setField merged.own key (mergeWith address current value into) }
      else merged
  | none =>
      if key = prototypeKey then
        -- The merge of `Object.prototype`, which has no properties to copy, becomes the prototype.
        if value.isContainer then
          { merged with inherited := (into ⟨[], []⟩).own ++ (into ⟨[], []⟩).inherited }
        else merged
      else if key ∈ prototypeFunctions then merged
      else
        match merged.inherited.lookup key with
        | some current =>
            if current.isContainer then
              { merged with own := merged.own ++ [(key, mergeWith address current value into)] }
            else merged
        | none => { merged with own := merged.own ++ [(key, value)] }

variable (address : JsValue → JsValue → Nat)

mutual

/-- The loop over the keys of the second value. -/
def mergeInto (merged : Merged) : JsValue → Merged
  | .object _ fields => mergeFields merged fields
  | .array _ items => mergeIndices merged 0 items
  | _ => merged

def mergeFields (merged : Merged) : List (String × JsValue) → Merged
  | [] => merged
  | (key, value) :: rest => mergeFields (mergeKey address merged key value fun merged => mergeInto merged value) rest

def mergeIndices (merged : Merged) (index : Nat) : List JsValue → Merged
  | [] => merged
  | value :: rest =>
      mergeIndices (mergeKey address merged (toString index) value fun merged => mergeInto merged value) (index + 1) rest

end

/-- The addresses of the objects that a merge makes are arbitrary, and no merge compares them. -/
def mergeValues (primary secondary : JsValue) : JsValue :=
  mergeWith address primary secondary fun merged => mergeInto address merged secondary

/-- A copy is missing if it is not defined. -/
def mergeCopies : Option JsValue → Option JsValue → Option JsValue
  | some primary, some secondary => some (mergeValues address primary secondary)
  | some primary, none => if primary.truthy then some primary else none
  | none, secondary => secondary

end SyncConflictResolver

inductive ConflictResolutionStrategy where
  | serverWins | clientWins | newerWins | manual
  deriving DecidableEq, Repr

inductive ConflictType where
  | message | operation | device
  deriving DecidableEq, Repr

/-- The part of an operation that the rules read. -/
structure SyncOperation where
  entityType : String

structure SyncConflict where
  type : ConflictType
  operation : Option SyncOperation
  serverValue : Option JsValue
  clientValue : Option JsValue

/-- A condition can throw. -/
structure ConflictResolutionRule where
  priority : ExtendedNumber
  condition : SyncConflict → Except String Bool
  resolution : ConflictResolutionStrategy
  description : String

structure Resolution where
  resolution : ConflictResolutionStrategy
  resolvedValue : Option JsValue
  mergedValue : Option JsValue

structure SyncConflictResolver where
  rules : List ConflictResolutionRule
  manualResolutionCallback : Option (SyncConflict → Except String ConflictResolutionStrategy)

namespace SyncConflictResolver

/-- The expression `value?.key`. -/
def field (value : Option JsValue) (key : String) : Option JsValue := value.bind (·.get key)

def truthy (value : Option JsValue) : Bool := value.any JsValue.truthy

def priorityOf (number : Rat) : ExtendedNumber := (number : WithTop Rat)

def newerMessageRule : ConflictResolutionRule where
  priority := priorityOf 100
  condition conflict := .ok (conflict.type = .message && truthy (field conflict.serverValue "timestamp") &&
    truthy (field conflict.clientValue "timestamp"))
  resolution := .newerWins
  description := "Newer message timestamp wins"

def deletedMessageRule : ConflictResolutionRule where
  priority := priorityOf 90
  condition conflict := .ok (conflict.type = .message &&
    (truthy (field conflict.serverValue "deleted") || truthy (field conflict.clientValue "deleted")))
  resolution := .serverWins
  description := "Deleted messages take precedence"

def groupMessageRule : ConflictResolutionRule where
  priority := priorityOf 80
  condition conflict := .ok (conflict.type = .message && truthy (field conflict.serverValue "groupId") &&
    truthy (field conflict.clientValue "groupId"))
  resolution := .serverWins
  description := "Group messages: server version wins"

def localDraftRule : ConflictResolutionRule where
  priority := priorityOf 70
  condition conflict := .ok (conflict.type = .message &&
    match field conflict.clientValue "status" with
    | some (.string status) => status = "local_draft"
    | _ => false)
  resolution := .clientWins
  description := "Local drafts: client version wins"

def userOperationRule : ConflictResolutionRule where
  priority := priorityOf 60
  condition conflict := .ok (conflict.type = .operation && conflict.operation.any (·.entityType = "user"))
  resolution := .newerWins
  description := "User operations: newer wins"

/-- A new resolver with the default rules. -/
def initializeDefaultRules : SyncConflictResolver :=
  ⟨[newerMessageRule, deletedMessageRule, groupMessageRule, localDraftRule, userOperationRule], none⟩

/-- The rule with the highest priority comes first. -/
def sortKey (rule : ConflictResolutionRule) : ExtendedNumberᵒᵈ := OrderDual.toDual rule.priority

def addRule (resolver : SyncConflictResolver) (rule : ConflictResolutionRule) : SyncConflictResolver :=
  { resolver with rules := StableSort.byKey sortKey (resolver.rules ++ [rule]) }

def setManualResolutionCallback (resolver : SyncConflictResolver)
    (callback : SyncConflict → Except String ConflictResolutionStrategy) : SyncConflictResolver :=
  { resolver with manualResolutionCallback := some callback }

def extractTimestamp (value : Option JsValue) : JsValue :=
  if !truthy value then .number 0
  else
    let present := ["timestamp", "updatedAt", "createdAt", "lastModified"].filterMap (field value)
    (present.find? JsValue.truthy).getD (.number 0)

variable (address : JsValue → JsValue → Nat) (texts : JsValue → JsValue → Bool)

def applyRule (conflict : SyncConflict) (strategy : ConflictResolutionStrategy) : Except String Resolution :=
  let server := ⟨strategy, conflict.serverValue, mergeCopies address conflict.serverValue conflict.clientValue⟩
  let client := ⟨strategy, conflict.clientValue, mergeCopies address conflict.clientValue conflict.serverValue⟩
  match strategy with
  | .serverWins => .ok server
  | .clientWins => .ok client
  | .newerWins =>
      let serverTime := extractTimestamp conflict.serverValue
      let clientTime := extractTimestamp conflict.clientValue
      if clientTime.greater texts serverTime then .ok client else .ok server
  | .manual => .error "Manual resolution should have been handled earlier"

/-- The callback is asked if no rule applies, or if the rule asks for a manual resolution. -/
def resolve (resolver : SyncConflictResolver) (conflict : SyncConflict) : Except String Resolution := do
  let applicableRule ← resolver.rules.findM? fun rule => rule.condition conflict
  match applicableRule.filter (·.resolution ≠ .manual) with
  | some rule => applyRule address texts conflict rule.resolution
  | none =>
      match resolver.manualResolutionCallback with
      | none => applyRule address texts conflict .serverWins
      | some callback =>
          match (callback conflict).bind (applyRule address texts conflict) with
          | .ok resolution => .ok resolution
          | .error _ => applyRule address texts conflict .serverWins

end SyncConflictResolver

end SecureChat.Web
