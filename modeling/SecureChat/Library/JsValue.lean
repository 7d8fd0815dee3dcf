import SecureChat.Library.Text
import Mathlib.Data.List.Nodup
import Mathlib.Order.WithBot
import Mathlib.Algebra.Order.Ring.Unbundled.Rat

namespace SecureChat.Library

/-- The numbers of JavaScript but for NaN. -/
abbrev ExtendedNumber := WithBot (WithTop Rat)

/-- A value of JavaScript without functions. Each array and object has an address, and the finite numbers are exact. -/
inductive JsValue where
  | null
  | bool (value : Bool)
  | nan
  | infinity (negative : Bool)
  | number (value : Rat)
  | bigint (value : Int)
  | string (value : String)
  | array (address : Nat) (items : List JsValue)
  | object (address : Nat) (fields : List (String × JsValue))

namespace JsValue

inductive TypeName where
  | object | boolean | number | bigint | string
  deriving DecidableEq, Repr

def typeOf : JsValue → TypeName
  | null => .object
  | bool _ => .boolean
  | nan => .number
  | infinity _ => .number
  | number _ => .number
  | bigint _ => .bigint
  | string _ => .string
  | array _ _ => .object
  | object _ _ => .object

def truthy : JsValue → Bool
  | null => false
  | bool value => value
  | nan => false
  | infinity _ => true
  | number value => value ≠ 0
  | bigint value => value ≠ 0
  | string value => value ≠ ""
  | array _ _ => true
  | object _ _ => true

/-- A value of the type `object` that is not `null`. -/
def isContainer : JsValue → Bool
  | array _ _ => true
  | object _ _ => true
  | _ => false

/-- The comparison of `includes`: objects are the same if they are one object. -/
def sameValueZero : JsValue → JsValue → Bool
  | null, null => true
  | bool first, bool second => first = second
  | nan, nan => true
  | infinity first, infinity second => first = second
  | number first, number second => first = second
  | bigint first, bigint second => first = second
  | string first, string second => first = second
  | array first _, array second _ => first = second
  | object first _, object second _ => first = second
  | _, _ => false

/-- The number that a comparison reads in a value that is no text, array or object. -/
def numeric : JsValue → Option ExtendedNumber
  | null => some ((0 : Rat) : WithTop Rat)
  | bool value => some (((if value then 1 else 0) : Rat) : WithTop Rat)
  | infinity negative => some (if negative then ⊥ else (⊤ : WithTop Rat))
  | number value => some (value : WithTop Rat)
  | bigint value => some ((value : Rat) : WithTop Rat)
  | _ => none

def isText : JsValue → Bool
  | string _ => true
  | array _ _ => true
  | object _ _ => true
  | _ => false

/-- The comparison `first > second`. The first argument compares where a value is a text or is turned into one. -/
def greater (texts : JsValue → JsValue → Bool) (first second : JsValue) : Bool :=
  if first.isText || second.isText then texts first second
  else match first.numeric, second.numeric with
    | some first, some second => second < first
    | _, _ => false

/-- The own properties, which `Object.keys` and the spread syntax go through. -/
def fields : JsValue → List (String × JsValue)
  | array _ items => items.zipIdx.map fun item => (toString item.2, item.1)
  | object _ fields => fields
  | _ => []

def get (value : JsValue) (key : String) : Option JsValue := value.fields.lookup key

/-- The value that several keys lead to. -/
def follow (value : JsValue) : List String → Option JsValue
  | [] => some value
  | key :: path => (value.get key).bind fun next => next.follow path

theorem follow_append (value : JsValue) (path : List String) (key : String) :
    value.follow (path ++ [key]) = (value.follow path).bind fun next => next.get key := by
  induction path generalizing value with
  | nil =>
      change (value.get key).bind some = value.get key
      exact Option.bind_fun_some _
  | cons name path ih =>
      cases found : value.get name with
      | none => simp [follow, found]
      | some next => simpa [follow, found] using ih next

theorem isContainer_of_follow {value next : JsValue} {path : List String} (reached : value.follow path = some next)
    (container : next.isContainer = true) : value.isContainer = true := by
  cases path with
  | nil => rwa [Option.some.inj reached]
  | cons key path =>
      cases value with
      | array => rfl
      | object => rfl
      | _ => exact absurd reached (by simp [follow, get, fields])

theorem truthy_of_container {value : JsValue} (container : value.isContainer = true) : value.truthy = true := by
  cases value <;> first | rfl | exact absurd container Bool.false_ne_true

theorem fields_of_scalar {value : JsValue} (scalar : value.isContainer = false) : value.fields = [] := by
  cases value <;> first | rfl | exact Bool.noConfusion scalar

theorem get_of_scalar {value : JsValue} (scalar : value.isContainer = false) (key : String) : value.get key = none := by
  rw [get, fields_of_scalar scalar, List.lookup_nil]

/-- What one value shows without the values in it. -/
inductive Shape where
  | null | nan | array | object
  | bool (value : Bool)
  | infinity (negative : Bool)
  | number (value : Rat)
  | bigint (value : Int)
  | string (value : String)
  deriving DecidableEq

def shape : JsValue → Shape
  | null => .null
  | bool value => .bool value
  | nan => .nan
  | infinity negative => .infinity negative
  | number value => .number value
  | bigint value => .bigint value
  | string value => .string value
  | array _ _ => .array
  | object _ _ => .object

/-- The same values are at the same keys. Neither addresses nor the order of keys count. -/
def Same (first second : JsValue) : Prop := ∀ path, (first.follow path).map shape = (second.follow path).map shape

/-- Every value before the end of the path is an object and not an array. -/
def ThroughObjects (value : JsValue) : List String → Prop
  | [] => True
  | key :: path => value.shape = .object ∧ ∀ next, value.get key = some next → next.ThroughObjects path

theorem isContainer_of_shape {value : JsValue} (object : value.shape = .object) : value.isContainer = true := by
  cases value <;> first | rfl | exact absurd object (by simp [shape])

/-- No object in the value has a key twice. -/
def DistinctKeys (value : JsValue) : Prop :=
  ∀ path address fields, value.follow path = some (object address fields) → (fields.map Prod.fst).Nodup

theorem DistinctKeys.child {value child : JsValue} {key : String} (distinct : value.DistinctKeys)
    (found : value.get key = some child) : child.DistinctKeys := by
  intro path address fields reached
  apply distinct (key :: path) address fields
  change (value.get key).bind _ = _
  rw [found]
  exact reached

theorem DistinctKeys.at_path {value next : JsValue} {path : List String} (distinct : value.DistinctKeys)
    (reached : value.follow path = some next) : next.DistinctKeys := by
  induction path generalizing value with
  | nil => rwa [← Option.some.inj reached]
  | cons key path ih =>
      obtain ⟨child, present, reached⟩ := Option.bind_eq_some_iff.mp reached
      exact ih (distinct.child present) reached

theorem DistinctKeys.of_fields {value : JsValue} (nodup : (value.fields.map Prod.fst).Nodup)
    (inside : ∀ field ∈ value.fields, field.2.DistinctKeys) : value.DistinctKeys := by
  intro path address fields reached
  cases path with
  | nil =>
      rw [Option.some.inj reached] at nodup
      exact nodup
  | cons key path =>
      obtain ⟨child, present, reached⟩ := Option.bind_eq_some_iff.mp reached
      obtain ⟨front, rest, split, _⟩ := List.lookup_eq_some_iff.mp present
      have member : (key, child) ∈ value.fields := by simp [split]
      exact inside (key, child) member path address fields reached

theorem toString_injective : Function.Injective (toString : Nat → String) := by
  intro first second same
  have digits : first.repr.toList = second.repr.toList := congrArg String.toList same
  rw [Nat.toList_repr, Nat.toList_repr] at digits
  exact toDigits_injective digits

/-- The keys of an array are its indices. -/
theorem DistinctKeys.fields_nodup {value : JsValue} (distinct : value.DistinctKeys) :
    (value.fields.map Prod.fst).Nodup := by
  cases value with
  | object address fields => exact distinct [] address fields rfl
  | array address items =>
      have indices : ((array address items).fields.map Prod.fst) = (items.zipIdx.map Prod.snd).map toString := by
        simp only [fields, List.map_map]
        rfl
      rw [indices]
      apply List.Nodup.map toString_injective
      rw [List.zipIdx_map_snd]
      exact List.nodup_range'
  | _ => exact List.nodup_nil

end JsValue

/-- A finite value, as the parser of JSON makes it. -/
structure ParsedValue where
  value : JsValue
  distinct : value.DistinctKeys

end SecureChat.Library
