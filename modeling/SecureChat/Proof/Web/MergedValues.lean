import SecureChat.Construction.Web.SyncConflicts

namespace SecureChat.Web.SyncConflictResolver
open Library JsValue

theorem setField_lookup (fields : List (String × JsValue)) {key : String} {current : JsValue}
    (present : fields.lookup key = some current) (value : JsValue) :
    (setField fields key value).lookup key = some value := by
  induction fields with
  | nil => exact absurd present (by simp)
  | cons field rest ih =>
      by_cases here : field.1 = key
      · rw [setField, List.map_cons, if_pos here, List.lookup_cons_self]
      · have elsewhere : (key == field.1) = false := beq_false_of_ne (Ne.symm here)
        rw [List.lookup_cons, elsewhere] at present
        rw [setField, List.map_cons, if_neg here, List.lookup_cons, elsewhere]
        exact ih present

theorem setField_lookup_ne (fields : List (String × JsValue)) {key other : String} (different : other ≠ key)
    (value : JsValue) : (setField fields key value).lookup other = fields.lookup other := by
  have unlike : (other == key) = false := beq_false_of_ne different
  induction fields with
  | nil => rfl
  | cons field rest ih =>
      have later : (rest.map fun field => if field.1 = key then (key, value) else field).lookup other =
          rest.lookup other := ih
      by_cases here : field.1 = key
      · rw [setField, List.map_cons, if_pos here, List.lookup_cons, List.lookup_cons, here, unlike, later]
      · rw [setField, List.map_cons, if_neg here, List.lookup_cons, List.lookup_cons, later]

theorem lookup_of_fresh {fields : List (String × JsValue)} {key : String} (fresh : key ∉ fields.map Prod.fst) :
    fields.lookup key = none := by
  rw [List.lookup_eq_none_iff]
  intro field member
  exact bne_iff_ne.mpr fun same => fresh (List.mem_map.mpr ⟨field, member, same.symm⟩)

/-- Every object has these keys before any is set. -/
def Builtin (key : String) : Prop := key = prototypeKey ∨ key ∈ prototypeFunctions

variable (address : JsValue → JsValue → Nat)

theorem mergeKey_lookup_ne (merged : Merged) {key other : String} (different : other ≠ key) (value : JsValue)
    (into : Merged → Merged) :
    (mergeKey address merged key value into).own.lookup other = merged.own.lookup other := by
  have unlike : (other == key) = false := beq_false_of_ne different
  have appended (last : JsValue) : (merged.own ++ [(key, last)]).lookup other = merged.own.lookup other := by
    rw [List.lookup_append, List.lookup_cons, unlike]
    exact Option.or_none
  unfold mergeKey
  split
  · split
    · exact setField_lookup_ne _ different _
    · rfl
  · split
    · split <;> rfl
    · split
      · rfl
      · split
        · split
          · exact appended _
          · rfl
        · exact appended _

/-- A key that the first object has keeps a scalar, and its array or object is merged. -/
theorem mergeKey_present (merged : Merged) {key : String} {current : JsValue}
    (present : merged.own.lookup key = some current) (value : JsValue) (into : Merged → Merged) :
    (mergeKey address merged key value into).own.lookup key =
      some (if current.isContainer then mergeWith address current value into else current) := by
  unfold mergeKey
  rw [present]
  dsimp only
  split
  · exact setField_lookup _ present _
  · exact present

theorem mergeKey_builtin (merged : Merged) {key : String} (absent : merged.own.lookup key = none)
    (builtin : Builtin key) (value : JsValue) (into : Merged → Merged) :
    (mergeKey address merged key value into).own = merged.own := by
  unfold mergeKey
  rw [absent]
  dsimp only
  rcases builtin with accessor | inherited
  · rw [if_pos accessor]
    split <;> rfl
  · split
    · split <;> rfl
    · rfl

theorem mergeKey_added (merged : Merged) {key : String} (absent : merged.own.lookup key = none)
    (plain : ¬Builtin key) (noPrototype : merged.inherited = []) (value : JsValue) (into : Merged → Merged) :
    mergeKey address merged key value into = { merged with own := merged.own ++ [(key, value)] } := by
  have others := not_or.mp plain
  unfold mergeKey
  rw [absent, noPrototype]
  dsimp only
  rw [if_neg others.1, if_neg others.2]
  rfl

theorem mergeKey_noPrototype (merged : Merged) {key : String} (known : merged.own.lookup key = none → ¬Builtin key)
    (noPrototype : merged.inherited = []) (value : JsValue) (into : Merged → Merged) :
    (mergeKey address merged key value into).inherited = [] := by
  cases present : merged.own.lookup key with
  | none => rw [mergeKey_added address merged present (known present) noPrototype]; exact noPrototype
  | some current =>
      unfold mergeKey
      rw [present]
      dsimp only
      split <;> exact noPrototype

/-- The value of a key after its merge with the value of the same key, if there is one. -/
def mergedChild (current : JsValue) : Option JsValue → JsValue
  | some value => if current.isContainer then mergeValues address current value else current
  | none => current

theorem mergeFields_present (fields : List (String × JsValue)) (distinct : (fields.map Prod.fst).Nodup)
    (merged : Merged) {key : String} {current : JsValue} (present : merged.own.lookup key = some current) :
    (mergeFields address merged fields).own.lookup key = some (mergedChild address current (fields.lookup key)) := by
  induction fields generalizing merged current with
  | nil => exact present
  | cons field rest ih =>
      obtain ⟨name, value⟩ := field
      obtain ⟨fresh, apart⟩ := List.nodup_cons.mp distinct
      by_cases here : key = name
      · subst here
        have gone := lookup_of_fresh fresh
        rw [mergeFields, ih apart _ (mergeKey_present address merged present value _), gone,
          List.lookup_cons_self]
        rfl
      · rw [mergeFields, ih apart _ ((mergeKey_lookup_ne address merged here value _).trans present),
          List.lookup_cons, beq_false_of_ne here]

theorem mergeFields_builtin (fields : List (String × JsValue)) (merged : Merged) {key : String}
    (absent : merged.own.lookup key = none) (builtin : Builtin key) :
    (mergeFields address merged fields).own.lookup key = none := by
  induction fields generalizing merged with
  | nil => exact absent
  | cons field rest ih =>
      apply ih
      by_cases here : key = field.1
      · rw [mergeKey_builtin address merged (here ▸ absent) (here ▸ builtin)]
        exact absent
      · rw [mergeKey_lookup_ne address merged here]
        exact absent

theorem mergeFields_absent (fields : List (String × JsValue)) (distinct : (fields.map Prod.fst).Nodup)
    (merged : Merged) (known : ∀ field ∈ fields, merged.own.lookup field.1 = none → ¬Builtin field.1)
    (noPrototype : merged.inherited = []) {key : String} (absent : merged.own.lookup key = none) :
    (mergeFields address merged fields).own.lookup key = fields.lookup key := by
  induction fields generalizing merged with
  | nil => exact absent
  | cons field rest ih =>
      obtain ⟨name, value⟩ := field
      obtain ⟨fresh, apart⟩ := List.nodup_cons.mp distinct
      obtain ⟨plain, known⟩ := List.forall_mem_cons.mp known
      have later : ∀ field ∈ rest, (mergeKey address merged name value fun merged => mergeInto address merged value).own.lookup
          field.1 = none → ¬Builtin field.1 := by
        intro field member missing
        have other : field.1 ≠ name := fun same => fresh (List.mem_map.mpr ⟨field, member, same⟩)
        rw [mergeKey_lookup_ne address merged other] at missing
        exact known field member missing
      have noPrototype' := mergeKey_noPrototype address merged plain noPrototype value fun merged =>
        mergeInto address merged value
      by_cases here : key = name
      · subst here
        have gone := lookup_of_fresh fresh
        have added := mergeKey_added address merged absent (plain absent) noPrototype value fun merged =>
          mergeInto address merged value
        have found : (merged.own ++ [(key, value)]).lookup key = some value := by
          rw [List.lookup_append, absent, List.lookup_cons_self]
          rfl
        rw [mergeFields, added, mergeFields_present address rest apart _ found, gone, List.lookup_cons_self]
        rfl
      · rw [mergeFields, ih apart _ later noPrototype' ((mergeKey_lookup_ne address merged here value _).trans absent),
          List.lookup_cons, beq_false_of_ne here]

theorem mergeIndices_eq (items : List JsValue) (merged : Merged) (index : Nat) :
    mergeIndices address merged index items =
      mergeFields address merged ((items.zipIdx index).map fun item => (toString item.2, item.1)) := by
  induction items generalizing merged index with
  | nil => rfl
  | cons value rest ih =>
      rw [mergeIndices, ih]
      rfl

theorem mergeInto_eq (merged : Merged) (value : JsValue) :
    mergeInto address merged value = mergeFields address merged value.fields := by
  cases value with
  | array place items => exact mergeIndices_eq address items merged 0
  | _ => rfl

theorem mergeValues_falsy {primary : JsValue} (falsy : primary.truthy = false) (secondary : JsValue) :
    mergeValues address primary secondary = secondary := by
  simp [mergeValues, mergeWith, falsy]

/-- A container is merged with a container only. -/
theorem mergeValues_kept {primary secondary : JsValue} (truthy : primary.truthy = true)
    (scalar : primary.isContainer = false ∨ secondary.isContainer = false) :
    mergeValues address primary secondary = primary := by
  cases primary <;> cases secondary <;> simp_all [mergeValues, mergeWith, isContainer, typeOf, JsValue.truthy]

theorem mergeValues_arrays (place place' : Nat) (items items' : List JsValue) :
    mergeValues address (.array place items) (.array place' items') =
      .array (address (.array place items) (.array place' items')) (mergeItems items items') := rfl

theorem mergeValues_containers {primary secondary : JsValue} (container : primary.isContainer = true)
    (container' : secondary.isContainer = true) (object : primary.shape = .object ∨ secondary.shape = .object) :
    mergeValues address primary secondary =
      .object (address primary secondary) (mergeFields address ⟨primary.fields, []⟩ secondary.fields).own := by
  rw [← mergeInto_eq]
  cases primary <;> cases secondary <;> simp_all [isContainer, shape] <;> rfl

theorem mergeValues_isContainer {primary : JsValue} (container : primary.isContainer = true) (secondary : JsValue) :
    (mergeValues address primary secondary).isContainer = true := by
  by_cases scalar : secondary.isContainer = false
  · rwa [mergeValues_kept address (truthy_of_container container) (.inr scalar)]
  · rw [Bool.not_eq_false] at scalar
    by_cases object : primary.shape = .object ∨ secondary.shape = .object
    · rw [mergeValues_containers address container scalar object]
      rfl
    · cases primary <;> cases secondary <;> simp_all [isContainer, shape]
      rfl

theorem sameValueZero_refl (value : JsValue) : value.sameValueZero value = true := by
  cases value <;> simp [sameValueZero]

theorem mergeItems_front (primary secondary : List JsValue) : primary <+: mergeItems primary secondary := by
  induction secondary generalizing primary with
  | nil => exact List.prefix_rfl
  | cons item rest ih =>
      unfold mergeItems
      rw [List.foldl_cons]
      split
      · exact ih primary
      · exact (List.prefix_append primary [item]).trans (ih (primary ++ [item]))

theorem mergeItems_of_included (primary secondary : List JsValue)
    (included : ∀ item ∈ secondary, ∃ other ∈ primary, other.sameValueZero item = true) :
    mergeItems primary secondary = primary := by
  induction secondary with
  | nil => rfl
  | cons item rest ih =>
      obtain ⟨here, later⟩ := List.forall_mem_cons.mp included
      have known : primary.any (·.sameValueZero item) = true := List.any_eq_true.mpr here
      unfold mergeItems
      rw [List.foldl_cons, if_pos known]
      exact ih later

theorem mergeItems_included (primary secondary : List JsValue) :
    ∀ item ∈ secondary, ∃ other ∈ mergeItems primary secondary, other.sameValueZero item = true := by
  induction secondary generalizing primary with
  | nil => simp
  | cons item rest ih =>
      have here : ∃ other ∈ (if primary.any (·.sameValueZero item) then primary else primary ++ [item]),
          other.sameValueZero item = true := by
        split
        · rename_i known
          exact List.any_eq_true.mp known
        · exact ⟨item, by simp, sameValueZero_refl item⟩
      rw [List.forall_mem_cons]
      constructor
      · obtain ⟨other, member, same⟩ := here
        exact ⟨other, (mergeItems_front _ rest).subset member, same⟩
      · exact ih _

theorem array_get_of_front {items more : List JsValue} (front : items <+: more) {place place' : Nat} {key : String}
    {value : JsValue} (found : (array place items).get key = some value) : (array place' more).get key = some value := by
  obtain ⟨rest, rfl⟩ := front
  unfold JsValue.get at found ⊢
  rw [fields, List.zipIdx_append, List.map_append, List.lookup_append]
  exact Option.or_eq_some_iff.mpr (.inl found)

/-- A merge into an object has the keys that the loop over the other fields leaves. -/
theorem mergeValues_lookup {primary : JsValue} (object : primary.shape = .object) (secondary : JsValue) (key : String) :
    (mergeValues address primary secondary).get key =
      (mergeFields address ⟨primary.fields, []⟩ secondary.fields).own.lookup key := by
  have container := isContainer_of_shape object
  cases container' : secondary.isContainer with
  | false =>
      rw [mergeValues_kept address (truthy_of_container container) (.inr container'), fields_of_scalar container']
      rfl
  | true =>
      rw [mergeValues_containers address container container' (.inl object)]
      rfl

/-- The value at a key of the first object. -/
theorem mergeValues_get {primary secondary : JsValue} (object : primary.shape = .object)
    (distinct : secondary.DistinctKeys) {key : String} {current : JsValue}
    (present : primary.get key = some current) :
    (mergeValues address primary secondary).get key = some (mergedChild address current (secondary.get key)) := by
  rw [mergeValues_lookup address object]
  exact mergeFields_present address secondary.fields distinct.fields_nodup ⟨primary.fields, []⟩ present

theorem mergeValues_get_builtin {primary : JsValue} (object : primary.shape = .object) (secondary : JsValue)
    {key : String} (absent : primary.get key = none) (builtin : Builtin key) :
    (mergeValues address primary secondary).get key = none := by
  rw [mergeValues_lookup address object]
  exact mergeFields_builtin address secondary.fields ⟨primary.fields, []⟩ absent builtin

theorem mergeValues_get_added {primary secondary : JsValue} (object : primary.shape = .object)
    (distinct : secondary.DistinctKeys)
    (names : ∀ key, primary.get key = none → (secondary.get key).isSome → ¬Builtin key) {key : String}
    (absent : primary.get key = none) :
    (mergeValues address primary secondary).get key = secondary.get key := by
  rw [mergeValues_lookup address object]
  apply mergeFields_absent address secondary.fields distinct.fields_nodup ⟨primary.fields, []⟩ _ rfl absent
  intro field member missing
  apply names field.1 missing
  exact List.lookup_isSome_iff.mpr ⟨field, member, beq_self_eq_true _⟩

theorem mergeValues_shape {primary : JsValue} (object : primary.shape = .object) (secondary : JsValue) :
    (mergeValues address primary secondary).shape = .object := by
  have container := isContainer_of_shape object
  cases container' : secondary.isContainer with
  | false => rwa [mergeValues_kept address (truthy_of_container container) (.inr container')]
  | true =>
      rw [mergeValues_containers address container container' (.inl object)]
      rfl

/-- An array becomes an object when it is merged with one. -/
theorem mergeValues_array_shape {primary : JsValue} (array : primary.shape = .array) (secondary : JsValue) :
    (mergeValues address primary secondary).shape = .array ↔ secondary.shape ≠ .object := by
  cases primary <;> cases secondary <;>
    simp_all [shape, mergeValues, mergeWith, JsValue.truthy, typeOf, isContainer]

/-- What merging should do. The first value is the primary copy. -/
structure MergeLaws (primary secondary : JsValue) : Prop where
  keys : ∀ path, (primary.follow path).isSome → ((mergeValues address primary secondary).follow path).isSome
  scalars : ∀ path scalar, primary.follow path = some scalar → scalar.isContainer = false →
    (mergeValues address primary secondary).follow path = some scalar
  arrays : ∀ path, (primary.follow path).map shape = some .array →
    ((mergeValues address primary secondary).follow path).map shape = some .array
  added : ∀ path key value, primary.ThroughObjects path → (primary.follow path).map shape = some .object →
    primary.follow (path ++ [key]) = none → secondary.follow (path ++ [key]) = some value →
      (mergeValues address primary secondary).follow (path ++ [key]) = some value
  itself : (mergeValues address primary primary).Same primary
  twice : (mergeValues address (mergeValues address primary secondary) secondary).Same
    (mergeValues address primary secondary)

/-- The copies for which the laws hold. -/
structure Mergeable (primary secondary : JsValue) : Prop where
  root : primary.truthy = false → secondary = primary
  arrays : ∀ path, primary.ThroughObjects path → (primary.follow path).map shape = some .array →
    (secondary.follow path).map shape ≠ some .object
  names : ∀ path key, primary.ThroughObjects path → (primary.follow path).map shape = some .object →
    primary.follow (path ++ [key]) = none → (secondary.follow (path ++ [key])).isSome → ¬Builtin key

theorem mergedChild_container {current : JsValue} (container : current.isContainer = true) (value : JsValue) :
    mergedChild address current (some value) = mergeValues address current value := if_pos container

theorem mergedChild_scalar {current : JsValue} (scalar : current.isContainer = false) (other : Option JsValue) :
    mergedChild address current other = current := by
  cases other with
  | none => rfl
  | some value =>
      rw [mergedChild, scalar]
      rfl

/-- Along objects the merge of two values holds the merges of the values in them. -/
theorem mergeValues_follow {primary secondary : JsValue} (distinct : secondary.DistinctKeys) {path : List String}
    (through : primary.ThroughObjects path) {first second : JsValue} (reached : primary.follow path = some first)
    (reached' : secondary.follow path = some second) (container : first.isContainer = true) :
    (mergeValues address primary secondary).follow path = some (mergeValues address first second) := by
  induction path generalizing primary secondary with
  | nil =>
      rw [← Option.some.inj reached, ← Option.some.inj reached']
      rfl
  | cons key path ih =>
      obtain ⟨object, through⟩ := through
      obtain ⟨child, present, reached⟩ := Option.bind_eq_some_iff.mp reached
      obtain ⟨child', present', reached'⟩ := Option.bind_eq_some_iff.mp reached'
      have merged := mergeValues_get address object distinct present
      rw [present', mergedChild_container address (isContainer_of_follow reached container)] at merged
      rw [follow, merged]
      exact ih (distinct.child present') (through child present) reached reached'

theorem mergeItems_self (items : List JsValue) : mergeItems items items = items :=
  mergeItems_of_included items items fun item member => ⟨item, member, sameValueZero_refl item⟩

theorem mergeValues_scalar {value : JsValue} (scalar : value.isContainer = false) :
    mergeValues address value value = value := by
  cases truthy : value.truthy with
  | false => exact mergeValues_falsy address truthy value
  | true => exact mergeValues_kept address truthy (.inl scalar)

theorem mergeValues_itself {value : JsValue} (distinct : value.DistinctKeys) :
    (mergeValues address value value).Same value := by
  intro path
  induction path generalizing value with
  | nil =>
      cases value with
      | array place items => rfl
      | object place fields => rfl
      | _ => rw [mergeValues_scalar address rfl]
  | cons key path ih =>
      cases value with
      | array place items =>
          rw [mergeValues_arrays, mergeItems_self]
          rfl
      | object place fields =>
          have object : (JsValue.object place fields).shape = .object := rfl
          have names : ∀ key, (JsValue.object place fields).get key = none →
              ((JsValue.object place fields).get key).isSome → ¬Builtin key := by
            intro key absent present
            rw [absent] at present
            exact absurd present Bool.false_ne_true
          rw [follow, follow]
          cases present : (JsValue.object place fields).get key with
          | none => rw [mergeValues_get_added address object distinct names present, present]
          | some child =>
              rw [mergeValues_get address object distinct present, present]
              cases nested : child.isContainer with
              | false => rw [mergedChild_scalar address nested]
              | true =>
                  rw [mergedChild_container address nested]
                  exact ih (distinct.child present)
      | _ => rw [mergeValues_scalar address rfl]

theorem Mergeable.child {primary secondary child child' : JsValue} (mergeable : Mergeable primary secondary)
    (object : primary.shape = .object) {key : String} (present : primary.get key = some child)
    (present' : secondary.get key = some child') (container : child.isContainer = true) : Mergeable child child' := by
  have through {path : List String} (deeper : child.ThroughObjects path) : primary.ThroughObjects (key :: path) := by
    refine ⟨object, fun next found => ?_⟩
    rw [present] at found
    rwa [← Option.some.inj found]
  have along (path : List String) : primary.follow (key :: path) = child.follow path := by
    rw [follow, present, Option.bind_some]
  have along' (path : List String) : secondary.follow (key :: path) = child'.follow path := by
    rw [follow, present', Option.bind_some]
  constructor
  · intro falsy
    rw [truthy_of_container container] at falsy
    exact Bool.noConfusion falsy
  · intro path deeper array
    rw [← along']
    rw [← along] at array
    exact mergeable.arrays (key :: path) (through deeper) array
  · intro path name deeper shaped
    have inside := mergeable.names (key :: path) name (through deeper)
    rw [List.cons_append, along, along, along'] at inside
    exact inside shaped

/-- Two objects that are merged bring no name that every object has. -/
theorem Mergeable.children {primary secondary : JsValue} (mergeable : Mergeable primary secondary)
    (object : primary.shape = .object) (key : String) (absent : primary.get key = none)
    (present : (secondary.get key).isSome) : ¬Builtin key := by
  have along (value : JsValue) : value.follow ([] ++ [key]) = value.get key := by
    rw [follow_append]
    rfl
  have inside := mergeable.names [] key trivial (congrArg some object)
  rw [along, along] at inside
  exact inside absent present

theorem Mergeable.items {primary secondary : JsValue} (mergeable : Mergeable primary secondary)
    (array : primary.shape = .array) : secondary.shape ≠ .object := by
  have kept := mergeable.arrays [] trivial (congrArg some array)
  exact fun object => kept (congrArg some object)

theorem mergeValues_array_get {primary secondary : JsValue} (array : primary.shape = .array)
    (kept : secondary.shape ≠ .object) {key : String} {value : JsValue} (present : primary.get key = some value) :
    (mergeValues address primary secondary).get key = some value := by
  cases primary with
  | array place items =>
      cases secondary with
      | array place' items' => exact array_get_of_front (mergeItems_front items items') present
      | object => exact absurd rfl kept
      | _ => rwa [mergeValues_kept address rfl (.inr rfl)]
  | _ => exact absurd array (by simp [shape])

/-- What is at a path of the primary copy stays, or is an array or object that is merged. -/
theorem mergeValues_keeps {primary secondary : JsValue} (truthy : primary.truthy = true)
    (distinct : secondary.DistinctKeys) (mergeable : Mergeable primary secondary) {path : List String} {value : JsValue}
    (reached : primary.follow path = some value) :
    ∃ kept, (mergeValues address primary secondary).follow path = some kept ∧
      (kept = value ∨ value.isContainer = true ∧
        ∃ other, kept = mergeValues address value other ∧ (value.shape = .array → other.shape ≠ .object)) := by
  induction path generalizing primary secondary with
  | nil =>
      rw [← Option.some.inj reached]
      refine ⟨_, rfl, ?_⟩
      cases container : primary.isContainer with
      | false => exact .inl (mergeValues_kept address truthy (.inl container))
      | true => exact .inr ⟨rfl, secondary, rfl, mergeable.items⟩
  | cons key path ih =>
      obtain ⟨child, present, reached⟩ := Option.bind_eq_some_iff.mp reached
      have unchanged (merged : JsValue) (found : merged.get key = some child) : merged.follow (key :: path) = some value := by
        rw [follow, found]
        exact reached
      by_cases array : primary.shape = .array
      · exact ⟨value, unchanged _ (mergeValues_array_get address array (mergeable.items array) present), .inl rfl⟩
      · have object : primary.shape = .object := by
          cases primary with
          | array => exact absurd rfl array
          | object => rfl
          | _ => exact absurd present (by simp [JsValue.get, fields])
        have merged := mergeValues_get address object distinct present
        cases nested : child.isContainer with
        | false =>
            rw [mergedChild_scalar address nested] at merged
            exact ⟨value, unchanged _ merged, .inl rfl⟩
        | true =>
            cases present' : secondary.get key with
            | none =>
                rw [present'] at merged
                exact ⟨value, unchanged _ merged, .inl rfl⟩
            | some child' =>
                rw [present', mergedChild_container address nested] at merged
                rw [follow, merged]
                exact ih (truthy_of_container nested) (distinct.child present')
                  (mergeable.child object present present' nested) reached

theorem mergeItems_twice (primary secondary : List JsValue) :
    mergeItems (mergeItems primary secondary) secondary = mergeItems primary secondary :=
  mergeItems_of_included _ secondary (mergeItems_included primary secondary)

/-- A merge keeps the primary copy, joins two arrays or extends an object. -/
theorem Mergeable.kinds {primary secondary : JsValue} (mergeable : Mergeable primary secondary) :
    mergeValues address primary secondary = primary ∨
      (∃ place items place' items', primary = .array place items ∧ secondary = .array place' items') ∨
        primary.shape = .object := by
  cases truthy : primary.truthy with
  | false => exact .inl ((mergeValues_falsy address truthy secondary).trans (mergeable.root truthy))
  | true =>
      cases primary with
      | object => exact .inr (.inr rfl)
      | array place items =>
          cases secondary with
          | array place' items' => exact .inr (.inl ⟨place, items, place', items', rfl, rfl⟩)
          | object => exact absurd rfl (mergeable.items rfl)
          | _ => exact .inl (mergeValues_kept address truthy (.inr rfl))
      | _ => exact .inl (mergeValues_kept address truthy (.inl rfl))

/-- The second merge of a copy changes nothing. -/
theorem mergeValues_twice {primary secondary : JsValue} (distinct : secondary.DistinctKeys)
    (mergeable : Mergeable primary secondary) :
    (mergeValues address (mergeValues address primary secondary) secondary).Same
      (mergeValues address primary secondary) := by
  intro path
  induction path generalizing primary secondary with
  | nil =>
      rcases mergeable.kinds address with kept | ⟨_, _, _, _, rfl, rfl⟩ | object
      · rw [kept, kept]
      · rfl
      · have merged := mergeValues_shape address object secondary
        exact congrArg some ((mergeValues_shape address merged secondary).trans merged.symm)
  | cons key path ih =>
      rcases mergeable.kinds address with kept | ⟨place, items, place', items', rfl, rfl⟩ | object
      · rw [kept, kept]
      · rw [mergeValues_arrays, mergeValues_arrays, mergeItems_twice]
        rfl
      · have merged := mergeValues_shape address object secondary
        have names := mergeable.children object
        rw [follow, follow]
        cases present : primary.get key with
        | some child =>
            have first := mergeValues_get address object distinct present
            rw [mergeValues_get address merged distinct first, first, Option.bind_some, Option.bind_some]
            cases nested : child.isContainer with
            | false => rw [mergedChild_scalar address nested, mergedChild_scalar address nested]
            | true =>
                cases present' : secondary.get key with
                | none => rfl
                | some child' =>
                    rw [mergedChild_container address nested,
                      mergedChild_container address (mergeValues_isContainer address nested child')]
                    exact ih (distinct.child present') (mergeable.child object present present' nested)
        | none =>
            have first := mergeValues_get_added address object distinct names present
            cases present' : secondary.get key with
            | none =>
                have names' (key : String) (absent : (mergeValues address primary secondary).get key = none)
                    (added : (secondary.get key).isSome) : ¬Builtin key := by
                  apply names key _ added
                  cases known : primary.get key with
                  | none => rfl
                  | some child => exact absurd (mergeValues_get address object distinct known) (by simp [absent])
                rw [present'] at first
                rw [mergeValues_get_added address merged distinct names' first, first, present']
            | some child' =>
                rw [present'] at first
                rw [mergeValues_get address merged distinct first, first, present', Option.bind_some, Option.bind_some]
                cases nested : child'.isContainer with
                | false => rw [mergedChild_scalar address nested]
                | true =>
                    rw [mergedChild_container address nested]
                    exact mergeValues_itself address (distinct.child present') path

theorem Mergeable.laws {primary secondary : ParsedValue} (mergeable : Mergeable primary.value secondary.value) :
    MergeLaws address primary.value secondary.value := by
  have itself := mergeValues_itself address primary.distinct
  have twice := mergeValues_twice address secondary.distinct mergeable
  cases truthy : primary.value.truthy with
  | false =>
      have same := mergeable.root truthy
      have kept := (mergeValues_falsy address truthy secondary.value).trans same
      constructor
      · intro path reached
        rwa [kept]
      · intro path scalar reached _
        rwa [kept]
      · intro path array
        rwa [kept]
      · intro path key value _ _ absent present
        rw [same, absent] at present
        exact absurd present (by simp)
      · exact itself
      · exact twice
  | true =>
      have keeps {path : List String} {value : JsValue} (reached : primary.value.follow path = some value) :=
        mergeValues_keeps address truthy secondary.distinct mergeable reached
      constructor
      · intro path reached
        obtain ⟨value, reached⟩ := Option.isSome_iff_exists.mp reached
        obtain ⟨kept, found, _⟩ := keeps reached
        rw [found]
        rfl
      · intro path scalar reached leaf
        obtain ⟨kept, found, rfl | ⟨container, _⟩⟩ := keeps reached
        · exact found
        · rw [leaf] at container
          exact Bool.noConfusion container
      · intro path array
        obtain ⟨value, reached, shaped⟩ := Option.map_eq_some_iff.mp array
        obtain ⟨kept, found, rfl | ⟨_, other, rfl, joined⟩⟩ := keeps reached
        · rw [found]
          exact congrArg some shaped
        · rw [found]
          exact congrArg some ((mergeValues_array_shape address shaped other).mpr (joined shaped))
      · intro path key value through object absent present
        obtain ⟨first, reached, shaped⟩ := Option.map_eq_some_iff.mp object
        rw [follow_append] at absent present ⊢
        obtain ⟨second, reached', present⟩ := Option.bind_eq_some_iff.mp present
        rw [reached, Option.bind_some] at absent
        have container := isContainer_of_shape shaped
        have names (name : String) (missing : first.get name = none) (held : (second.get name).isSome) :
            ¬Builtin name := by
          apply mergeable.names path name through object
          · rw [follow_append, reached]
            exact missing
          · rw [follow_append, reached']
            exact held
        have inside := secondary.distinct.at_path reached'
        rw [mergeValues_follow address secondary.distinct through reached reached' container, Option.bind_some,
          mergeValues_get_added address shaped inside names absent]
        exact present
      · exact itself
      · exact twice

/-- A law fails at each place where a condition does. -/
theorem MergeLaws.mergeable {primary secondary : ParsedValue} (laws : MergeLaws address primary.value secondary.value) :
    Mergeable primary.value secondary.value := by
  constructor
  · intro falsy
    have scalar : primary.value.isContainer = false := by
      rw [← Bool.not_eq_true]
      intro container
      rw [truthy_of_container container] at falsy
      exact Bool.noConfusion falsy
    have kept := laws.scalars [] primary.value rfl scalar
    rw [mergeValues_falsy address falsy] at kept
    exact Option.some.inj kept
  · intro path through array object
    have joined := laws.arrays path array
    obtain ⟨first, reached, shaped⟩ := Option.map_eq_some_iff.mp array
    obtain ⟨second, reached', shaped'⟩ := Option.map_eq_some_iff.mp object
    have container : first.isContainer = true := by
      cases first <;> first | rfl | exact absurd shaped (by simp [shape])
    rw [mergeValues_follow address secondary.distinct through reached reached' container, Option.map_some,
      Option.some.injEq, mergeValues_array_shape address shaped] at joined
    exact joined shaped'
  · intro path key through object absent present builtin
    obtain ⟨value, present⟩ := Option.isSome_iff_exists.mp present
    have added := laws.added path key value through object absent present
    obtain ⟨first, reached, shaped⟩ := Option.map_eq_some_iff.mp object
    rw [follow_append] at absent present added
    obtain ⟨second, reached', present⟩ := Option.bind_eq_some_iff.mp present
    rw [reached, Option.bind_some] at absent
    rw [mergeValues_follow address secondary.distinct through reached reached' (isContainer_of_shape shaped),
      Option.bind_some, mergeValues_get_builtin address shaped second absent builtin] at added
    exact absurd added (by simp)

/-- The laws hold for exactly the copies where the primary one is not a scalar that counts as false, no object of the
other copy meets an array, and each new key is one that no object has by itself. -/
theorem mergeLaws_iff (primary secondary : ParsedValue) :
    MergeLaws address primary.value secondary.value ↔ Mergeable primary.value secondary.value :=
  ⟨MergeLaws.mergeable address, Mergeable.laws address⟩

/-- The merge of an array with an object is an object. -/
theorem mergeValues_array_lost : ∃ primary secondary : ParsedValue, primary.value = .array 1 [.number 7] ∧
    secondary.value = .object 2 [("a", .number 8)] ∧ ∀ address : JsValue → JsValue → Nat,
      mergeValues address primary.value secondary.value =
        .object (address primary.value secondary.value) [("0", .number 7), ("a", .number 8)] ∧
      ¬MergeLaws address primary.value secondary.value := by
  have leaf (number : Rat) : (JsValue.number number).DistinctKeys := .of_fields (by simp [fields]) (by simp [fields])
  have numbers : (JsValue.array 1 [.number 7]).DistinctKeys := .of_fields (by simp [fields]) (by simp [fields, leaf])
  have named : (JsValue.object 2 [("a", .number 8)]).DistinctKeys := .of_fields (by simp [fields]) (by simp [fields, leaf])
  refine ⟨⟨_, numbers⟩, ⟨_, named⟩, rfl, rfl, fun address => ⟨rfl, fun laws => ?_⟩⟩
  exact absurd (laws.arrays [] rfl) (by simp [follow, mergeValues, mergeWith, shape, JsValue.truthy, typeOf, isContainer])

end SecureChat.Web.SyncConflictResolver
