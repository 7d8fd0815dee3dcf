import SecureChat.Construction.Utils.Config
import SecureChat.Proof.Utils.HashTable

namespace SecureChat.Utils
open Library

/-- The text has no white space at its ends. -/
def Unpadded (text : List UInt8) : Prop :=
  (∀ byte ∈ text.head?, isspace byte = false) ∧ ∀ byte ∈ text.getLast?, isspace byte = false

/-- A section name that a header can carry. -/
def PlainName (name : CString) : Prop := newline ∉ name.val

/-- A key that the loader does not take for something else. -/
structure PlainKey (key : CString) : Prop where
  named : key.val ≠ []
  oneLine : newline ∉ key.val
  undivided : equalsSign ∉ key.val
  unpadded : Unpadded key.val
  noComment : ∀ byte ∈ key.val.head?, byte ≠ semicolon ∧ byte ≠ numberSign
  noHeader : ∀ byte ∈ key.val.head?, byte ≠ openBracket

structure PlainValue (value : CString) : Prop where
  oneLine : newline ∉ value.val
  unpadded : Unpadded value.val

/-- Only the strings that a call stores matter. -/
def ConfigCall.Plain : ConfigCall → Prop
  | .setValue (some sectionName) (some key) (some value) => PlainName sectionName ∧ PlainKey key ∧ PlainValue value
  | _ => True

/-- The saved text, loaded into an empty configuration, gives the same values and the same sections. -/
def Survives (config : Config) : Prop :=
  let loaded := configLoadString configCreate (configSaveFile config)
  loaded.2 = 0 ∧
    (∀ sectionName key, configGetValue loaded.1 sectionName key = configGetValue config sectionName key) ∧
    ∀ name, (loaded.1.findSection name).isSome = (config.findSection name).isSome

section Text

theorem cString_eq (text : CString) : cString text.val = text := by
  apply Subtype.ext
  apply List.takeWhile_eq_self_iff.mpr
  intro byte member
  have nonzero : byte ≠ 0 := fun zero => text.property (zero ▸ member)
  simpa using nonzero

/-- Trimming leaves a text without padding as it is. -/
theorem utilsStrtrim_unpadded (text : List UInt8) (unpadded : Unpadded text) : utilsStrtrim text = text := by
  have front : text.dropWhile isspace = text := by
    cases text with
    | nil => rfl
    | cons first rest =>
        have solid : isspace first = false := unpadded.1 first rfl
        exact List.dropWhile_cons_of_neg (by simp [solid])
  rw [utilsStrtrim, front, List.rdropWhile_eq_self_iff]
  intro nonempty
  have solid := unpadded.2 _ (List.getLast?_eq_some_getLast nonempty)
  simp [solid]

/-- White space behind a text without padding is trimmed. -/
theorem utilsStrtrim_trailing (text : List UInt8) (unpadded : Unpadded text) (named : text ≠ []) :
    utilsStrtrim (text ++ [blank]) = text := by
  obtain ⟨first, rest, rfl⟩ := List.exists_cons_of_ne_nil named
  have solid : isspace first = false := unpadded.1 first rfl
  have front : ((first :: rest) ++ [blank]).dropWhile isspace = (first :: rest) ++ [blank] :=
    List.dropWhile_cons_of_neg (by simp [solid])
  rw [utilsStrtrim, front, List.rdropWhile_concat_pos _ _ _ (by decide), List.rdropWhile_eq_self_iff]
  intro nonempty
  have last := unpadded.2 _ (List.getLast?_eq_some_getLast nonempty)
  simp [last]

/-- White space in front of a text without padding is trimmed. -/
theorem utilsStrtrim_leading (text : List UInt8) (unpadded : Unpadded text) :
    utilsStrtrim (blank :: text) = text := by
  have front : (blank :: text).dropWhile isspace = text.dropWhile isspace := List.dropWhile_cons_of_pos (by decide)
  have whole := utilsStrtrim_unpadded text unpadded
  rw [utilsStrtrim] at whole ⊢
  rw [front, whole]

/-- The tokens of a text are its lines, where an empty line gives none. -/
theorem strtok_line (line rest : List UInt8) (oneLine : newline ∉ line) :
    strtok (line ++ newline :: rest) newline =
      (if line = [] then [] else [line]) ++ strtok rest newline := by
  rw [strtok, strtok, List.splitOn_append_cons_of_beq _ _ (beq_self_eq_true newline),
    List.splitOn_eq_singleton oneLine, List.filter_append]
  by_cases empty : line = [] <;> simp [empty]

end Text

section Lines

/-- A header line opens the section of its name, which the loader creates if need be. -/
theorem readLine_header (loader : ConfigLoader) (found : ConfigSection) :
    loader.readLine found.header = ⟨loader.config.ensureSection found.name, some found.name⟩ := by
  have unpadded : Unpadded found.header := by
    constructor
    · intro byte first
      obtain rfl : openBracket = byte := Option.some.inj first
      decide
    · intro byte last
      rw [ConfigSection.header, List.getLast?_concat] at last
      obtain rfl : closeBracket = byte := Option.some.inj last
      decide
  have first : found.header.head? = some openBracket := rfl
  have last : found.header.getLast? = some closeBracket := List.getLast?_concat ..
  have inside : found.header.dropLast.drop 1 = found.name.val := by
    rw [ConfigSection.header, List.dropLast_concat, List.drop_one, List.tail_cons]
  rw [ConfigLoader.readLine, utilsStrtrim_unpadded _ unpadded]
  dsimp only
  rw [first, last, if_neg (by decide), if_pos ⟨rfl, rfl⟩, inside, cString_eq]

/-- Trimming keeps the key, the equals sign and the value of an item line. -/
theorem line_trimmed (item : ConfigItem) (key : PlainKey item.key) (value : PlainValue item.value) :
    ∃ tail, utilsStrtrim item.line = item.key.val ++ blank :: equalsSign :: tail ∧
      utilsStrtrim tail = item.value.val := by
  have front : ∀ rest, ∀ byte ∈ (item.key.val ++ rest).head?, isspace byte = false := by
    intro rest byte first
    rw [List.head?_append_of_ne_nil _ key.named] at first
    exact key.unpadded.1 byte first
  by_cases empty : item.value.val = []
  · have cut : item.line = (item.key.val ++ [blank, equalsSign]) ++ [blank] := by
      rw [ConfigItem.line, empty]
      simp
    refine ⟨[], ?_, by rw [empty]; rfl⟩
    rw [cut]
    apply utilsStrtrim_trailing _ _ (by simp)
    refine ⟨front _, fun byte last => ?_⟩
    obtain rfl : equalsSign = byte := by simpa using last
    decide
  · have cut : item.line = item.key.val ++ blank :: equalsSign :: blank :: item.value.val := by
      rw [ConfigItem.line]
      simp
    refine ⟨blank :: item.value.val, ?_, utilsStrtrim_leading _ value.unpadded⟩
    rw [cut]
    apply utilsStrtrim_unpadded
    refine ⟨front _, fun byte last => value.unpadded.2 byte ?_⟩
    obtain ⟨final, found⟩ := Option.isSome_iff_exists.mp (List.getLast?_isSome.mpr empty)
    have same : (item.key.val ++ blank :: equalsSign :: blank :: item.value.val).getLast? = some final := by
      simp [List.getLast?_append, List.getLast?_cons, found]
    rw [found]
    exact same ▸ last

/-- The key of a line is cut off at its equals sign. -/
theorem split_key (key tail : List UInt8) (undivided : equalsSign ∉ key) :
    (key ++ blank :: equalsSign :: tail).takeWhile (· ≠ equalsSign) = key ++ [blank] ∧
      (key ++ blank :: equalsSign :: tail).dropWhile (· ≠ equalsSign) = equalsSign :: tail := by
  have other : ∀ byte ∈ key ++ [blank], decide (byte ≠ equalsSign) = true := by
    intro byte member
    rw [decide_eq_true_iff]
    rintro rfl
    rcases List.mem_append.mp member with inside | last
    · exact undivided inside
    · exact absurd (List.mem_singleton.mp last) (by decide)
  have shape : key ++ blank :: equalsSign :: tail = (key ++ [blank]) ++ equalsSign :: tail := by simp
  rw [shape, List.takeWhile_append_of_pos other, List.dropWhile_append_of_pos other]
  simp

/-- An item line stores its item in the section of the last header. -/
theorem readLine_item (config : Config) (name : CString) (item : ConfigItem) (key : PlainKey item.key)
    (value : PlainValue item.value) :
    ConfigLoader.readLine ⟨config, some name⟩ item.line =
      ⟨config.changeItems name fun items => items.insert hashStringDjb2 item.key item, some name⟩ := by
  obtain ⟨tail, trimmed, rest⟩ := line_trimmed item key value
  obtain ⟨first, others, named⟩ := List.exists_cons_of_ne_nil key.named
  have front : (item.key.val ++ blank :: equalsSign :: tail).head? = some first := by rw [named]; rfl
  have begins : first ∈ item.key.val.head? := by rw [named]; rfl
  have noComment := key.noComment first begins
  have noHeader := key.noHeader first begins
  obtain ⟨before, behind⟩ := split_key item.key.val tail key.undivided
  rw [ConfigLoader.readLine, trimmed]
  dsimp only
  rw [front, if_neg (by simp [noComment]), if_neg (by simp [noHeader]), if_neg (by simp), before, behind,
    List.drop_one, List.tail_cons, rest, utilsStrtrim_trailing _ key.unpadded key.named, cString_eq, cString_eq]

end Lines

/-- An item stands under its own key and can be written as a line. -/
def PlainItem (key : CString) (item : ConfigItem) : Prop :=
  item.key = key ∧ PlainKey key ∧ PlainValue item.value

/-- A section stands under its own name and holds items that can be written. -/
structure PlainSection (name : CString) (found : ConfigSection) : Prop where
  named : found.name = name
  plain : PlainName name
  sound : found.items.Sound hashStringDjb2
  items : ∀ key item, found.findItem key = some item → PlainItem key item

/-- A configuration whose text the loader can read. -/
structure Plain (config : Config) : Prop where
  sound : config.sections.Sound hashStringDjb2
  sections : ∀ name found, config.findSection name = some found → PlainSection name found

section Calls

theorem plain_empty (name : CString) (plain : PlainName name) :
    PlainSection name ⟨name, Buckets.empty (tableSize 16)⟩ where
  named := rfl
  plain := plain
  sound := Buckets.sound_empty _ _ (tableSize_pos 16)
  items key item present := by
    rw [ConfigSection.findItem, Buckets.lookup_empty _ _ (tableSize_pos 16)] at present
    exact nomatch present

theorem plain_create : Plain configCreate where
  sound := Buckets.sound_empty _ _ (tableSize_pos 16)
  sections name found present := by
    rw [Config.findSection, configCreate, Buckets.lookup_empty _ _ (tableSize_pos 16)] at present
    exact nomatch present

variable {config : Config}

/-- A section that is put under its own name keeps the configuration readable. -/
theorem Plain.insert (plain : Plain config) (name : CString) (found : ConfigSection)
    (section_plain : PlainSection name found) :
    Plain ⟨config.sections.insert hashStringDjb2 name found⟩ where
  sound := plain.sound.insert name found
  sections other next present := by
    rw [Config.findSection, plain.sound.lookup_insert] at present
    split at present
    · rename_i same
      rw [same, ← Option.some.inj present]
      exact section_plain
    · exact plain.sections other next present

theorem Plain.ensureSection (plain : Plain config) (name : CString) (named : PlainName name) :
    Plain (config.ensureSection name) := by
  unfold Config.ensureSection
  split
  · exact plain
  · exact plain.insert name _ (plain_empty name named)

/-- A change that keeps the items of a section plain keeps the configuration readable. -/
theorem Plain.changeItems (plain : Plain config) (name : CString)
    (change : StringTable ConfigItem → StringTable ConfigItem)
    (keeps : ∀ found, config.findSection name = some found → PlainSection name found →
      PlainSection name { found with items := change found.items }) :
    Plain (config.changeItems name change) := by
  unfold Config.changeItems
  split
  · exact plain
  · rename_i found present
    exact plain.insert name _ (keeps found present (plain.sections name found present))

theorem PlainSection.insert {name : CString} {found : ConfigSection} (plain : PlainSection name found)
    (key : CString) (item : ConfigItem) (item_plain : PlainItem key item) :
    PlainSection name { found with items := found.items.insert hashStringDjb2 key item } where
  named := plain.named
  plain := plain.plain
  sound := plain.sound.insert key item
  items other next present := by
    rw [ConfigSection.findItem, plain.sound.lookup_insert] at present
    split at present
    · rename_i same
      rw [same, ← Option.some.inj present]
      exact item_plain
    · exact plain.items other next present

theorem PlainSection.putItem {name : CString} {found : ConfigSection} (plain : PlainSection name found)
    (key value : CString) (key_plain : PlainKey key) (value_plain : PlainValue value) :
    PlainSection name { found with items := putItem found.items key value } := by
  unfold Utils.putItem
  split
  · rename_i item present
    exact plain.insert key _ ⟨(plain.items key item present).1, key_plain, value_plain⟩
  · exact plain.insert key _ ⟨rfl, key_plain, value_plain⟩

theorem PlainSection.remove {name : CString} {found : ConfigSection} (plain : PlainSection name found)
    (key : CString) (items : StringTable ConfigItem) (removed : found.items.remove hashStringDjb2 key = some items) :
    PlainSection name { found with items := items } where
  named := plain.named
  plain := plain.plain
  sound := plain.sound.remove key items removed
  items other item present := by
    rcases plain.sound.lookup_remove key with ⟨absent, -⟩ | ⟨next, same, left⟩
    · rw [removed] at absent
      exact nomatch absent
    · obtain rfl : items = next := Option.some.inj (removed.symm.trans same)
      rw [ConfigSection.findItem, left] at present
      split at present
      · exact nomatch present
      · exact plain.items other item present

/-- Every call with plain strings keeps the configuration readable. -/
theorem Plain.step (plain : Plain config) (call : ConfigCall) (call_plain : call.Plain) :
    Plain (configMachine.step config call).1 := by
  cases call with
  | setValue sectionName key value =>
      match sectionName, key, value with
      | none, _, _ => exact plain
      | some _, none, _ => exact plain
      | some _, some _, none => exact plain
      | some sectionName, some key, some value =>
          obtain ⟨name_plain, key_plain, value_plain⟩ := call_plain
          exact (plain.ensureSection sectionName name_plain).changeItems sectionName
            (fun items => putItem items key value)
            fun found _ found_plain => found_plain.putItem key value key_plain value_plain
  | removeKey sectionName key =>
      match sectionName, key with
      | none, _ => exact plain
      | some _, none => exact plain
      | some sectionName, some key =>
          simp only [configMachine, configRemoveKey]
          split
          · exact plain
          · rename_i found present
            split
            · exact plain
            · rename_i items removed
              refine plain.changeItems sectionName (fun _ => items) fun again same found_plain => ?_
              obtain rfl : found = again := Option.some.inj (present.symm.trans same)
              exact found_plain.remove key items removed
  | removeSection sectionName =>
      match sectionName with
      | none => exact plain
      | some sectionName =>
          simp only [configMachine, configRemoveSection]
          split
          · exact plain
          · rename_i sections removed
            refine ⟨plain.sound.remove sectionName sections removed, fun name found present => ?_⟩
            rcases plain.sound.lookup_remove sectionName with ⟨absent, -⟩ | ⟨next, same, left⟩
            · rw [removed] at absent
              exact nomatch absent
            · obtain rfl : sections = next := Option.some.inj (removed.symm.trans same)
              rw [Config.findSection, left] at present
              split at present
              · exact nomatch present
              · exact plain.sections name found present

end Calls

section Loading

/-- The items of a table, put into an empty one in the order of the walk. -/
def rebuilt (items : StringTable ConfigItem) : StringTable ConfigItem :=
  items.entries.foldl (fun table entry => table.insert hashStringDjb2 entry.1 entry.2) (Buckets.empty (tableSize 16))

/-- The item lines of a section fill the section of the last header. -/
theorem read_items (list : List (CString × ConfigItem)) (plain : ∀ entry ∈ list, PlainItem entry.1 entry.2)
    (sections : StringTable ConfigSection) (sound : sections.Sound hashStringDjb2) (name : CString)
    (items : StringTable ConfigItem) (rest : List UInt8) :
    (strtok ((list.flatMap fun entry => entry.2.line ++ [newline]) ++ newline :: rest) newline).foldl
        ConfigLoader.readLine ⟨⟨sections.insert hashStringDjb2 name ⟨name, items⟩⟩, some name⟩ =
      (strtok rest newline).foldl ConfigLoader.readLine
        ⟨⟨sections.insert hashStringDjb2 name
          ⟨name, list.foldl (fun table entry => table.insert hashStringDjb2 entry.1 entry.2) items⟩⟩, some name⟩ := by
  induction list generalizing items with
  | nil =>
      rw [List.flatMap_nil, strtok_line [] rest List.not_mem_nil]
      rfl
  | cons entry list ih =>
      obtain ⟨⟨named, key, value⟩, later⟩ := List.forall_mem_cons.mp plain
      rw [← named] at key
      have oneLine : newline ∉ entry.2.line := by
        simp [ConfigItem.line, key.oneLine, value.oneLine]
        decide
      have nonempty : entry.2.line ≠ [] := by simp [ConfigItem.line]
      have here : Config.findSection ⟨sections.insert hashStringDjb2 name ⟨name, items⟩⟩ name = some ⟨name, items⟩ := by
        rw [Config.findSection, sound.lookup_insert, if_pos rfl]
      rw [List.flatMap_cons, List.append_assoc, List.append_assoc, List.singleton_append, strtok_line _ _ oneLine,
        if_neg nonempty, List.singleton_append, List.foldl_cons, readLine_item _ _ _ key value, Config.changeItems, here]
      dsimp only
      rw [sound.insert_insert, ih later, List.foldl_cons, named]

/-- The text of a section adds this section with all its items. -/
theorem read_section (found : ConfigSection) (name : CString) (plain : PlainSection name found)
    (sections : StringTable ConfigSection) (sound : sections.Sound hashStringDjb2)
    (fresh : sections.lookup hashStringDjb2 name = none) (current : Option CString) (rest : List UInt8) :
    (strtok (found.text ++ rest) newline).foldl ConfigLoader.readLine ⟨⟨sections⟩, current⟩ =
      (strtok rest newline).foldl ConfigLoader.readLine
        ⟨⟨sections.insert hashStringDjb2 name ⟨name, rebuilt found.items⟩⟩, some name⟩ := by
  have oneLine : newline ∉ found.header := by
    have named : newline ∉ found.name.val := plain.named ▸ plain.plain
    have solid : ¬ newline = openBracket ∧ ¬ newline = closeBracket := by decide
    simpa [ConfigSection.header, solid] using named
  have shape : found.text ++ rest = found.header ++ newline ::
      ((found.items.entries.flatMap fun entry => entry.2.line ++ [newline]) ++ newline :: rest) := by
    simp [ConfigSection.text]
  have created : Config.ensureSection ⟨sections⟩ name =
      ⟨sections.insert hashStringDjb2 name ⟨name, Buckets.empty (tableSize 16)⟩⟩ := by
    rw [Config.ensureSection, Config.findSection, fresh]
  have items : ∀ entry ∈ found.items.entries, PlainItem entry.1 entry.2 := fun entry member =>
    plain.items entry.1 entry.2 ((plain.sound.mem_entries entry.1 entry.2).mp member)
  have nonempty : found.header ≠ [] := by simp [ConfigSection.header]
  rw [shape, strtok_line _ _ oneLine, if_neg nonempty, List.singleton_append, List.foldl_cons,
    readLine_header, plain.named, created, read_items _ items sections sound name]
  rfl

/-- The text of sections with distinct names adds all of them. -/
theorem read_sections (list : List (CString × ConfigSection))
    (plain : ∀ entry ∈ list, PlainSection entry.1 entry.2) (distinct : (list.map Prod.fst).Nodup)
    (sections : StringTable ConfigSection) (sound : sections.Sound hashStringDjb2)
    (fresh : ∀ name ∈ list.map Prod.fst, sections.lookup hashStringDjb2 name = none) (current : Option CString) :
    ((strtok (list.flatMap fun entry => entry.2.text) newline).foldl ConfigLoader.readLine
        ⟨⟨sections⟩, current⟩).config =
      ⟨(list.map fun entry => (entry.1, (⟨entry.1, rebuilt entry.2.items⟩ : ConfigSection))).foldl
        (fun table entry => table.insert hashStringDjb2 entry.1 entry.2) sections⟩ := by
  induction list generalizing sections current with
  | nil => rfl
  | cons entry list ih =>
      obtain ⟨here, later⟩ := List.forall_mem_cons.mp plain
      rw [List.map_cons, List.nodup_cons] at distinct
      obtain ⟨absent, others⟩ := List.forall_mem_cons.mp fresh
      rw [List.flatMap_cons, read_section _ _ here sections sound absent,
        ih later distinct.2 _ (sound.insert _ _) ?_, List.map_cons, List.foldl_cons]
      intro name member
      rw [sound.lookup_insert, if_neg fun same : name = entry.1 => distinct.1 (same ▸ member)]
      exact others name member

end Loading

section Saving

/-- The saved text has no byte that would end it as a string. -/
theorem configSaveFile_terminated (config : Config) : 0 ∉ configSaveFile config := by
  have bytes : ∀ text : CString, 0 ∉ text.val := fun text => text.property
  have solid : ¬ (0 : UInt8) = openBracket ∧ ¬ (0 : UInt8) = closeBracket ∧ ¬ (0 : UInt8) = newline ∧
    ¬ (0 : UInt8) = blank ∧ ¬ (0 : UInt8) = equalsSign := by decide
  simp [configSaveFile, ConfigSection.text, ConfigSection.header, ConfigItem.line, bytes, solid]

/-- A table that is built anew from its entries finds what the table finds. -/
theorem rebuilt_lookup (items : StringTable ConfigItem) (sound : items.Sound hashStringDjb2) (key : CString) :
    (rebuilt items).lookup hashStringDjb2 key = items.lookup hashStringDjb2 key := by
  have empty : (Buckets.empty (tableSize 16) : StringTable ConfigItem).Sound hashStringDjb2 :=
    Buckets.sound_empty _ _ (tableSize_pos 16)
  have found := (empty.lookup_insertAll items.entries sound.entries_nodup).2 key
  rw [sound.find_entries, Buckets.lookup_empty _ _ (tableSize_pos 16), Option.or_none] at found
  exact found

/-- The loader finds each saved section again, with a table that is built anew. -/
theorem load_findSection (config : Config) (plain : Plain config) (name : CString) :
    (configLoadString configCreate (configSaveFile config)).1.findSection name =
      (config.findSection name).map fun found => ⟨name, rebuilt found.items⟩ := by
  have text : (cString (configSaveFile config)).val = configSaveFile config :=
    congrArg Subtype.val (cString_eq ⟨configSaveFile config, configSaveFile_terminated config⟩)
  have empty : (Buckets.empty (tableSize 16) : StringTable ConfigSection).Sound hashStringDjb2 :=
    Buckets.sound_empty _ _ (tableSize_pos 16)
  have distinct := plain.sound.entries_nodup
  have sections : ∀ entry ∈ config.sections.entries, PlainSection entry.1 entry.2 := fun entry member =>
    plain.sections entry.1 entry.2 ((plain.sound.mem_entries entry.1 entry.2).mp member)
  have loaded := read_sections config.sections.entries sections distinct (Buckets.empty (tableSize 16)) empty
    (fun other _ => Buckets.lookup_empty _ _ (tableSize_pos 16) other) none
  simp only [configLoadString, text]
  unfold configSaveFile configCreate
  rw [loaded, Config.findSection]
  dsimp only
  rw [(empty.lookup_insertAll _ (by rwa [List.map_map])).2 name, Buckets.lookup_empty _ _ (tableSize_pos 16),
    Option.or_none, Config.findSection, ← plain.sound.find_entries, List.find?_map]
  cases found : config.sections.entries.find? (fun entry => entry.1 = name) with
  | none => simp [Function.comp_def, found]
  | some entry =>
      have same : entry.1 = name := by simpa using List.find?_some found
      simp [Function.comp_def, found, same]

/-- What can be written as a text survives the loader. -/
theorem Plain.survives (config : Config) (plain : Plain config) : Survives config := by
  refine ⟨rfl, fun sectionName key => ?_, fun name => ?_⟩
  · match sectionName, key with
    | none, _ => rfl
    | some _, none => rfl
    | some sectionName, some key =>
        simp only [configGetValue]
        rw [load_findSection config plain]
        cases present : config.findSection sectionName with
        | none => rfl
        | some found =>
            have sound := (plain.sections sectionName found present).sound
            simp only [Option.map_some, Option.bind_some, ConfigSection.findItem]
            rw [rebuilt_lookup found.items sound]
  · rw [load_findSection config plain, Option.isSome_map]

/-- Every configuration that plain calls have built survives saving and loading. -/
theorem config_survives (calls : List ConfigCall) (plain : ∀ call ∈ calls, call.Plain) :
    Survives (configMachine.run configCreate calls).1 := by
  apply Plain.survives
  have guarded : ∀ config, Plain config → Plain (configMachine.run config calls).1 := by
    induction calls with
    | nil => exact fun config holds => holds
    | cons call calls ih =>
        obtain ⟨here, later⟩ := List.forall_mem_cons.mp plain
        exact fun config holds => ih later _ (holds.step call here)
  exact guarded configCreate plain_create

theorem sampleSection_ne_zero : 0 ∉ ([0x61] : List UInt8) := by decide

theorem noText_ne_zero : 0 ∉ ([] : List UInt8) := by decide

/-- The calls of a server that stores the value "[a];=#" and leaves an empty section behind. -/
def sampleCalls : List ConfigCall :=
  let port : CString := ⟨[0x70, 0x6F, 0x72, 0x74], by decide⟩
  let value : CString := ⟨[0x5B, 0x61, 0x5D, 0x3B, 0x3D, 0x23], by decide⟩
  [.setValue (some ⟨[0x61], sampleSection_ne_zero⟩) (some port) (some value),
    .setValue (some ⟨[0x5D, 0x20], by decide⟩) (some port) (some ⟨[], noText_ne_zero⟩),
    .removeKey (some ⟨[0x5D, 0x20], by decide⟩) (some port)]

theorem config_survives_sample : Survives (configMachine.run configCreate sampleCalls).1 := by
  have key : PlainKey ⟨[0x70, 0x6F, 0x72, 0x74], by decide⟩ :=
    ⟨by decide, by decide, by decide, ⟨by rintro byte ⟨⟩; decide, by rintro byte ⟨⟩; decide⟩,
      by rintro byte ⟨⟩; decide, by rintro byte ⟨⟩; decide⟩
  have value : PlainValue ⟨[0x5B, 0x61, 0x5D, 0x3B, 0x3D, 0x23], by decide⟩ :=
    ⟨by decide, by rintro byte ⟨⟩; decide, by rintro byte ⟨⟩; decide⟩
  have noValue : PlainValue ⟨[], by decide⟩ := ⟨by decide, by rintro byte ⟨⟩, by rintro byte ⟨⟩⟩
  have first : PlainName ⟨[0x61], by decide⟩ := by unfold PlainName; decide
  have second : PlainName ⟨[0x5D, 0x20], by decide⟩ := by unfold PlainName; decide
  apply config_survives
  simp only [sampleCalls, List.forall_mem_cons]
  exact ⟨⟨first, key, value⟩, ⟨second, key, noValue⟩, trivial, fun _ member => nomatch member⟩

end Saving

end SecureChat.Utils
