import Mathlib.Data.Nat.Bitwise
import SecureChat.Construction.Web.GroupManager

namespace SecureChat.Web
open Library

/-- A text of at most so many bytes, none of which is zero. -/
abbrev FieldText (size : Nat) := { bytes : List UInt8 // bytes.length ≤ size ∧ 0 ∉ bytes }

/-- A member as the server writes it, with the bits of its permissions. -/
structure WireMember where
  groupId : UInt64
  userId : UInt64
  roleCode : UInt8
  joinedAt : UInt64
  lastSeen : UInt64
  messageCount : UInt32
  nickname : FieldText 64
  permissionsBitmap : UInt64
  mutedUntil : UInt64
  bannedUntil : UInt64
  publicKey : FieldText 512
  encryptionKey : FieldText 256
  keyVersion : UInt32
  online : Bool
  typing : Bool
  active : Bool

/-- The field is filled with zeros. -/
def FieldText.field {size : Nat} (text : FieldText size) : List UInt8 :=
  text.val ++ List.replicate (size - text.val.length) 0

namespace WireMember

def fields (member : WireMember) : List (List UInt8) :=
  [uintBytes 8 member.groupId.toNat, uintBytes 8 member.userId.toNat, uintBytes 1 member.roleCode.toNat,
    uintBytes 8 member.joinedAt.toNat, uintBytes 8 member.lastSeen.toNat, uintBytes 4 member.messageCount.toNat,
    member.nickname.field, uintBytes 8 member.permissionsBitmap.toNat, uintBytes 8 member.mutedUntil.toNat,
    uintBytes 8 member.bannedUntil.toNat, member.publicKey.field, member.encryptionKey.field,
    uintBytes 4 member.keyVersion.toNat, uintBytes 1 member.online.toNat, uintBytes 1 member.typing.toNat,
    uintBytes 1 member.active.toNat]

def bytes (member : WireMember) : List UInt8 := member.fields.flatten

/-- What the client should make of it. -/
def read {Text : Type} (reader : TextReader Text) (member : WireMember) : ReceivedMember Text where
  groupId := member.groupId.toNat
  userId := member.userId.toNat
  role := GroupManager.codeToGroupRole member.roleCode.toNat
  permissions := bitmapToPermissions member.permissionsBitmap.toNat
  mutedUntil := if member.mutedUntil.toNat ≠ 0 then some (JsNumber.numberOfBigInt member.mutedUntil.toNat) else none
  joinedAt := JsNumber.numberOfBigInt member.joinedAt.toNat
  lastSeen := JsNumber.numberOfBigInt member.lastSeen.toNat
  messageCount := member.messageCount.toNat
  nickname := reader.decode member.nickname.val
  bannedUntil := if member.bannedUntil.toNat ≠ 0 then some (JsNumber.numberOfBigInt member.bannedUntil.toNat) else none
  publicKey :=
    if reader.nonempty (reader.decode member.publicKey.val) then some (reader.decode member.publicKey.val) else none
  encryptionKey :=
    if reader.nonempty (reader.decode member.encryptionKey.val) then some (reader.decode member.encryptionKey.val)
    else none
  keyVersion := member.keyVersion.toNat
  online := member.online
  typing := member.typing
  active := member.active

end WireMember

/-- The body of the answer to a request for the members of a group. -/
def membersBytes (members : List WireMember) : List UInt8 :=
  uintBytes 4 members.length ++ members.flatMap WireMember.bytes

section Fields

variable {Text : Type} (reader : TextReader Text)

@[simp] theorem FieldText.field_length {size : Nat} (text : FieldText size) : text.field.length = size := by
  rw [FieldText.field, List.length_append, List.length_replicate, Nat.add_sub_cancel' text.property.1]

/-- The text ends at the first zero of its field. -/
theorem FieldText.takeWhile_field {size : Nat} (text : FieldText size) : text.field.takeWhile (· ≠ 0) = text.val := by
  have plain : ∀ byte ∈ text.val, decide (byte ≠ 0) = true := by
    intro byte member
    exact decide_eq_true fun zero => text.property.2 (zero ▸ member)
  rw [FieldText.field, List.takeWhile_append_of_pos plain]
  cases size - text.val.length with
  | zero => rw [List.replicate_zero, List.takeWhile_nil, List.append_nil]
  | succ count => rw [List.replicate_succ, List.takeWhile_cons_of_neg (by simp), List.append_nil]

theorem WireMember.bytes_length (member : WireMember) : member.bytes.length = 900 := by
  simp [WireMember.bytes, WireMember.fields]

/-- A number is read at the place of its field. -/
theorem WireMember.getUint_at (member : WireMember) (front rest : List UInt8) (index width offset value : Nat)
    (found : member.fields[index]? = some (uintBytes width value))
    (start : (member.fields.take index).flatten.length = offset) (small : value < 256 ^ width) :
    getUint width (front.length + offset) (front ++ (member.bytes ++ rest)) = some value := by
  have shown := getUint_flatten (front :: member.fields) rest (index + 1) width (front.length + offset) _ found
    (by rw [List.take_succ_cons, List.flatten_cons, List.length_append, start]) (uintBytes_length _ _)
  rw [List.flatten_cons, List.append_assoc] at shown
  rw [WireMember.bytes, shown, uintBytes_of_fits width value small, bigEndianValue_bigEndian width value small]

theorem WireMember.readString_at (member : WireMember) (front rest : List UInt8) (index size offset : Nat)
    (text : FieldText size) (found : member.fields[index]? = some text.field)
    (start : (member.fields.take index).flatten.length = offset) (inside : offset + size ≤ 900) :
    GroupManager.readString reader (front ++ (member.bytes ++ rest)) (front.length + offset) size =
      some (reader.decode text.val) := by
  have shown := sliceBytes_flatten (front :: member.fields) rest (index + 1) (front.length + offset)
    (front.length + offset + size) _ found
    (by rw [List.take_succ_cons, List.flatten_cons, List.length_append, start]) (by rw [text.field_length])
  rw [List.flatten_cons, List.append_assoc] at shown
  rw [GroupManager.readString, if_pos, WireMember.bytes, shown, text.takeWhile_field]
  rw [List.length_append, List.length_append, member.bytes_length]
  omega

end Fields

section Members

variable {Text : Type} (reader : TextReader Text)

/-- One member is read back from its record. -/
theorem deserializeGroupMember_bytes (member : WireMember) (front rest : List UInt8) :
    GroupManager.deserializeGroupMember reader (front ++ (member.bytes ++ rest)) front.length =
      some (member.read reader) := by
  have number := member.getUint_at front rest
  have text {size : Nat} (index offset : Nat) := member.readString_at reader front rest index size offset
  have flag (bit : Bool) : bit.toNat < 256 ^ 1 := by cases bit <;> decide
  rw [GroupManager.deserializeGroupMember]
  have groupId := number 0 8 0 _ rfl rfl member.groupId.toNat_lt
  have userId := number 1 8 8 _ rfl (by simp [WireMember.fields]) member.userId.toNat_lt
  have roleCode := number 2 1 16 _ rfl (by simp [WireMember.fields]) member.roleCode.toNat_lt
  have joinedAt := number 3 8 17 _ rfl (by simp [WireMember.fields]) member.joinedAt.toNat_lt
  have lastSeen := number 4 8 25 _ rfl (by simp [WireMember.fields]) member.lastSeen.toNat_lt
  have messageCount := number 5 4 33 _ rfl (by simp [WireMember.fields]) member.messageCount.toNat_lt
  have nickname := text 6 37 member.nickname rfl (by simp [WireMember.fields]) (by decide)
  have bitmap := number 7 8 101 _ rfl (by simp [WireMember.fields]) member.permissionsBitmap.toNat_lt
  have mutedUntil := number 8 8 109 _ rfl (by simp [WireMember.fields]) member.mutedUntil.toNat_lt
  have bannedUntil := number 9 8 117 _ rfl (by simp [WireMember.fields]) member.bannedUntil.toNat_lt
  have publicKey := text 10 125 member.publicKey rfl (by simp [WireMember.fields]) (by decide)
  have encryptionKey := text 11 637 member.encryptionKey rfl (by simp [WireMember.fields]) (by decide)
  have keyVersion := number 12 4 893 _ rfl (by simp [WireMember.fields]) member.keyVersion.toNat_lt
  have online := number 13 1 897 _ rfl (by simp [WireMember.fields]) (flag member.online)
  have typing := number 14 1 898 _ rfl (by simp [WireMember.fields]) (flag member.typing)
  have active := number 15 1 899 _ rfl (by simp [WireMember.fields]) (flag member.active)
  rw [Nat.add_zero] at groupId
  rw [groupId, userId, roleCode, joinedAt, lastSeen, messageCount, nickname, bitmap, mutedUntil, bannedUntil, publicKey,
    encryptionKey, keyVersion, online, typing, active]
  have shown (bit : Bool) : decide (bit.toNat ≠ 0) = bit := by cases bit <;> rfl
  simp only [Option.bind_eq_bind, Option.bind_some, shown]
  rfl

theorem readGroupMembers_bytes (members : List WireMember) (front rest : List UInt8) :
    GroupManager.readGroupMembers reader (front ++ (members.flatMap WireMember.bytes ++ rest)) members.length
      front.length = some (members.map (·.read reader)) := by
  induction members generalizing front with
  | nil => rfl
  | cons member members ih =>
      have one := deserializeGroupMember_bytes reader member front (members.flatMap WireMember.bytes ++ rest)
      have others := ih (front ++ member.bytes)
      rw [List.length_append, member.bytes_length, List.append_assoc] at others
      rw [List.flatMap_cons, List.append_assoc, List.length_cons, GroupManager.readGroupMembers, one, others]
      rfl

theorem getUint_inside {width offset value : Nat} {data : List UInt8} (read : getUint width offset data = some value) :
    offset + width ≤ data.length := by
  rw [getUint] at read
  split at read
  · assumption
  · cases read

theorem getUint_some {width offset : Nat} {data : List UInt8} (inside : offset + width ≤ data.length) :
    ∃ value, getUint width offset data = some value :=
  ⟨_, if_pos inside⟩

theorem readString_some {offset size : Nat} {data : List UInt8} (inside : offset + size ≤ data.length) :
    ∃ text, GroupManager.readString reader data offset size = some text :=
  ⟨_, if_pos inside⟩

/-- A member is read exactly if its whole record lies inside the buffer. -/
theorem deserializeGroupMember_some_iff (data : List UInt8) (offset : Nat) :
    (∃ member, GroupManager.deserializeGroupMember reader data offset = some member) ↔ offset + 900 ≤ data.length := by
  constructor
  · rintro ⟨member, read⟩
    rw [GroupManager.deserializeGroupMember] at read
    -- the last of the sixteen reads reaches to the end of the record
    iterate 15 obtain ⟨_, -, read⟩ := Option.bind_eq_some_iff.mp read
    obtain ⟨_, last, -⟩ := Option.bind_eq_some_iff.mp read
    have inside := getUint_inside last
    omega
  · intro inside
    have number (width place : Nat) (early : place + width ≤ 900) :
        ∃ value, getUint width (offset + place) data = some value := getUint_some (by omega)
    have text (size place : Nat) (early : place + size ≤ 900) :
        ∃ text, GroupManager.readString reader data (offset + place) size = some text :=
      readString_some reader (by omega)
    obtain ⟨_, groupId⟩ := number 8 0 (by decide)
    obtain ⟨_, userId⟩ := number 8 8 (by decide)
    obtain ⟨_, roleCode⟩ := number 1 16 (by decide)
    obtain ⟨_, joinedAt⟩ := number 8 17 (by decide)
    obtain ⟨_, lastSeen⟩ := number 8 25 (by decide)
    obtain ⟨_, messageCount⟩ := number 4 33 (by decide)
    obtain ⟨_, nickname⟩ := text 64 37 (by decide)
    obtain ⟨_, bitmap⟩ := number 8 101 (by decide)
    obtain ⟨_, mutedUntil⟩ := number 8 109 (by decide)
    obtain ⟨_, bannedUntil⟩ := number 8 117 (by decide)
    obtain ⟨_, publicKey⟩ := text 512 125 (by decide)
    obtain ⟨_, encryptionKey⟩ := text 256 637 (by decide)
    obtain ⟨_, keyVersion⟩ := number 4 893 (by decide)
    obtain ⟨_, online⟩ := number 1 897 (by decide)
    obtain ⟨_, typing⟩ := number 1 898 (by decide)
    obtain ⟨_, active⟩ := number 1 899 (by decide)
    rw [Nat.add_zero] at groupId
    rw [GroupManager.deserializeGroupMember, groupId, userId, roleCode, joinedAt, lastSeen, messageCount, nickname,
      bitmap, mutedUntil, bannedUntil, publicKey, encryptionKey, keyVersion, online, typing, active]
    exact ⟨_, rfl⟩

theorem readGroupMembers_some_iff (data : List UInt8) (count offset : Nat) (start : offset ≤ data.length) :
    (∃ members, GroupManager.readGroupMembers reader data count offset = some members) ↔
      offset + 900 * count ≤ data.length := by
  induction count generalizing offset with
  | zero => exact iff_of_true ⟨[], rfl⟩ start
  | succ count ih =>
      have next : offset + 900 * (count + 1) = offset + 900 + 900 * count := by
        rw [Nat.mul_succ, Nat.add_assoc, Nat.add_comm 900]
      rw [GroupManager.readGroupMembers, next]
      constructor
      · rintro ⟨members, read⟩
        obtain ⟨member, first, read⟩ := Option.bind_eq_some_iff.mp read
        obtain ⟨others, later, -⟩ := Option.bind_eq_some_iff.mp read
        have inside := (deserializeGroupMember_some_iff reader data offset).mp ⟨member, first⟩
        exact (ih _ inside).mp ⟨others, later⟩
      · intro room
        have inside : offset + 900 ≤ data.length := Nat.le_trans (Nat.le_add_right _ _) room
        obtain ⟨member, first⟩ := (deserializeGroupMember_some_iff reader data offset).mpr inside
        obtain ⟨others, later⟩ := (ih (offset + 900) inside).mpr room
        rw [first, later]
        exact ⟨_, rfl⟩

end Members

/-- An answer is read exactly if it holds as many whole records as it counts, and any members that the server writes
into one, whatever follows them, are read back field by field. -/
theorem deserializeGroupMembers_reads {Text : Type} (reader : TextReader Text) :
    (∀ data, (∃ members, GroupManager.deserializeGroupMembers reader data = some members) ↔
      ∃ count, getUint 4 0 data = some count ∧ 4 + 900 * count ≤ data.length) ∧
    ∀ (members : List WireMember) (rest : List UInt8), members.length < 4294967296 →
      GroupManager.deserializeGroupMembers reader (membersBytes members ++ rest) =
        some (members.map (·.read reader)) := by
  constructor
  · intro data
    rw [GroupManager.deserializeGroupMembers]
    cases counted : getUint 4 0 data with
    | none => exact iff_of_false (by rintro ⟨_, ⟨⟩⟩) (by rintro ⟨_, ⟨⟩, _⟩)
    | some count =>
        have start := getUint_inside counted
        refine (readGroupMembers_some_iff reader data count 4 (by omega)).trans ⟨fun room => ⟨count, rfl, room⟩, ?_⟩
        rintro ⟨other, same, room⟩
        cases same
        exact room
  · intro members rest few
    have counted := getUint_field [] (uintBytes 4 members.length) (members.flatMap WireMember.bytes ++ rest) 4 0 rfl
      (uintBytes_length _ _)
    have read := readGroupMembers_bytes reader members (uintBytes 4 members.length) rest
    rw [List.nil_append, uintBytes_of_fits 4 members.length few, bigEndianValue_bigEndian 4 members.length few] at counted
    rw [uintBytes_length, uintBytes_of_fits 4 members.length few] at read
    rw [GroupManager.deserializeGroupMembers, membersBytes, List.append_assoc, uintBytes_of_fits 4 members.length few]
    rw [counted]
    exact read

/-- A member without keys, with one bit for each of its permissions. -/
def sampleWireMember (userId permissionsBitmap : UInt64) : WireMember :=
  ⟨5, userId, 3, 0, 0, 0, ⟨[0x62], by decide⟩, permissionsBitmap, 0, 0, ⟨[], by decide⟩, ⟨[], by decide⟩, 1, true, false,
    true⟩

def lengthReader : TextReader Nat := ⟨List.length, fun length => length ≠ 0⟩

theorem deserializeGroupMembers_reads_sample :
    GroupManager.deserializeGroupMembers lengthReader (membersBytes [sampleWireMember 2 3] ++ [0xFF]) =
      some [(sampleWireMember 2 3).read lengthReader] :=
  (deserializeGroupMembers_reads lengthReader).2 [sampleWireMember 2 3] [0xFF] (by decide)

section Permissions

theorem bitPermissions_eq_some_iff {index : Nat} {permission : GroupPermission} :
    bitPermissions index = some permission ↔ permissionBits permission = index := by
  constructor
  · intro found
    unfold bitPermissions at found
    split at found <;> cases found <;> rfl
  · rintro rfl
    cases permission <;> rfl

theorem permissionBits_lt (permission : GroupPermission) : permissionBits permission < 24 := by
  cases permission <;> decide

theorem testBit_foldl (permissions : List GroupPermission) (bitmap index : Nat) :
    (permissions.foldl (fun bitmap permission => bitmap ||| 1 <<< permissionBits permission) bitmap).testBit index =
      (bitmap.testBit index || permissions.any fun permission => permissionBits permission = index) := by
  induction permissions generalizing bitmap with
  | nil => simp
  | cons permission rest ih =>
      rw [List.foldl_cons, ih, Nat.testBit_or, Nat.one_shiftLeft, Nat.testBit_two_pow, List.any_cons, Bool.or_assoc]

/-- A bit is set exactly if one of the permissions has it. -/
theorem testBit_permissionsToBitmap (permissions : List GroupPermission) (permission : GroupPermission) :
    (permissionsToBitmap permissions).testBit (permissionBits permission) = true ↔ permission ∈ permissions := by
  rw [permissionsToBitmap, testBit_foldl, Nat.zero_testBit, Bool.false_or, List.any_eq_true]
  constructor
  · rintro ⟨other, member, same⟩
    have first := bitPermissions_eq_some_iff.mpr (of_decide_eq_true same)
    have second := bitPermissions_eq_some_iff.mpr (rfl : permissionBits permission = _)
    cases first.symm.trans second
    exact member
  · exact fun member => ⟨permission, member, decide_eq_true rfl⟩

theorem permissionsToBitmap_lt (permissions : List GroupPermission) : permissionsToBitmap permissions < 2 ^ 24 := by
  apply Nat.lt_pow_two_of_testBit
  intro index large
  rw [permissionsToBitmap, testBit_foldl, Nat.zero_testBit, Bool.false_or, List.any_eq_false]
  intro permission member same
  have small := permissionBits_lt permission
  have equal := of_decide_eq_true same
  omega

/-- What is read out of a bitmap are the permissions whose bits are set. -/
theorem mem_bitmapToPermissions (bitmap : Nat) (permission : GroupPermission) :
    permission ∈ bitmapToPermissions bitmap ↔ bitmap.testBit (permissionBits permission) = true := by
  have masked (index : Nat) : bitmap &&& 1 <<< index ≠ 0 ↔ bitmap.testBit index = true := by
    rw [Nat.one_shiftLeft, Nat.and_two_pow]
    cases bitmap.testBit index with
    | false => simp
    | true => simp [Nat.two_pow_pos]
  rw [bitmapToPermissions, List.mem_filterMap]
  constructor
  · rintro ⟨index, -, shown⟩
    split at shown
    · rename_i set
      rw [bitPermissions_eq_some_iff.mp shown]
      exact (masked index).mp set
    · cases shown
  · intro set
    have small := permissionBits_lt permission
    refine ⟨permissionBits permission, List.mem_range.mpr (by omega), ?_⟩
    rw [if_pos ((masked _).mpr set)]
    exact bitPermissions_eq_some_iff.mpr rfl

end Permissions

section Arrival

variable {Text : Type} (reader : TextReader Text)

/-- The cache holds the last of the members with a number. -/
theorem foldl_cacheMember (members : List (ReceivedMember Text)) (memberMap : Nat → Option GroupMember)
    (userId : Nat) :
    members.foldl GroupManager.cacheMember memberMap userId =
      match members.reverse.find? (·.userId = userId) with
      | some member => some member.toGroupMember
      | none => memberMap userId := by
  induction members generalizing memberMap with
  | nil => rfl
  | cons member rest ih =>
      rw [List.foldl_cons, ih, List.reverse_cons, List.find?_append]
      cases rest.reverse.find? (·.userId = userId) with
      | some later => rfl
      | none =>
          rw [Option.none_or, List.find?_singleton, GroupManager.cacheMember]
          by_cases same : member.userId = userId
          · rw [if_pos (decide_eq_true same), ← same, Function.update_self]
          · rw [if_neg (by simpa using same), Function.update_of_ne (Ne.symm same)]

/-- The bitmap of a request lies behind the two numbers. -/
theorem setMemberPermissions_bitmap {manager : GroupManager Text} {groupId userId type : Nat}
    {permissions : List GroupPermission} {data : List UInt8}
    (sent : manager.setMemberPermissions groupId userId permissions = .ok (type, data)) :
    bigEndianValue (sliceBytes 16 24 data) = permissionsToBitmap permissions := by
  have small := permissionsToBitmap_lt permissions
  have fits : permissionsToBitmap permissions < 256 ^ 8 := Nat.lt_of_lt_of_le small (by decide)
  rw [GroupManager.setMemberPermissions] at sent
  split at sent
  · cases sent
  · split at sent
    · cases sent
    · cases sent
      have placed := sliceBytes_field (uintBytes 8 groupId ++ uintBytes 8 userId)
        (uintBytes 8 (permissionsToBitmap permissions)) [] 16 24
        (by rw [List.length_append, uintBytes_length, uintBytes_length]) (by rw [uintBytes_length])
      rw [List.append_nil] at placed
      rw [placed, uintBytes_of_fits 8 _ fits, bigEndianValue_bigEndian 8 _ fits]

end Arrival

/-- The permissions that somebody sets for a member, in any order and as often as they are named, are what the member
has beside its role, once the server has put the bitmap of the request into the last record of that member. -/
theorem permissions_arrive {Text : Type} (reader : TextReader Text) (manager receiver : GroupManager Text)
    (groupId userId type : Nat) (permissions : List GroupPermission) (data : List UInt8) (first : WireMember)
    (rest : List WireMember) (record : WireMember) (few : (first :: rest).length < 4294967296)
    (sent : manager.setMemberPermissions groupId userId permissions = .ok (type, data))
    (found : (first :: rest).reverse.find? (fun member => member.userId.toNat = receiver.currentUserId) = some record)
    (copied : record.permissionsBitmap.toNat = bigEndianValue (sliceBytes 16 24 data))
    (permission : GroupPermission) :
    (receiver.handleGroupMembersResponse reader (membersBytes (first :: rest))).1.hasPermission first.groupId.toNat
        permission = true ↔
      permission ∈ GroupManager.rolePermissions (GroupManager.codeToGroupRole record.roleCode.toNat) ∨
        permission ∈ permissions := by
  have read := (deserializeGroupMembers_reads reader).2 (first :: rest) [] few
  rw [List.append_nil, List.map_cons] at read
  have cached := foldl_cacheMember ((first :: rest).map (·.read reader))
    ((receiver.groupMembers first.groupId.toNat).getD fun _ => none) receiver.currentUserId
  have last : ((first :: rest).map (·.read reader)).reverse.find? (·.userId = receiver.currentUserId) =
      some (record.read reader) := by
    rw [← List.map_reverse, List.find?_map]
    exact congrArg (Option.map (·.read reader)) found
  rw [last] at cached
  have member : (receiver.handleGroupMembersResponse reader (membersBytes (first :: rest))).1.getGroupMember
      first.groupId.toNat receiver.currentUserId = some (record.read reader).toGroupMember := by
    rw [GroupManager.handleGroupMembersResponse, read, GroupManager.getGroupMember]
    show (Function.update receiver.groupMembers first.groupId.toNat _ first.groupId.toNat).bind _ = _
    rw [Function.update_self]
    exact cached
  have same : (receiver.handleGroupMembersResponse reader (membersBytes (first :: rest))).1.currentUserId =
      receiver.currentUserId := by
    rw [GroupManager.handleGroupMembersResponse, read]
  have granted : permission ∈ (record.read reader).permissions ↔ permission ∈ permissions := by
    show permission ∈ bitmapToPermissions record.permissionsBitmap.toNat ↔ _
    rw [mem_bitmapToPermissions, copied, setMemberPermissions_bitmap sent, testBit_permissionsToBitmap]
  rw [GroupManager.hasPermission, same, member, ← granted]
  show (if permission ∈ GroupManager.rolePermissions (record.read reader).role then true
    else if permission ∈ (record.read reader).permissions then true else false) = true ↔ _
  by_cases role : permission ∈ GroupManager.rolePermissions (record.read reader).role
  · rw [if_pos role]
    exact iff_of_true rfl (.inl role)
  · rw [if_neg role]
    by_cases own : permission ∈ (record.read reader).permissions
    · rw [if_pos own]
      exact iff_of_true rfl (.inr own)
    · rw [if_neg own]
      exact iff_of_false Bool.false_ne_true (not_or.mpr ⟨role, own⟩)

/-- The owner of a group with another member. -/
def ownedGroup : GroupManager Nat where
  groups _ := some ⟨5, 1, false, false⟩
  groupMembers _ := some fun userId => some ⟨5, userId, if userId = 1 then .owner else .member, [], none⟩
  groupMessages _ := none
  currentUserId := 1

/-- The other member before the answer of the server. -/
def joinedGroup : GroupManager Nat := { ownedGroup with groupMembers := fun _ => none, currentUserId := 2 }

theorem permissions_arrive_sample :
    (joinedGroup.handleGroupMembersResponse lengthReader
      (membersBytes [sampleWireMember 2 0x400002])).1.hasPermission 5 .manage2FA = true := by
  have sent : ownedGroup.setMemberPermissions 5 2 [.manage2FA, .sendFile, .manage2FA] =
      .ok (0x04000010, uintBytes 8 5 ++ uintBytes 8 2 ++ uintBytes 8 0x400002) := by
    decide +kernel
  exact (permissions_arrive lengthReader ownedGroup joinedGroup 5 2 0x04000010 _ _ (sampleWireMember 2 0x400002) []
    (sampleWireMember 2 0x400002) (by decide) sent rfl (by decide +kernel) .manage2FA).mpr
      (.inr (by decide))

end SecureChat.Web
