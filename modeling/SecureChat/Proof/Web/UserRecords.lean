import SecureChat.Construction.Web.Codec

namespace SecureChat.Web.ProtocolCodec
open Library Protocol

/-- The integer is found at its offset in the image of the struct. -/
def HoldsUint (image : List UInt8) (width offset : Nat) (value : Int) : Prop :=
  (getUint width offset image).map (Nat.cast (R := Int)) = some value

/-- Each field of the record is found at its offset in the packed struct. -/
structure ReadsAs {Text : Type} (encode : Text → List UInt8) (image : List UInt8) (info : UserInfo Text) :
    Prop where
  userId : HoldsUint image 8 0 info.userId
  username : cString (sliceBytes 8 72 image) = encode info.username
  nickname : cString (sliceBytes 72 136 image) = encode info.nickname
  email : cString (sliceBytes 136 264 image) = encode info.email
  avatarId : HoldsUint image 4 264 info.avatarId
  status : HoldsUint image 4 268 info.status
  statusMessage : cString (sliceBytes 272 400 image) = encode info.statusMessage
  lastSeen : HoldsUint image 8 400 info.lastSeen
  friendCount : HoldsUint image 4 408 info.friendCount
  groupCount : HoldsUint image 4 412 info.groupCount
  isVerified : (getUint 1 416 image).map (· ≠ 0) = some (info.isVerified = true)
  isPremium : (getUint 1 417 image).map (· ≠ 0) = some (info.isPremium = true)
  createdAt : HoldsUint image 8 418 info.createdAt

/-- The struct as the browser would name its fields. -/
def userInfoOf {Text : Type} (decode : List UInt8 → Text) (record : Protocol.UserInfo) : UserInfo Text where
  userId := record.userId.toNat
  username := decode (cString record.username.val)
  nickname := decode (cString record.nickname.val)
  email := decode (cString record.email.val)
  avatarId := record.avatarId.toNat
  status := record.status.toNat
  statusMessage := decode (cString record.statusMessage.val)
  lastSeen := record.lastSeen.toNat
  friendCount := record.friendCount.toNat
  groupCount := record.groupCount.toNat
  isVerified := record.isVerified ≠ 0
  isPremium := record.isPremium ≠ 0
  createdAt := record.createdAt.toNat

/-- The record stays the same when all behind the first byte of its status moves by three bytes. -/
structure Displaceable {Text : Type} (decode : List UInt8 → Text) (record : Protocol.UserInfo) : Prop where
  status : record.status = 0
  statusMessage : decode (cString record.statusMessage.val) = decode []
  periodic : ∃ first second third, record.statusMessage.val.drop 125 = [first, second, third] ∧
    bigEndian 8 record.lastSeen.toNat = [first, second, third, first, second, third, first, second] ∧
    bigEndian 4 record.friendCount.toNat = [third, first, second, third] ∧
    bigEndian 4 record.groupCount.toNat = [first, second, third, first] ∧
    (second ≠ 0 ↔ record.isVerified ≠ 0) ∧ (third ≠ 0 ↔ record.isPremium ≠ 0) ∧
    bigEndian 8 record.createdAt.toNat = [first, record.isVerified, record.isPremium, first,
      record.isVerified, record.isPremium, first, record.isVerified]

section Browser

variable {Text : Type} (encode : Text → List UInt8)

/-- A field of the browser's image is found behind the fields in front of it. -/
theorem getUint_userFields (info : UserInfo Text) (index width offset : Nat) (value : Int)
    (found : (userFields encode info)[index]? = some (uintBytes width value))
    (start : ((userFields encode info).take index).flatten.length = offset) :
    HoldsUint (userFields encode info).flatten width offset (value % 256 ^ width) := by
  have read := getUint_flatten (userFields encode info) [] index width offset _ found start
    (uintBytes_length width value)
  rw [List.append_nil] at read
  rw [HoldsUint, read, Option.map_some, bigEndianValue_uintBytes_mod]

/-- A text without a zero that fits its field is read back. -/
theorem cString_serializeString (str : Text) (maxLength : Nat) (fits : (encode str).length < maxLength)
    (plain : ∀ byte ∈ encode str, byte ≠ 0) : cString (serializeString encode str maxLength) = encode str := by
  have whole : min (encode str).length (maxLength - 1) = (encode str).length := by omega
  obtain ⟨rest, some⟩ := Nat.exists_eq_add_of_lt fits
  have padding : maxLength - (encode str).length = rest + 1 := by omega
  rw [cString, serializeString, whole, List.take_length, padding, List.replicate_succ, List.takeWhile_append_of_pos]
  · rw [List.takeWhile_cons_of_neg (by decide), List.append_nil]
  · exact fun byte member => decide_eq_true (plain byte member)

theorem sliceBytes_userFields (info : UserInfo Text) (index first last : Nat) (field : List UInt8)
    (found : (userFields encode info)[index]? = some field)
    (start : ((userFields encode info).take index).flatten.length = first)
    (size : first + field.length = last) :
    sliceBytes first last (userFields encode info).flatten = field := by
  have read := sliceBytes_flatten (userFields encode info) [] index first last field found start size
  rwa [List.append_nil] at read

/-- The fields in front of the status are the same on both sides. -/
theorem serializeUserInfo_front (info : UserInfo Text)
    (numbers : (0 ≤ info.userId ∧ info.userId < 2 ^ 64) ∧ 0 ≤ info.avatarId ∧ info.avatarId < 2 ^ 32)
    (sizes : (encode info.username).length < 64 ∧ (encode info.nickname).length < 64 ∧
      (encode info.email).length < 128)
    (plain : ∀ text ∈ [info.username, info.nickname, info.email], ∀ byte ∈ encode text, byte ≠ 0) :
    ∃ image, serializeUserInfo encode info = some image ∧ HoldsUint image 8 0 info.userId ∧
      cString (sliceBytes 8 72 image) = encode info.username ∧
      cString (sliceBytes 72 136 image) = encode info.nickname ∧
      cString (sliceBytes 136 264 image) = encode info.email ∧ HoldsUint image 4 264 info.avatarId := by
  have userId_at : ((userFields encode info).take 0).flatten.length = 0 := rfl
  have username_at : ((userFields encode info).take 1).flatten.length = 8 := by simp [userFields]
  have nickname_at : ((userFields encode info).take 2).flatten.length = 72 := by simp [userFields]
  have email_at : ((userFields encode info).take 3).flatten.length = 136 := by simp [userFields]
  have avatarId_at : ((userFields encode info).take 4).flatten.length = 264 := by simp [userFields]
  have userId := getUint_userFields encode info 0 8 0 info.userId rfl userId_at
  have avatarId := getUint_userFields encode info 4 4 264 info.avatarId rfl avatarId_at
  have eight : (256 : Int) ^ 8 = 2 ^ 64 := by decide
  have four : (256 : Int) ^ 4 = 2 ^ 32 := by decide
  rw [eight, Int.emod_eq_of_lt numbers.1.1 numbers.1.2] at userId
  rw [four, Int.emod_eq_of_lt numbers.2.1 numbers.2.2] at avatarId
  refine ⟨_, serializeUserInfo_eq encode info, userId, ?_, ?_, ?_, avatarId⟩
  · rw [sliceBytes_userFields encode info 1 8 72 _ rfl username_at (by rw [serializeString_length])]
    exact cString_serializeString encode _ 64 sizes.1 (plain _ (by simp))
  · rw [sliceBytes_userFields encode info 2 72 136 _ rfl nickname_at (by rw [serializeString_length])]
    exact cString_serializeString encode _ 64 sizes.2.1 (plain _ (by simp))
  · rw [sliceBytes_userFields encode info 3 136 264 _ rfl email_at (by rw [serializeString_length])]
    exact cString_serializeString encode _ 128 sizes.2.2 (plain _ (by simp))

/-- The image of the browser is three bytes shorter than the struct. -/
theorem serializeUserInfo_misread (info : UserInfo Text) :
    ∃ image, serializeUserInfo encode info = some image ∧ ¬ ReadsAs encode image info := by
  refine ⟨_, serializeUserInfo_eq encode info, fun reads => ?_⟩
  have outside : ¬ 418 + 8 ≤ (userFields encode info).flatten.length := by
    rw [userFields_length]
    decide
  have last := reads.createdAt
  rw [HoldsUint, getUint, if_neg outside] at last
  cases last

end Browser

section Struct

variable {Text : Type} (decode : List UInt8 → Text)

/-- The thirteen pieces into which the browser cuts a buffer. -/
structure Pieces where
  userId : List UInt8
  username : List UInt8
  nickname : List UInt8
  email : List UInt8
  avatarId : List UInt8
  status : UInt8
  statusMessage : List UInt8
  lastSeen : List UInt8
  friendCount : List UInt8
  groupCount : List UInt8
  isVerified : UInt8
  isPremium : UInt8
  createdAt : List UInt8

def Pieces.fields (pieces : Pieces) : List (List UInt8) :=
  [pieces.userId, pieces.username, pieces.nickname, pieces.email, pieces.avatarId, [pieces.status],
    pieces.statusMessage, pieces.lastSeen, pieces.friendCount, pieces.groupCount, [pieces.isVerified],
    [pieces.isPremium], pieces.createdAt]

def pieceSizes : List Nat := [8, 64, 64, 128, 4, 1, 128, 8, 4, 4, 1, 1, 8]

/-- Each piece has the size of its field. -/
def Pieces.Sized (pieces : Pieces) : Prop := pieces.fields.map List.length = pieceSizes

/-- The browser reads exactly the pieces of a buffer. -/
theorem deserializeUserInfo_pieces (pieces : Pieces) (sized : pieces.Sized) (rest : List UInt8) :
    deserializeUserInfo decode (pieces.fields.flatten ++ rest) = some {
      userId := bigEndianValue pieces.userId
      username := decode (cString pieces.username)
      nickname := decode (cString pieces.nickname)
      email := decode (cString pieces.email)
      avatarId := bigEndianValue pieces.avatarId
      status := pieces.status.toNat
      statusMessage := decode (cString pieces.statusMessage)
      lastSeen := bigEndianValue pieces.lastSeen
      friendCount := bigEndianValue pieces.friendCount
      groupCount := bigEndianValue pieces.groupCount
      isVerified := pieces.isVerified ≠ 0
      isPremium := pieces.isPremium ≠ 0
      createdAt := bigEndianValue pieces.createdAt } := by
  have size : ∀ (index : Nat) (field : List UInt8), pieces.fields[index]? = some field →
      pieceSizes[index]? = some field.length := by
    intro index field found
    rw [← sized, List.getElem?_map, found, Option.map_some]
  have start : ∀ index, (pieces.fields.take index).flatten.length = (pieceSizes.take index).sum := by
    intro index
    rw [List.length_flatten, List.map_take, sized]
  have integer : ∀ index width offset field, pieces.fields[index]? = some field →
      (pieceSizes.take index).sum = offset → pieceSizes[index]? = some width →
      getUint width offset (pieces.fields.flatten ++ rest) = some (bigEndianValue field) := by
    intro index width offset field found sum same
    have length := Option.some.inj ((size index field found).symm.trans same)
    exact getUint_flatten _ rest index width offset field found ((start index).trans sum) length
  have text : ∀ index width first last field, pieces.fields[index]? = some field →
      (pieceSizes.take index).sum = first → pieceSizes[index]? = some width → first + width = last →
      deserializeString decode (sliceBytes first last (pieces.fields.flatten ++ rest)) width =
        decode (cString field) := by
    intro index width first last field found sum same stop
    have length := Option.some.inj ((size index field found).symm.trans same)
    obtain rfl := length
    rw [sliceBytes_flatten _ rest index first last field found ((start index).trans sum) stop,
      deserializeString, List.take_length, cString]
  have byte : ∀ value : UInt8, bigEndianValue [value] = value.toNat := fun value => Nat.add_zero _
  simp only [deserializeUserInfo, Nat.reduceAdd, integer 0 8 0 _ rfl rfl rfl, text 1 64 8 72 _ rfl rfl rfl rfl,
    text 2 64 72 136 _ rfl rfl rfl rfl, text 3 128 136 264 _ rfl rfl rfl rfl, integer 4 4 264 _ rfl rfl rfl,
    integer 5 1 268 _ rfl rfl rfl, text 6 128 269 397 _ rfl rfl rfl rfl, integer 7 8 397 _ rfl rfl rfl,
    integer 8 4 405 _ rfl rfl rfl, integer 9 4 409 _ rfl rfl rfl, integer 10 1 413 _ rfl rfl rfl,
    integer 11 1 414 _ rfl rfl rfl, integer 12 8 415 _ rfl rfl rfl, byte, Option.bind_eq_bind,
    Option.bind_some, Nat.zero_add]
  have flag : ∀ value : UInt8, (value.toNat ≠ 0) = (value ≠ 0) := by
    intro value
    rw [ne_eq, ne_eq, ← UInt8.toNat_inj]
    rfl
  simp only [flag]

/-- The number in a record is the number that the browser reads, if it reads the same bytes. -/
theorem number_iff (bytes : List UInt8) (width value : Nat) (size : bytes.length = width)
    (fits : value < 256 ^ width) : ((bigEndianValue bytes : Int) = value) ↔ bytes = bigEndian width value := by
  obtain rfl := size
  rw [Int.natCast_inj, bigEndianValue_eq_iff bytes value fits]

/-- The browser takes the highest byte of the status for the status. -/
theorem status_iff (status : UInt32) (first second third fourth : UInt8)
    (bytes : bigEndian 4 status.toNat = [first, second, third, fourth]) :
    first.toNat = status.toNat ↔ status = 0 := by
  have fits := status.toNat_lt
  have value := bigEndianValue_bigEndian 4 status.toNat (by omega)
  rw [bytes] at value
  simp only [bigEndianValue, List.reverse_cons, List.reverse_nil, List.nil_append, List.cons_append,
    littleEndianValue] at value
  rw [← UInt32.toNat_inj, UInt32.toNat_zero]
  omega

/-- The browser reads a record of the server as it is exactly when it is displaceable. -/
theorem deserializeUserInfo_image_iff (record : Protocol.UserInfo) :
    deserializeUserInfo decode record.image = some (userInfoOf decode record) ↔
      Displaceable decode record := by
  obtain ⟨s0, s1, s2, s3, status⟩ : ∃ s0 s1 s2 s3, bigEndian 4 record.status.toNat = [s0, s1, s2, s3] :=
    ⟨_, _, _, _, rfl⟩
  obtain ⟨l0, l1, l2, l3, l4, l5, l6, l7, lastSeen⟩ : ∃ l0 l1 l2 l3 l4 l5 l6 l7,
      bigEndian 8 record.lastSeen.toNat = [l0, l1, l2, l3, l4, l5, l6, l7] := ⟨_, _, _, _, _, _, _, _, rfl⟩
  obtain ⟨f0, f1, f2, f3, friendCount⟩ : ∃ f0 f1 f2 f3,
      bigEndian 4 record.friendCount.toNat = [f0, f1, f2, f3] := ⟨_, _, _, _, rfl⟩
  obtain ⟨g0, g1, g2, g3, groupCount⟩ : ∃ g0 g1 g2 g3,
      bigEndian 4 record.groupCount.toNat = [g0, g1, g2, g3] := ⟨_, _, _, _, rfl⟩
  obtain ⟨c0, c1, c2, c3, c4, c5, c6, c7, createdAt⟩ : ∃ c0 c1 c2 c3 c4 c5 c6 c7,
      bigEndian 8 record.createdAt.toNat = [c0, c1, c2, c3, c4, c5, c6, c7] := ⟨_, _, _, _, _, _, _, _, rfl⟩
  obtain ⟨a, b, c, tail⟩ : ∃ a b c, record.statusMessage.val.drop 125 = [a, b, c] := by
    apply List.length_eq_three.mp
    rw [List.length_drop, record.statusMessage.property]
  have message : record.statusMessage.val = record.statusMessage.val.take 125 ++ [a, b, c] := by
    rw [← tail, List.take_append_drop]
  let pieces : Pieces := {
    userId := bigEndian 8 record.userId.toNat
    username := record.username.val
    nickname := record.nickname.val
    email := record.email.val
    avatarId := bigEndian 4 record.avatarId.toNat
    status := s0
    statusMessage := [s1, s2, s3] ++ record.statusMessage.val.take 125
    lastSeen := [a, b, c, l0, l1, l2, l3, l4]
    friendCount := [l5, l6, l7, f0]
    groupCount := [f1, f2, f3, g0]
    isVerified := g1
    isPremium := g2
    createdAt := [g3, record.isVerified, record.isPremium, c0, c1, c2, c3, c4] }
  have sized : pieces.Sized := by
    simp [pieces, Pieces.Sized, Pieces.fields, pieceSizes, record.username.property, record.nickname.property,
      record.email.property, record.statusMessage.property]
  have cut : record.image = pieces.fields.flatten ++ [c5, c6, c7] := by
    rw [Protocol.UserInfo.image, Protocol.UserInfo.fields, message, status, lastSeen, friendCount,
      groupCount, createdAt]
    simp [pieces, Pieces.fields]
  have eight : ∀ value : UInt64, value.toNat < 256 ^ 8 := fun value => value.toNat_lt
  have four : ∀ value : UInt32, value.toNat < 256 ^ 4 := fun value => value.toNat_lt
  rw [cut, deserializeUserInfo_pieces decode pieces sized, userInfoOf, Option.some_inj, UserInfo.mk.injEq,
    number_iff _ 8 _ (bigEndian_length _ _) (eight _), number_iff _ 4 _ (bigEndian_length _ _) (four _),
    Int.natCast_inj, status_iff record.status s0 s1 s2 s3 status, number_iff _ 8 _ rfl (eight _),
    number_iff _ 4 _ rfl (four _), number_iff _ 4 _ rfl (four _), number_iff _ 8 _ rfl (eight _),
    lastSeen, friendCount, groupCount, createdAt, decide_eq_decide, decide_eq_decide]
  have emptied : record.status = 0 → cString pieces.statusMessage = [] := by
    intro offline
    have zeros : bigEndian 4 (UInt32.toNat 0) = [0, 0, 0, 0] := rfl
    rw [offline, zeros, List.cons.injEq, List.cons.injEq] at status
    obtain ⟨-, zero, -⟩ := status
    show cString ([s1, s2, s3] ++ _) = []
    rw [← zero]
    rfl
  constructor
  · rintro ⟨-, -, -, -, -, offline, text, seen, friends, groups, verified, premium, created⟩
    rw [emptied offline] at text
    refine ⟨offline, text.symm, a, b, c, tail, ?_⟩
    rw [lastSeen, friendCount, groupCount, createdAt]
    simp only [pieces, List.cons.injEq] at seen friends groups created verified premium
    obtain ⟨rfl, rfl, rfl, rfl, rfl, rfl, rfl, rfl, -⟩ := seen
    obtain ⟨rfl, rfl, rfl, rfl, -⟩ := friends
    obtain ⟨rfl, rfl, rfl, rfl, -⟩ := groups
    obtain ⟨rfl, rfl, rfl, rfl, rfl, rfl, rfl, rfl, -⟩ := created
    exact ⟨rfl, rfl, rfl, verified, premium, rfl⟩
  · rintro ⟨offline, text, first, second, third, last, seen, friends, groups, verified, premium, created⟩
    rw [tail] at last
    rw [lastSeen] at seen
    rw [friendCount] at friends
    rw [groupCount] at groups
    rw [createdAt] at created
    rw [emptied offline]
    simp only [List.cons.injEq] at last seen friends groups created
    obtain ⟨rfl, rfl, rfl, -⟩ := last
    obtain ⟨rfl, rfl, rfl, rfl, rfl, rfl, rfl, rfl, -⟩ := seen
    obtain ⟨rfl, rfl, rfl, rfl, -⟩ := friends
    obtain ⟨rfl, rfl, rfl, rfl, -⟩ := groups
    obtain ⟨rfl, rfl, rfl, rfl, rfl, rfl, rfl, rfl, -⟩ := created
    exact ⟨rfl, rfl, rfl, rfl, rfl, offline, text.symm, rfl, rfl, rfl, verified, premium, rfl⟩

end Struct

/-- No record that the browser writes is read as it is from the struct,
and it reads a struct as it is exactly when that is displaceable. -/
theorem userInfo_agrees_iff {Text : Type} (encode : Text → List UInt8) (decode : List UInt8 → Text)
    (info : UserInfo Text) (record : Protocol.UserInfo) :
    (∃ image, serializeUserInfo encode info = some image ∧ ¬ ReadsAs encode image info) ∧
      (deserializeUserInfo decode record.image = some (userInfoOf decode record) ↔
        Displaceable decode record) :=
  ⟨serializeUserInfo_misread encode info, deserializeUserInfo_image_iff decode record⟩

/-- The user with the number 7, who is online. -/
def onlineUser : UserInfo (List UInt8) :=
  ⟨7, [0x61], [0x61], [0x61], 0, 1, [], 0, 0, 0, false, false, 0⟩

def onlineRecord : Protocol.UserInfo where
  userId := 7
  username := ⟨0x61 :: List.replicate 63 0, rfl⟩
  nickname := ⟨0x61 :: List.replicate 63 0, rfl⟩
  email := ⟨0x61 :: List.replicate 127 0, rfl⟩
  avatarId := 0
  status := 1
  statusMessage := ⟨List.replicate 128 0, rfl⟩
  lastSeen := 0
  friendCount := 0
  groupCount := 0
  isVerified := 0
  isPremium := 0
  createdAt := 0

/-- The server reads the status 16777216 and no time of creation, and the browser reads the status 0. -/
theorem userInfo_misread_online :
    (∃ image, serializeUserInfo id onlineUser = some image ∧ getUint 4 268 image = some 16777216 ∧
      getUint 8 418 image = none ∧ ¬ ReadsAs id image onlineUser) ∧
    (deserializeUserInfo id onlineRecord.image).map (·.status) = some 0 ∧
    deserializeUserInfo id onlineRecord.image ≠ some (userInfoOf id onlineRecord) := by
  have status : (deserializeUserInfo id onlineRecord.image).map (·.status) = some 0 := by decide +kernel
  have written : getUint 4 268 (userFields id onlineUser).flatten = some 16777216 := by decide +kernel
  refine ⟨⟨_, serializeUserInfo_eq id onlineUser, written, by decide +kernel, fun reads => ?_⟩, status, ?_⟩
  · have online := reads.status
    rw [HoldsUint, written] at online
    exact absurd online (by decide)
  · intro same
    rw [same] at status
    exact absurd status (by decide)

end SecureChat.Web.ProtocolCodec
