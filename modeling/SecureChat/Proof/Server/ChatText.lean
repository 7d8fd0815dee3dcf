import SecureChat.Construction.Server.ChatText
import Mathlib.Data.List.Nodup
import Mathlib.Tactic.Common

namespace SecureChat.Dispatch
open Protocol

/-- The checks of the sender and of the size. -/
def SenderAndSize (conn : ClientConnection) (body : MessageBody) : Prop :=
  (castMessageContent body.memory).senderId = conn.userId ∧
    (castMessageContent body.memory).contentLength.toNat ≤ maxMessageSize

instance (conn : ClientConnection) (body : MessageBody) : Decidable (SenderAndSize conn body) :=
  inferInstanceAs (Decidable (_ ∧ _))

/-- The content that a body declares ends inside the body. -/
def DeclaredInside (body : MessageBody) : Prop :=
  messageContentSize + (castMessageContent body.memory).contentLength.toNat ≤ body.data.length

instance (body : MessageBody) : Decidable (DeclaredInside body) := inferInstanceAs (Decidable (_ ≤ _))

/-- What the handler does with a message that passes its checks. -/
theorem handleChatTextSend_processed {conn : ClientConnection} {body : MessageBody}
    (long : messageContentSize ≤ body.data.length) (checked : SenderAndSize conn body) (answers : ChatAnswers) :
    handleChatTextSend conn body answers =
      (⟨0, messageContentSize⟩ :: chatReads (castMessageContent body.memory) body
          (chatSends (castMessageContent body.memory) conn.userId answers) answers,
        .processed answers.responseSent (chatSends (castMessageContent body.memory) conn.userId answers)
          (if answers.prepareOk then some (chatRow (castMessageContent body.memory) body answers.now) else none)) := by
  unfold handleChatTextSend
  dsimp only
  rw [if_neg (Nat.not_lt.mpr long), if_neg (not_not_intro checked.1), if_neg (Nat.not_lt.mpr checked.2)]

/-- A message that does not pass is read up to its content and sent to nobody. -/
theorem handleChatTextSend_refused {conn : ClientConnection} {body : MessageBody}
    (long : messageContentSize ≤ body.data.length) (unchecked : ¬SenderAndSize conn body)
    (answers : ChatAnswers) :
    (handleChatTextSend conn body answers).1 = [⟨0, messageContentSize⟩] ∧
      (handleChatTextSend conn body answers).2.isProcessed = false := by
  unfold handleChatTextSend
  dsimp only
  rw [if_neg (Nat.not_lt.mpr long)]
  split_ifs with sender size
  · exact ⟨rfl, rfl⟩
  · exact ⟨rfl, rfl⟩
  all_goals exact absurd ⟨not_not.mp sender, Nat.not_lt.mp size⟩ unchecked

/-- The parser accepts a message exactly when its declared content is there. -/
theorem messageParseData_chat_iff (layout : Layout) {body : MessageBody}
    (long : messageContentSize ≤ body.data.length) :
    (messageParseData layout.withMessageContent body msgChatTextSend true).1 = 0 ↔ DeclaredInside body := by
  have nonempty : body.data.length ≠ 0 := by
    have positive : 0 < messageContentSize := by decide
    omega
  unfold messageParseData DeclaredInside
  have sized : layout.withMessageContent.messageContent = messageContentSize := rfl
  rw [if_neg nonempty, if_neg (by decide), if_pos rfl, sized, if_neg (Nat.not_lt.mpr long)]
  dsimp only
  split_ifs with short
  · simp only [show (-3 : Int) ≠ 0 by decide, false_iff]
    exact Nat.not_le.mpr short
  · simp only [Bool.not_true, Bool.false_eq_true] at *
  · simp only [true_iff]
    exact Nat.not_lt.mp short

/-- Everything that the handler reads of a message lies inside if the declared content does. -/
theorem chatReads_inside {body : MessageBody} (inside : DeclaredInside body) (sends : List UInt64)
    (answers : ChatAnswers) :
    ∀ range ∈ chatReads (castMessageContent body.memory) body sends answers,
      range.start + range.count ≤ body.data.length := by
  have bound : messageContentSize ≤ body.data.length := Nat.le_trans (Nat.le_add_right _ _) inside
  intro range member
  rw [chatReads, List.mem_append, List.mem_map] at member
  rcases member with ⟨user, -, rfl⟩ | stored
  · exact Nat.le_of_eq (Nat.zero_add _)
  · split at stored
    · rw [List.mem_cons, List.mem_singleton] at stored
      rcases stored with rfl | rfl
      · rwa [Nat.zero_add]
      · exact inside
    · exact absurd stored List.not_mem_nil

/-- An accepted body is long enough for the struct. -/
theorem checkMessage_chat_length {layout : Layout} {manager : HandlerManager} {conn : ClientConnection}
    {data : List UInt8} {entry : HandlerEntry}
    (admitted : checkMessage layout manager (some conn) msgChatTextSend (some data) = .admitted entry data) :
    layout.messageContent ≤ data.length := by
  unfold checkMessage at admitted
  dsimp only at admitted
  split at admitted
  · exact absurd admitted (by simp)
  · split at admitted
    · exact absurd admitted (by simp)
    · split at admitted
      · exact absurd admitted (by simp)
      · rename_i nonempty _ _ _ whole
        rw [Bool.not_eq_true, Bool.not_eq_false'] at whole
        unfold messageValidateIntegrity at whole
        rw [if_neg nonempty, if_neg (by decide), if_neg (by decide), if_pos rfl] at whole
        exact of_decide_eq_true whole

/-- The handler stays inside an accepted body and agrees with the parser exactly when a message that passes
its checks declares no more content than it brings. -/
theorem handleChatTextSend_inside_iff {layout : Layout} {manager : HandlerManager} {conn : ClientConnection}
    {body : MessageBody} {entry : HandlerEntry}
    (admitted : checkMessage layout.withMessageContent manager (some conn) msgChatTextSend (some body.data) =
      .admitted entry body.data) (answers : ChatAnswers) :
    ((∀ range ∈ (handleChatTextSend conn body answers).1, range.start + range.count ≤ body.data.length) ∧
        ((handleChatTextSend conn body answers).2.isProcessed = true ↔
          (messageParseData layout.withMessageContent body msgChatTextSend true).1 = 0 ∧
            SenderAndSize conn body)) ↔
      (SenderAndSize conn body → DeclaredInside body) := by
  have long : messageContentSize ≤ body.data.length := checkMessage_chat_length admitted
  have parsed := messageParseData_chat_iff layout long
  by_cases checked : SenderAndSize conn body
  · have handled := handleChatTextSend_processed long checked answers
    have processed : (handleChatTextSend conn body answers).2.isProcessed = true := by
      rw [handled]
      rfl
    constructor
    · rintro ⟨-, agrees⟩ -
      exact parsed.mp (agrees.mp processed).1
    · intro declared
      have inside := declared checked
      refine ⟨?_, ?_⟩
      · intro range member
        rw [handled, List.mem_cons] at member
        rcases member with rfl | later
        · rwa [Nat.zero_add]
        · exact chatReads_inside inside _ answers range later
      · simp only [processed, parsed.mpr inside, checked, and_self]
  · have refused := handleChatTextSend_refused long checked answers
    constructor
    · intro _ passed
      exact absurd passed checked
    · intro _
      refine ⟨?_, ?_⟩
      · intro range member
        rw [refused.1, List.mem_singleton] at member
        rw [member]
        rwa [Nat.zero_add]
      · simp only [refused.2, checked, and_false, Bool.false_eq_true]

/-- A list without repetitions has each of its elements once. -/
theorem count_others_iff {users sends : List UInt64} {sender : UInt64} :
    (∀ id, sends.count id = if id ∈ users ∧ id ≠ sender then 1 else 0) ↔
      sends.Nodup ∧ ∀ id, id ∈ sends ↔ id ∈ users ∧ id ≠ sender := by
  constructor
  · intro counts
    refine ⟨List.nodup_iff_count_le_one.mpr fun id => ?_, fun id => ?_⟩
    · rw [counts id]
      split <;> decide
    · rw [← List.count_pos_iff, counts id]
      split
      · rename_i other
        exact iff_of_true Nat.one_pos other
      · rename_i other
        exact iff_of_false (Nat.lt_irrefl 0) other
  · rintro ⟨distinct, members⟩ id
    rw [distinct.count]
    simp only [members id]

/-- The array in front of its last place. -/
theorem messageBroadcastToUsers_append (front : List UInt64) (last sender : UInt64) (heap : Nat → UInt64)
    (fits : front.length + 1 < 2 ^ 64) :
    messageBroadcastToUsers (userIdsArray (front ++ [last]) sender heap)
        (UInt64.ofNat (front ++ [last]).length - 1) =
      front.mapIdx fun index user => if user ≠ sender then user else heap index := by
  have size : (UInt64.ofNat (front ++ [last]).length - 1).toNat = front.length := by
    have total : (UInt64.ofNat (front ++ [last]).length).toNat = front.length + 1 := by
      rw [List.length_append, List.length_singleton, UInt64.toNat_ofNat']
      exact Nat.mod_eq_of_lt fits
    have one : (1 : UInt64) ≤ UInt64.ofNat (front ++ [last]).length := by
      rw [UInt64.le_iff_toNat_le, total]
      exact Nat.le_add_left _ _
    rw [UInt64.toNat_sub_of_le _ _ one, total]
    rfl
  unfold messageBroadcastToUsers
  rw [size]
  refine List.ext_getElem (by simp) fun index inside _ => ?_
  have within : index < front.length := by simpa using inside
  simp [userIdsArray, List.getElem?_append_left within, List.getElem?_eq_getElem within]

/-- No place is left out if the sender is not in front. -/
theorem mapIdx_absent {front : List UInt64} {sender : UInt64} (absent : sender ∉ front) (heap : Nat → UInt64) :
    (front.mapIdx fun index user => if user ≠ sender then user else heap index) = front := by
  refine List.ext_getElem (by simp) fun index _ within => ?_
  have other : front[index] ≠ sender := fun same => absent (same ▸ List.getElem_mem within)
  rw [List.getElem_mapIdx, if_pos other]

/-- The place of the sender keeps what was there. -/
theorem mapIdx_present {before after : List UInt64} {sender : UInt64}
    (distinct : (before ++ sender :: after).Nodup) (heap : Nat → UInt64) :
    ((before ++ sender :: after).mapIdx fun index user => if user ≠ sender then user else heap index) =
      before ++ heap before.length :: after := by
  have parts := List.nodup_append.mp distinct
  have absent : sender ∉ before := fun member => parts.2.2 sender member sender List.mem_cons_self rfl
  have later : sender ∉ after := (List.nodup_cons.mp parts.2.1).1
  rw [List.mapIdx_append, mapIdx_absent absent, List.mapIdx_cons]
  simp only [ne_eq, not_true_eq_false, if_false, Nat.zero_add]
  rw [mapIdx_absent later fun index => heap (index + 1 + before.length)]

/-- Where the sender stands if the loop misses nobody. With no users, or with the sender in front of others,
places are sent to that the loop has not written. -/
def BroadcastComplete (users : List UInt64) (sender : UInt64) (answers : ChatAnswers) : Prop :=
  if answers.mallocOk then
    ∃ last, users.getLast? = some last ∧
      (last = sender ∨ ∃ index, users[index]? = some sender ∧ answers.heap index = last)
  else ∀ user ∈ users, user = sender

/-- The sender is in front, and its place holds what the heap had there. -/
theorem sends_present_iff {before after : List UInt64} {last sender : UInt64} {heap : Nat → UInt64}
    (distinct : (before ++ sender :: after ++ [last]).Nodup) :
    ((before ++ heap before.length :: after).Nodup ∧
        ∀ id, id ∈ before ++ heap before.length :: after ↔
          id ∈ before ++ sender :: after ++ [last] ∧ id ≠ sender) ↔
      heap before.length = last := by
  have parts := List.nodup_append.mp distinct
  have fresh : last ∉ before ++ sender :: after := fun member =>
    parts.2.2 last member last (List.mem_singleton_self last) rfl
  have front := List.nodup_middle.mp parts.1
  have absent := (List.nodup_cons.mp front).1
  constructor
  · rintro ⟨-, members⟩
    have different : last ≠ sender := by
      rintro rfl
      exact fresh (List.mem_append_right _ List.mem_cons_self)
    have sent := (members last).mpr ⟨List.mem_append_right _ (List.mem_singleton_self last), different⟩
    rw [List.mem_append, List.mem_cons] at sent
    rcases sent with early | itself | late
    · exact absurd (List.mem_append_left _ early) fresh
    · exact itself.symm
    · exact absurd (List.mem_append_right _ (List.mem_cons_of_mem _ late)) fresh
  · rintro rfl
    rw [List.mem_append, List.mem_cons, not_or, not_or] at fresh
    refine ⟨List.nodup_middle.mpr (List.nodup_cons.mpr ⟨?_, (List.nodup_cons.mp front).2⟩), fun id => ?_⟩
    · rw [List.mem_append, not_or]
      exact ⟨fresh.1, fresh.2.2⟩
    · have other : id ∈ before ++ after → id ≠ sender := fun member same => absent (same ▸ member)
      rw [List.mem_append] at other
      simp only [List.mem_append, List.mem_cons, List.not_mem_nil, or_false]
      constructor
      · rintro (early | rfl | late)
        · exact ⟨.inl (.inl early), other (.inl early)⟩
        · exact ⟨.inr rfl, fresh.2.1⟩
        · exact ⟨.inl (.inr (.inr late)), other (.inr late)⟩
      · rintro ⟨(early | rfl | late) | rfl, different⟩
        · exact .inl early
        · exact absurd rfl different
        · exact .inr (.inr late)
        · exact .inr (.inl rfl)

/-- The sender is not in front, so that only the last user is left out. -/
theorem sends_absent_iff {front : List UInt64} {last sender : UInt64} (distinct : (front ++ [last]).Nodup)
    (absent : sender ∉ front) :
    (front.Nodup ∧ ∀ id, id ∈ front ↔ id ∈ front ++ [last] ∧ id ≠ sender) ↔ last = sender := by
  have parts := List.nodup_append.mp distinct
  have fresh : last ∉ front := fun member => parts.2.2 last member last (List.mem_singleton_self last) rfl
  constructor
  · rintro ⟨-, members⟩
    by_contra different
    exact fresh ((members last).mpr ⟨List.mem_append_right _ (List.mem_singleton_self last), different⟩)
  · rintro rfl
    refine ⟨parts.1, fun id => ?_⟩
    rw [List.mem_append, List.mem_singleton]
    constructor
    · intro member
      exact ⟨.inl member, fun same => absent (same ▸ member)⟩
    · rintro ⟨member | rfl, different⟩
      · exact member
      · exact absurd rfl different

/-- Everybody else is sent to once if the array has a last place that is not needed. -/
theorem messageBroadcastToUsers_iff {front : List UInt64} {last sender : UInt64} {heap : Nat → UInt64}
    (fits : front.length + 1 < 2 ^ 64) (distinct : (front ++ [last]).Nodup) :
    (∀ id, (messageBroadcastToUsers (userIdsArray (front ++ [last]) sender heap)
        (UInt64.ofNat (front ++ [last]).length - 1)).count id =
          if id ∈ front ++ [last] ∧ id ≠ sender then 1 else 0) ↔
      (last = sender ∨ ∃ index, (front ++ [last])[index]? = some sender ∧ heap index = last) := by
  rw [messageBroadcastToUsers_append front last sender heap fits, count_others_iff]
  by_cases present : sender ∈ front
  · obtain ⟨before, after, rfl⟩ := List.append_of_mem present
    have front := (List.nodup_append.mp distinct).1
    rw [mapIdx_present front, sends_present_iff distinct]
    have place : (before ++ sender :: after ++ [last])[before.length]? = some sender := by simp
    constructor
    · intro held
      exact .inr ⟨before.length, place, held⟩
    · rintro (rfl | ⟨index, here, held⟩)
      · exact absurd (List.mem_append_right _ List.mem_cons_self)
          (fun member => (List.nodup_append.mp distinct).2.2 last member last (List.mem_singleton_self last) rfl)
      · have same : index = before.length := (List.getElem?_inj (List.getElem?_eq_some_iff.mp here).1 distinct).mp
          (here.trans place.symm)
        rwa [← same]
  · rw [mapIdx_absent present, sends_absent_iff distinct present]
    constructor
    · exact .inl
    · rintro (same | ⟨index, here, -⟩)
      · exact same
      · have member := List.mem_of_getElem? here
        rw [List.mem_append, List.mem_singleton] at member
        exact (member.resolve_left present).symm

/-- A broadcast reaches everybody else exactly once exactly when the sender is the last one in the list, or
the place of the sender happens to hold the last one. Without an array nobody else may be online. -/
theorem handleChatTextSend_broadcast_iff {conn : ClientConnection} {body : MessageBody}
    (long : messageContentSize ≤ body.data.length) (checked : SenderAndSize conn body)
    (everybody : (castMessageContent body.memory).receiverId = 0) {answers : ChatAnswers} {users : OnlineUsers}
    (online : answers.onlineUsers = some users) (distinct : users.ids.Nodup) :
    (∀ id, (handleChatTextSend conn body answers).2.sends.count id =
        if id ∈ users.ids ∧ id ≠ conn.userId then 1 else 0) ↔
      BroadcastComplete users.ids conn.userId answers := by
  rw [handleChatTextSend_processed long checked]
  unfold ChatOutcome.sends chatSends BroadcastComplete
  dsimp only
  rw [if_pos everybody, online]
  dsimp only
  obtain ⟨ids, fits⟩ := users
  dsimp only at distinct ⊢
  split_ifs with allocated
  · rcases List.eq_nil_or_concat' ids with rfl | ⟨front, last, rfl⟩
    · -- The count wraps around, and the loop sends to whatever is behind the empty array.
      have extra : answers.heap 0 ∈ messageBroadcastToUsers (userIdsArray [] conn.userId answers.heap)
          (UInt64.ofNat ([] : List UInt64).length - 1) := by
        refine List.mem_map.mpr ⟨0, List.mem_range.mpr (by decide), rfl⟩
      constructor
      · intro counts
        have none := counts (answers.heap 0)
        rw [if_neg (fun both => List.not_mem_nil both.1), List.count_eq_zero] at none
        exact absurd extra none
      · rintro ⟨last, found, -⟩
        exact absurd found (by simp)
    · have bound : front.length + 1 < 2 ^ 64 := by
        rw [List.length_append, List.length_singleton, userInfoSize] at fits
        omega
      rw [messageBroadcastToUsers_iff bound distinct]
      constructor
      · intro complete
        exact ⟨last, List.getLast?_concat, complete⟩
      · rintro ⟨found, atEnd, complete⟩
        have same : found = last := by simpa using atEnd.symm
        rwa [same] at complete
  · constructor
    · intro counts user member
      by_contra different
      have none := counts user
      rw [if_pos ⟨member, different⟩] at none
      exact absurd none (by simp)
    · intro alone id
      rw [List.count_nil, if_neg]
      rintro ⟨member, different⟩
      exact different (alone id member)

section Example

/-- A client that has logged in over an encrypted connection. -/
def chatClient : ClientConnection := ⟨1, 5, .authenticated, true, true, 7, [], []⟩

def chatSizes : Layout := ⟨1, 1, 1, 1, 1, 1, 1, 1, 1, 1, 1⟩

/-- Some users are online, the new array is empty, and the database takes the row. -/
def chatServer (users : OnlineUsers) : ChatAnswers where
  onlineUsers := some users
  mallocOk := true
  heap := fun _ => 0
  isOnline := fun _ => false
  prepareOk := true
  now := 0
  responseSent := 0

def nobody : OnlineUsers := ⟨[], by decide⟩

/-- A bare struct from user 7 that declares some bytes of content. -/
def bareMessage (receiver contentLength : UInt8) : MessageBody where
  data := List.replicate 8 0 ++ 7 :: List.replicate 7 0 ++ receiver :: List.replicate 92 0 ++
    contentLength :: List.replicate 3 0
  behind := fun _ => 0x41

theorem bareMessage_admitted (receiver contentLength : UInt8) :
    checkMessage chatSizes.withMessageContent (messageHandlerManagerCreate fun _ => true) (some chatClient)
      msgChatTextSend (some (bareMessage receiver contentLength).data) =
        .admitted ⟨msgChatTextSend, .chatTextSend, true, true⟩ (bareMessage receiver contentLength).data := by
  rfl

theorem handleChatTextSend_inside_iff_empty :
    (SenderAndSize chatClient (bareMessage 8 0) → DeclaredInside (bareMessage 8 0)) ∧
      ∀ range ∈ (handleChatTextSend chatClient (bareMessage 8 0) (chatServer nobody)).1,
        range.start + range.count ≤ (bareMessage 8 0).data.length := by
  have declared : SenderAndSize chatClient (bareMessage 8 0) → DeclaredInside (bareMessage 8 0) := fun _ => by
    decide +kernel
  exact ⟨declared, ((handleChatTextSend_inside_iff (bareMessage_admitted 8 0) (chatServer nobody)).mpr declared).1⟩

/-- A message of one byte that is not there is processed, and the byte behind the body goes to the database. -/
theorem handleChatTextSend_outside :
    checkMessage chatSizes.withMessageContent (messageHandlerManagerCreate fun _ => true) (some chatClient)
        msgChatTextSend (some (bareMessage 8 1).data) =
          .admitted ⟨msgChatTextSend, .chatTextSend, true, true⟩ (bareMessage 8 1).data ∧
      (bareMessage 8 1).data.length = 113 ∧
      ⟨113, 1⟩ ∈ (handleChatTextSend chatClient (bareMessage 8 1) (chatServer nobody)).1 ∧
      (handleChatTextSend chatClient (bareMessage 8 1) (chatServer nobody)).2.isProcessed = true ∧
      (messageParseData chatSizes.withMessageContent (bareMessage 8 1) msgChatTextSend true).1 = -3 := by
  refine ⟨bareMessage_admitted 8 1, ?_⟩
  decide +kernel

def senderLast : OnlineUsers := ⟨[8, 7], by decide⟩

def senderFirst : OnlineUsers := ⟨[7, 8], by decide⟩

theorem handleChatTextSend_broadcast_iff_last :
    BroadcastComplete senderLast.ids chatClient.userId (chatServer senderLast) ∧
      ∀ id, (handleChatTextSend chatClient (bareMessage 0 0) (chatServer senderLast)).2.sends.count id =
        if id ∈ senderLast.ids ∧ id ≠ chatClient.userId then 1 else 0 := by
  have complete : BroadcastComplete senderLast.ids chatClient.userId (chatServer senderLast) :=
    ⟨7, rfl, .inl rfl⟩
  have long : messageContentSize ≤ (bareMessage 0 0).data.length := by decide +kernel
  have checked : SenderAndSize chatClient (bareMessage 0 0) := by decide +kernel
  have everybody : (castMessageContent (bareMessage 0 0).memory).receiverId = 0 := by decide +kernel
  have distinct : senderLast.ids.Nodup := by decide
  exact ⟨complete, (handleChatTextSend_broadcast_iff long checked everybody rfl distinct).mpr complete⟩

/-- With the sender in front of one other user, that user gets nothing, and user 0 is sent to. -/
theorem handleChatTextSend_misses :
    SenderAndSize chatClient (bareMessage 0 0) ∧ messageContentSize ≤ (bareMessage 0 0).data.length ∧
      (castMessageContent (bareMessage 0 0).memory).receiverId = 0 ∧ senderFirst.ids = [7, 8] ∧
      (handleChatTextSend chatClient (bareMessage 0 0) (chatServer senderFirst)).2.sends = [0] := by
  decide +kernel

end Example

end SecureChat.Dispatch
