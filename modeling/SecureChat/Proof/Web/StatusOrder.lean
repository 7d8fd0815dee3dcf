import SecureChat.Proof.Web.OfflineTasks

namespace SecureChat.Web
open Library OfflineSyncManager

namespace MessageStatus

/-- A message on its way to the server has the lowest level. The other statuses below one are off the way. -/
def level : MessageStatus → Nat
  | .sent => 1
  | .delivered => 2
  | .read => 3
  | _ => 0

end MessageStatus

namespace Task

/-- A task that the operations can come to: no acknowledgement and no receipt finds its message,
and no message is ever listed for sending. -/
def Possible : Task → Prop
  | .saveReceipt _ => False
  | .sending _ _ => False
  | .readStatus _ status _ (.queried _) => 1 ≤ status.level
  | .readStatus _ _ _ _ => False
  | .saveStatus message (.queried _) => 1 ≤ message.status.level
  | .saveStatus _ _ => False
  | .saveMark message _ _ => message.status = .read
  | _ => True

variable (store : MessageStore) (userId : Nat) (answer : Answer) (task : Task)

end Task

/-- Every task is one that the operations can come to, and may write back only what is in the store. -/
structure Sound (state : OfflineState) : Prop where
  known : state.Known
  possible : ∀ task ∈ state.tasks, task.Possible

section Steps

variable (deviceId : Nat) (state : OfflineState) (event : TaskEvent)

end Steps

end SecureChat.Web
