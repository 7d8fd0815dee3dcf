import SecureChat.Construction.Web.SyncConflicts

namespace SecureChat.Web.SyncConflictResolver
open Library

/-- The two rules with the highest priorities stay in front. -/
def Ordered (resolver : SyncConflictResolver) : Prop :=
  ∃ rest, resolver.rules = newerMessageRule :: deletedMessageRule :: rest ∧ ∀ rule ∈ rest, rule.priority < priorityOf 90

theorem initializeDefaultRules_ordered : Ordered initializeDefaultRules := by
  refine ⟨[groupMessageRule, localDraftRule, userOperationRule], rfl, ?_⟩
  simp only [List.forall_mem_cons]
  exact ⟨by decide, by decide, by decide, by simp⟩

theorem addRule_ordered {resolver : SyncConflictResolver} (ordered : Ordered resolver) {rule : ConflictResolutionRule}
    (low : rule.priority < priorityOf 90) : Ordered (resolver.addRule rule) := by
  obtain ⟨rest, rules, lower⟩ := ordered
  have below : ∀ other ∈ rest ++ [rule], other.priority < priorityOf 90 :=
    List.forall_mem_append.mpr ⟨lower, by simpa using low⟩
  have highest : priorityOf 90 ≤ newerMessageRule.priority := by decide
  have second : ∀ other ∈ rest ++ [rule], sortKey deletedMessageRule ≤ sortKey other :=
    fun other member => (below other member).le
  have first : ∀ other ∈ deletedMessageRule :: (rest ++ [rule]), sortKey newerMessageRule ≤ sortKey other :=
    List.forall_mem_cons.mpr ⟨highest, fun other member => (below other member).le.trans highest⟩
  refine ⟨StableSort.byKey sortKey (rest ++ [rule]), ?_, fun other member => ?_⟩
  · rw [addRule, rules, List.cons_append, List.cons_append, StableSort.byKey_cons sortKey _ _ first,
      StableSort.byKey_cons sortKey _ _ second]
  · exact below other ((StableSort.byKey_perm sortKey _).mem_iff.mp member)

/-- The resolver after any custom rules of a lower priority were added. -/
theorem addRules_ordered (customs : List ConflictResolutionRule) (low : ∀ rule ∈ customs, rule.priority < priorityOf 90) :
    Ordered (customs.foldl addRule initializeDefaultRules) := by
  induction customs using List.reverseRecOn with
  | nil => exact initializeDefaultRules_ordered
  | append_singleton earlier rule ih =>
      obtain ⟨before, last⟩ := List.forall_mem_append.mp low
      rw [List.foldl_concat]
      exact addRule_ordered (ih before) (last rule (by simp))

/-- A copy is marked deleted. -/
def Deleted (copy : Option JsValue) : Prop := truthy (field copy "deleted") = true

/-- Both copies have a time that counts as true, as a number other than zero does. -/
def Timed (conflict : SyncConflict) : Prop :=
  truthy (field conflict.serverValue "timestamp") = true ∧ truthy (field conflict.clientValue "timestamp") = true

/-- The client's copy is the newer one of two copies with a time. -/
def ClientNewer (texts : JsValue → JsValue → Bool) (conflict : SyncConflict) : Prop :=
  Timed conflict ∧ ∃ server client, field conflict.serverValue "timestamp" = some server ∧
    field conflict.clientValue "timestamp" = some client ∧ client.greater texts server = true

theorem extractTimestamp_eq {value : Option JsValue} {time : JsValue} (found : field value "timestamp" = some time)
    (set : truthy (field value "timestamp") = true) : extractTimestamp value = time := by
  have object : truthy value = true := by
    obtain ⟨held, rfl, inside⟩ := Option.bind_eq_some_iff.mp found
    cases container : held.isContainer with
    | false =>
        rw [JsValue.get_of_scalar container] at inside
        exact absurd inside (by simp)
    | true => exact JsValue.truthy_of_container container
  have counts : time.truthy = true := by rwa [found] at set
  unfold extractTimestamp
  rw [object, List.filterMap_cons_some found]
  simp [counts]

variable (address : JsValue → JsValue → Nat) (texts : JsValue → JsValue → Bool)

theorem resolve_timed {resolver : SyncConflictResolver} (ordered : Ordered resolver) {conflict : SyncConflict}
    (message : conflict.type = .message) (timed : Timed conflict) :
    resolve address texts resolver conflict = applyRule address texts conflict .newerWins := by
  obtain ⟨rest, rules, _⟩ := ordered
  have applies : newerMessageRule.condition conflict = .ok true := by simp [newerMessageRule, message, timed.1, timed.2]
  rw [resolve, rules, List.findM?, applies]
  rfl

theorem resolve_untimed {resolver : SyncConflictResolver} (ordered : Ordered resolver) {conflict : SyncConflict}
    (message : conflict.type = .message) (untimed : ¬Timed conflict)
    (deleted : Deleted conflict.serverValue ∨ Deleted conflict.clientValue) :
    resolve address texts resolver conflict = applyRule address texts conflict .serverWins := by
  obtain ⟨rest, rules, _⟩ := ordered
  have passes : newerMessageRule.condition conflict = .ok false := by
    simpa [newerMessageRule, message, Timed] using untimed
  have applies : deletedMessageRule.condition conflict = .ok true := by
    simpa [deletedMessageRule, message, Deleted] using deleted
  rw [resolve, rules, List.findM?, passes, List.findM?, applies]
  rfl

/-- Of two copies with a time the newer one is taken, and the server's one if no copy is newer. -/
theorem applyRule_newer {conflict : SyncConflict} (timed : Timed conflict) :
    ∃ resolution, applyRule address texts conflict .newerWins = .ok resolution ∧
      ((ClientNewer texts conflict ∧ resolution.resolvedValue = conflict.clientValue) ∨
        (¬ClientNewer texts conflict ∧ resolution.resolvedValue = conflict.serverValue)) := by
  obtain ⟨server, found, _⟩ := (Option.any_eq_true _ _).mp timed.1
  obtain ⟨client, found', _⟩ := (Option.any_eq_true _ _).mp timed.2
  have newer : ClientNewer texts conflict ↔ client.greater texts server = true := by
    constructor
    · rintro ⟨_, first, second, one, two, greater⟩
      rw [found] at one
      rw [found'] at two
      rwa [Option.some.inj one, Option.some.inj two]
    · exact fun greater => ⟨timed, server, client, found, found', greater⟩
  rw [applyRule, extractTimestamp_eq found timed.1, extractTimestamp_eq found' timed.2, newer]
  by_cases greater : client.greater texts server = true
  · exact ⟨_, if_pos greater, .inl ⟨greater, rfl⟩⟩
  · exact ⟨_, if_neg greater, .inr ⟨greater, rfl⟩⟩

/-- A conflict with a deleted copy is decided by the times alone, whatever custom rules follow. -/
theorem resolve_deleted_iff (customs : List ConflictResolutionRule)
    (low : ∀ rule ∈ customs, rule.priority < priorityOf 90)
    (callback : Option (SyncConflict → Except String ConflictResolutionStrategy)) (conflict : SyncConflict)
    (message : conflict.type = .message) (deleted : Deleted conflict.serverValue ∨ Deleted conflict.clientValue) :
    (∃ resolution, resolve address texts
        { customs.foldl addRule initializeDefaultRules with manualResolutionCallback := callback } conflict =
          .ok resolution ∧ Deleted resolution.resolvedValue) ↔
      (ClientNewer texts conflict → Deleted conflict.clientValue) ∧
        (¬ClientNewer texts conflict → Deleted conflict.serverValue) := by
  have ordered : Ordered { customs.foldl addRule initializeDefaultRules with manualResolutionCallback := callback } :=
    addRules_ordered customs low
  by_cases timed : Timed conflict
  · rw [resolve_timed address texts ordered message timed]
    obtain ⟨resolution, applied, ⟨newer, taken⟩ | ⟨newer, taken⟩⟩ := applyRule_newer address texts timed
    · simp [applied, taken, newer]
    · simp [applied, taken, newer]
  · rw [resolve_untimed address texts ordered message timed deleted]
    have newer : ¬ClientNewer texts conflict := fun newer => timed newer.1
    simp [applyRule, newer]

/-- A message that the server has as deleted and the client changed later. -/
def lateEdit : SyncConflict where
  type := .message
  operation := none
  serverValue := some (.object 1 [("timestamp", .number 1), ("deleted", .bool true)])
  clientValue := some (.object 2 [("timestamp", .number 2)])

def archivedRule : ConflictResolutionRule where
  priority := priorityOf 50
  condition _ := .error "not available"
  resolution := .clientWins
  description := "Archived messages"

theorem resolve_deleted_iff_lateEdit :
    (∃ resolution, resolve (fun _ _ => 0) (fun _ _ => false)
        { [archivedRule].foldl addRule initializeDefaultRules with manualResolutionCallback := none } lateEdit =
          .ok resolution ∧ Deleted resolution.resolvedValue) ↔
      (ClientNewer (fun _ _ => false) lateEdit → Deleted lateEdit.clientValue) ∧
        (¬ClientNewer (fun _ _ => false) lateEdit → Deleted lateEdit.serverValue) :=
  resolve_deleted_iff (fun _ _ => 0) (fun _ _ => false) [archivedRule] (List.forall_mem_singleton.mpr (by decide)) none
    lateEdit rfl (.inl rfl)

/-- The later change brings the deleted message back. -/
theorem resolve_deleted_lost :
    lateEdit.type = .message ∧ Deleted lateEdit.serverValue ∧ ∀ address texts,
      ¬∃ resolution, resolve address texts initializeDefaultRules lateEdit = .ok resolution ∧
        Deleted resolution.resolvedValue := by
  refine ⟨rfl, rfl, fun address texts => ?_⟩
  have later : priorityOf 1 < priorityOf 2 := by decide
  have newer : (JsValue.number 2).greater texts (.number 1) = true := decide_eq_true later
  have timed : Timed lateEdit := ⟨rfl, rfl⟩
  rintro ⟨resolution, resolved, deleted⟩
  rw [resolve_timed address texts initializeDefaultRules_ordered rfl timed] at resolved
  obtain ⟨applied, same, ⟨_, client⟩ | ⟨older, _⟩⟩ := applyRule_newer address texts timed
  · rw [same] at resolved
    rw [← Except.ok.inj resolved, client] at deleted
    exact absurd deleted Bool.false_ne_true
  · exact older ⟨timed, _, _, rfl, rfl, newer⟩

end SecureChat.Web.SyncConflictResolver
