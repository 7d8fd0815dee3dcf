import Mathlib.Data.List.Nodup

namespace SecureChat.Library

variable {Source Flags : Type*}

/-- A source that reports a change is queued once until it is fetched. -/
def notify [DecidableEq Source] (ready : List Source) (source : Source) : List Source :=
  if source ∈ ready then ready else ready ++ [source]

/-- Sources are fetched in the order of their reports, and each is polled at that time.
A source without anything to show is dropped. -/
def fetch (poll : Source → Option Flags) : Nat → List Source → List (Source × Flags) × List Source
  | _, [] => ([], [])
  | 0, source :: ready => ([], source :: ready)
  | count + 1, source :: ready =>
      match poll source with
      | none => fetch poll (count + 1) ready
      | some flags => ((source, flags) :: (fetch poll count ready).1, (fetch poll count ready).2)

section Notify

variable [DecidableEq Source]

@[simp] theorem mem_notify (ready : List Source) (source other : Source) :
    other ∈ notify ready source ↔ other = source ∨ other ∈ ready := by
  unfold notify
  split
  · rename_i present
    exact ⟨Or.inr, fun member => member.elim (fun same => same ▸ present) id⟩
  · rw [List.mem_append, List.mem_singleton, or_comm]

theorem notify_nodup (ready : List Source) (source : Source) (distinct : ready.Nodup) :
    (notify ready source).Nodup := by
  unfold notify
  split
  · exact distinct
  · rename_i absent
    exact List.nodup_append.mpr ⟨distinct, List.nodup_singleton source, by
      intro first member second last same
      rw [List.mem_singleton] at last
      exact absent (last ▸ same ▸ member)⟩

end Notify

section Fetch

variable (poll : Source → Option Flags)

/-- What is fetched and what stays behind come from different ends of the list. -/
theorem fetch_sublist (count : Nat) (ready : List Source) :
    ((fetch poll count ready).1.map Prod.fst ++ (fetch poll count ready).2).Sublist ready := by
  induction count, ready using fetch.induct poll with
  | case1 => exact List.Sublist.refl _
  | case2 => exact List.Sublist.refl _
  | case3 count source ready silent ih =>
      rw [fetch, silent]
      exact ih.cons source
  | case4 count source ready flags seen ih =>
      rw [fetch, seen]
      exact ih.cons_cons source

/-- A queued source is fetched, stays queued, or has nothing to show. -/
theorem mem_fetch (count : Nat) (ready : List Source) (source : Source) (member : source ∈ ready) :
    source ∈ (fetch poll count ready).1.map Prod.fst ∨ source ∈ (fetch poll count ready).2 ∨
      poll source = none := by
  induction count, ready using fetch.induct poll with
  | case1 => cases member
  | case2 => exact .inr (.inl member)
  | case3 count first ready silent ih =>
      rw [fetch, silent]
      rcases List.mem_cons.mp member with rfl | later
      · exact .inr (.inr silent)
      · exact ih later
  | case4 count first ready flags seen ih =>
      rw [fetch, seen]
      rcases List.mem_cons.mp member with rfl | later
      · exact .inl (List.mem_cons_self ..)
      · exact (ih later).imp (List.mem_cons_of_mem _) id

/-- Each fetched source shows the flags of its poll. -/
theorem fetch_polled (count : Nat) (ready : List Source) :
    ∀ event ∈ (fetch poll count ready).1, poll event.1 = some event.2 := by
  induction count, ready using fetch.induct poll with
  | case1 => intro event member; cases member
  | case2 => intro event member; cases member
  | case3 count source ready silent ih =>
      rw [fetch, silent]
      exact ih
  | case4 count source ready flags seen ih =>
      rw [fetch, seen]
      intro event member
      rcases List.mem_cons.mp member with rfl | later
      · exact seen
      · exact ih event later

end Fetch

end SecureChat.Library
