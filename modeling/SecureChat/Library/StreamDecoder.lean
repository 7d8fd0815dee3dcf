import SecureChat.Library.Machine

namespace SecureChat.Library

/-- A decoder reads one item from the front of a stream.
Later symbols never change an item that is already complete. -/
structure StreamDecoder (Symbol Item : Type*) where
  next : List Symbol → Option (Item × Nat)
  positive : ∀ stream item size, next stream = some (item, size) → 0 < size
  within : ∀ stream item size, next stream = some (item, size) → size ≤ stream.length
  stable : ∀ stream more item size, next stream = some (item, size) →
    next (stream ++ more) = some (item, size)

namespace StreamDecoder

variable {Symbol Item : Type*}

/-- The loop reads at most `fuel` items and keeps the symbols it did not use. -/
def drainFuel (decoder : StreamDecoder Symbol Item) : Nat → List Symbol → List Item × List Symbol
  | 0, stream => ([], stream)
  | fuel + 1, stream =>
      match decoder.next stream with
      | none => ([], stream)
      | some (item, size) =>
          (item :: (drainFuel decoder fuel (stream.drop size)).1,
            (drainFuel decoder fuel (stream.drop size)).2)

/-- Every item has a symbol of its own, so the length of the stream is enough fuel. -/
def drain (decoder : StreamDecoder Symbol Item) (stream : List Symbol) : List Item × List Symbol :=
  decoder.drainFuel stream.length stream

/-- Any two amounts of fuel that cover the symbols give the same result. -/
theorem drainFuel_enough (decoder : StreamDecoder Symbol Item) (first second : Nat)
    (stream : List Symbol) (enough : stream.length ≤ first) (covers : stream.length ≤ second) :
    decoder.drainFuel first stream = decoder.drainFuel second stream := by
  induction first generalizing second stream with
  | zero =>
      have empty : stream = [] := List.eq_nil_of_length_eq_zero (by omega)
      subst empty
      cases second with
      | zero => rfl
      | succ second =>
          cases read : decoder.next [] with
          | none => simp [drainFuel, read]
          | some found =>
              have positive := decoder.positive [] found.1 found.2 read
              have within := decoder.within [] found.1 found.2 read
              simp only [List.length_nil] at within
              omega
  | succ first ih =>
      cases read : decoder.next stream with
      | none => cases second <;> simp [drainFuel, read]
      | some found =>
          have positive := decoder.positive stream found.1 found.2 read
          have within := decoder.within stream found.1 found.2 read
          cases second with
          | zero => omega
          | succ second =>
              have rest := ih second (stream.drop found.2)
                (by simp only [List.length_drop]; omega) (by simp only [List.length_drop]; omega)
              simp only [drainFuel, read, rest]

theorem drain_none (decoder : StreamDecoder Symbol Item) (stream : List Symbol)
    (read : decoder.next stream = none) : decoder.drain stream = ([], stream) := by
  unfold drain
  cases stream.length <;> simp [drainFuel, read]

theorem drain_some (decoder : StreamDecoder Symbol Item) (stream : List Symbol) (item : Item)
    (size : Nat) (read : decoder.next stream = some (item, size)) :
    decoder.drain stream =
      (item :: (decoder.drain (stream.drop size)).1, (decoder.drain (stream.drop size)).2) := by
  have positive := decoder.positive stream item size read
  have within := decoder.within stream item size read
  obtain ⟨length, measured⟩ : ∃ length, stream.length = length + 1 :=
    ⟨stream.length - 1, by omega⟩
  rw [drain, measured, drainFuel, read]
  have rest := decoder.drainFuel_enough length (stream.drop size).length (stream.drop size)
    (by simp only [List.length_drop]; omega) (Nat.le_refl _)
  simp only [rest, drain]

/-- The symbols that are left over do not start with a complete item. -/
theorem next_drain (decoder : StreamDecoder Symbol Item) (stream : List Symbol) :
    decoder.next (decoder.drain stream).2 = none := by
  induction measured : stream.length using Nat.strongRecOn generalizing stream with
  | _ length ih =>
      cases read : decoder.next stream with
      | none => rw [decoder.drain_none stream read]; exact read
      | some found =>
          obtain ⟨item, size⟩ := found
          have positive := decoder.positive stream item size read
          have within := decoder.within stream item size read
          rw [decoder.drain_some stream item size read]
          exact ih (stream.drop size).length (by simp only [List.length_drop]; omega) _ rfl

/-- A property of every item that the decoder reads holds of all drained items. -/
theorem drain_items (decoder : StreamDecoder Symbol Item) (property : Item → Prop)
    (reads : ∀ stream item size, decoder.next stream = some (item, size) → property item)
    (stream : List Symbol) : ∀ item ∈ (decoder.drain stream).1, property item := by
  induction measured : stream.length using Nat.strongRecOn generalizing stream with
  | _ length ih =>
      cases read : decoder.next stream with
      | none => simp [decoder.drain_none stream read]
      | some found =>
          obtain ⟨first, size⟩ := found
          have positive := decoder.positive stream first size read
          have within := decoder.within stream first size read
          have later := ih (stream.drop size).length (by simp only [List.length_drop]; omega) _ rfl
          rw [decoder.drain_some stream first size read]
          exact List.forall_mem_cons.mpr ⟨reads stream first size read, later⟩

/-- Draining commutes with the arrival of more symbols. -/
theorem drain_append (decoder : StreamDecoder Symbol Item) (stream more : List Symbol) :
    decoder.drain (stream ++ more) =
      ((decoder.drain stream).1 ++ (decoder.drain ((decoder.drain stream).2 ++ more)).1,
        (decoder.drain ((decoder.drain stream).2 ++ more)).2) := by
  induction measured : stream.length using Nat.strongRecOn generalizing stream with
  | _ length ih =>
      cases read : decoder.next stream with
      | none => simp [decoder.drain_none stream read]
      | some found =>
          obtain ⟨item, size⟩ := found
          have positive := decoder.positive stream item size read
          have within := decoder.within stream item size read
          have shorter := ih (stream.drop size).length
            (by simp only [List.length_drop]; omega) (stream.drop size) rfl
          rw [decoder.drain_some stream item size read,
            decoder.drain_some _ item size (decoder.stable stream more item size read),
            List.drop_append_of_le_length within, shorter]
          rfl

/-- The machine drains each chunk as it arrives and keeps the rest for the next one. -/
def machine (decoder : StreamDecoder Symbol Item) :
    Machine (List Symbol) (List Symbol) Item where
  step rest chunk :=
    ((decoder.drain (rest ++ chunk)).2, (decoder.drain (rest ++ chunk)).1)

/-- The items and the rest do not depend on how the stream is cut into chunks. -/
theorem machine_run (decoder : StreamDecoder Symbol Item) (rest : List Symbol)
    (chunks : List (List Symbol)) (settled : decoder.next rest = none) :
    decoder.machine.run rest chunks =
      ((decoder.drain (rest ++ chunks.flatten)).2, (decoder.drain (rest ++ chunks.flatten)).1) := by
  induction chunks generalizing rest with
  | nil => simp [decoder.drain_none rest settled]
  | cons chunk chunks ih =>
      have later : decoder.machine.run (decoder.machine.step rest chunk).1 chunks = _ :=
        ih _ (decoder.next_drain (rest ++ chunk))
      rw [Machine.run_cons, later, List.flatten_cons, ← List.append_assoc,
        decoder.drain_append (rest ++ chunk)]
      rfl

/-- A stream that is cut into chunks has the effect of the whole stream in one chunk. -/
theorem machine_run_whole (decoder : StreamDecoder Symbol Item) (rest chunk : List Symbol)
    (chunks : List (List Symbol)) :
    decoder.machine.run rest (chunk :: chunks) =
      decoder.machine.step rest (chunk :: chunks).flatten := by
  have later := decoder.machine_run (decoder.drain (rest ++ chunk)).2 chunks
    (decoder.next_drain (rest ++ chunk))
  rw [Machine.run_cons]
  simp only [machine] at later ⊢
  rw [later, List.flatten_cons, ← List.append_assoc, decoder.drain_append (rest ++ chunk)]

end StreamDecoder

end SecureChat.Library
