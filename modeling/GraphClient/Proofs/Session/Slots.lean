import GraphClient.Session.Command
import Mathlib.Data.List.Basic

/-!
# The calls of a session, one by one

What the small operations of a session do to the call of a number, and to all others.
-/

namespace GraphClient

variable {ι : Type} [Domains ι] {D : Type}

namespace Session

variable {s s' : Session ι D} {i : Nat} {w : Waker}

theorem slot?_put {slot : Slot ι D} (hi : s.slot? i = some slot) (slot' : Slot ι D) (j : Nat) :
    (s.put i slot').slot? j = if i = j then some slot' else s.slot? j := by
  have hlt : i < s.slots.length := (List.getElem?_eq_some_iff.mp hi).1
  simp only [slot?, put, List.getElem?_set]
  split
  · rfl
  · rfl

theorem put_self {slot : Slot ι D} (hi : s.slot? i = some slot) : s.put i slot = s := by
  obtain ⟨hlt, rfl⟩ := List.getElem?_eq_some_iff.mp hi
  exact congrArg (fun slots => { s with slots }) (List.set_getElem_self hlt)

theorem hold_eq_put {slot : Slot ι D} (hi : s.slot? i = some slot) (holding : Holding) :
    s.hold i holding = s.put i { slot with holding } := by
  have hget : s.slots[i]? = some slot := hi
  simp [hold, put, List.modify_eq_set_getElem?, hget]

theorem hold_of_none (hi : s.slot? i = none) (holding : Holding) : s.hold i holding = s := by
  have hlen : s.slots.length ≤ i := List.getElem?_eq_none_iff.mp hi
  simp [hold, List.modify_eq_self hlen]

/-- Setting what the caller has to what it has changes nothing. -/
theorem hold_self (s : Session ι D) (i : Nat) : s.hold i (s.holding i) = s := by
  cases hi : s.slot? i with
  | none => exact hold_of_none hi _
  | some slot =>
    rw [hold_eq_put hi, show s.holding i = slot.holding by simp [holding, hi]]
    exact put_self hi

/-- The caller has something of a call only if there is one. -/
theorem slot_of_holding {holding : Holding} (h : s.holding i = holding) (hne : holding ≠ .gone) :
    ∃ slot, s.slot? i = some slot ∧ slot.holding = holding := by
  unfold Session.holding at h
  split at h
  · exact ⟨_, ‹_›, h⟩
  · exact absurd h.symm hne

theorem slot?_add (s : Session ι D) (slot : Slot ι D) :
    (s.add slot).2.slot? s.slots.length = some slot := by
  simp [add, slot?]

theorem holding_add (s : Session ι D) (slot : Slot ι D) :
    (s.add slot).2.holding s.slots.length = slot.holding := by
  simp [holding, slot?_add]

/-- A session with one call more has its old calls and the new one. -/
theorem slot?_add_cases {slot slot' : Slot ι D} (h : (s.add slot).2.slot? i = some slot') :
    s.slot? i = some slot' ∨ (i = s.slots.length ∧ slot' = slot) := by
  simp only [add, slot?, List.getElem?_append] at h
  split at h
  · exact .inl h
  · simp only [List.getElem?_singleton, Option.ite_none_right_eq_some, Option.some.injEq] at h
    exact .inr ⟨by omega, h.2.symm⟩

theorem feed_eq_put {slot : Slot ι D} (hi : s.slot? i = some slot) (e : Event) :
    s.feed i e =
      s.put i { slot with call := (slot.call.meet s.client e).advance s.client } := by
  have hget : s.slots[i]? = some slot := hi
  simp [feed, put, List.modify_eq_set_getElem?, hget]

theorem feed_of_none (hi : s.slot? i = none) (e : Event) : s.feed i e = s := by
  have hlen : s.slots.length ≤ i := List.getElem?_eq_none_iff.mp hi
  simp [feed, List.modify_eq_self hlen]

theorem runHandedOver_eq_put {slot : Slot ι D} (hi : (s.drive .outside i).slot? i = some slot) :
    s.runHandedOver i = (s.drive .outside i).put i
      { slot with channel := slot.channel.map (·.send slot.call) } := by
  have hget : (s.drive .outside i).slots[i]? = some slot := hi
  simp [runHandedOver, put, List.modify_eq_set_getElem?, hget]

/-- A copy is a new raw call. -/
theorem duplicate?_cases {made : Nat × Session ι D} (hs : s.duplicate? i = some made) :
    ∃ slot, s.slot? i = some slot ∧ made = s.rawCall slot.call.operation := by
  obtain ⟨slot, hslot, hmade⟩ := Option.bind_eq_some_iff.mp hs
  simp only [Option.ite_none_right_eq_some] at hmade
  exact ⟨slot, hslot, (Option.some.inj hmade.2).symm⟩

theorem begin?_cases (hs : s.begin? i = some s') :
    ∃ slot, s.slot? i = some slot ∧ slot.holding = .raw ∧ s' = s.hold i .future := by
  obtain ⟨slot, hslot, hbegun⟩ := Option.bind_eq_some_iff.mp hs
  simp only [Option.ite_none_right_eq_some] at hbegun
  exact ⟨slot, hslot, hbegun.1, (Option.some.inj hbegun.2).symm⟩

theorem enqueue?_cases (hs : s.enqueue? i = some s') :
    ∃ slot, s.slot? i = some slot ∧ slot.holding = .raw ∧
      s' = { s.put i { slot with holding := .enqueued, background := true } with
        executor := s.executor.spawn i } := by
  obtain ⟨slot, hslot, hqueued⟩ := Option.bind_eq_some_iff.mp hs
  simp only [Option.ite_none_right_eq_some] at hqueued
  exact ⟨slot, hslot, hqueued.1, (Option.some.inj hqueued.2).symm⟩

/-- What a cancel does: nothing at all, or it cancels the call and makes it ready. -/
theorem cancel?_cases {won : Bool} (hs : s.cancel? w i = some (won, s')) :
    ∃ slot, s.slot? i = some slot ∧
      ((slot.call.lifecycle.armed = false ∧ s' = s) ∨
        (slot.call.lifecycle.armed = true ∧
          s' = (s.put i { slot with call := slot.call.cancel.2 }).wake w i)) := by
  obtain ⟨slot, hslot, hs⟩ := Option.bind_eq_some_iff.mp hs
  simp only [Option.ite_none_right_eq_some, Option.pure_def, Option.some.injEq,
    Prod.mk.injEq] at hs
  obtain ⟨-, -, hs⟩ := hs
  refine ⟨slot, hslot, ?_⟩
  cases ha : slot.call.lifecycle.armed with
  | false =>
    have hsame : slot.call.cancel = (false, slot.call) := by
      simp [Call.cancel, Lifecycle.cancel, ha]
    simp only [hsame, Bool.false_eq_true, if_false] at hs
    exact .inl ⟨rfl, hs.symm.trans (put_self hslot)⟩
  | true =>
    have hwon : slot.call.cancel.1 = true := by simp [Call.cancel, Lifecycle.cancel, ha]
    simp only [hwon, if_true] at hs
    exact .inr ⟨rfl, hs.symm⟩

/-- A call in the background that has not died leaves its result. -/
theorem taskResult?_eq {slot : Slot ι D} (h : slot.call.execution ≠ .crashed) :
    Slot.taskResult? slot = slot.call.result?.map .result := by
  unfold Slot.taskResult? Call.result?
  split <;> simp_all

end Session

/-- What is sent of a call that has not died is its result. -/
theorem Channel.receive?_send {c : Call ι D} (h : c.execution ≠ .crashed) :
    (Channel.empty.send c).receive? = c.result? := by
  unfold Channel.send Call.result?
  split <;> simp_all [Channel.receive?]

end GraphClient
