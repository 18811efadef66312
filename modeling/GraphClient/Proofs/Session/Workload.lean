import GraphClient.Proofs.Call.Cancellation
import GraphClient.Proofs.Session.Changes

/-!
# Executors run out of work

A call becomes ready again only by being canceled, and so only once, which bounds the turns that the
executor can have. Whoever waits while the executor works waits for so many rounds at most; then the
wait is over, or no task is left that can go on.
-/

namespace GraphClient

variable {ι : Type} [Domains ι] {D : Type}

namespace Session

variable {s s' : Session ι D} {i : Nat} {w : Waker} {slot : Slot ι D}

/-- The turns that the executor can have at most before somebody else does something: one for each
task that can go on, and one more for each call that can still be canceled. -/
def workLeft (s : Session ι D) : Nat :=
  s.executor.load + s.slots.countP (·.call.isPending)

theorem workLeft_put (hi : s.slot? i = some slot) (slot' : Slot ι D) :
    (s.put i slot').workLeft + (if slot.call.isPending then 1 else 0) =
      s.workLeft + if slot'.call.isPending then 1 else 0 := by
  obtain ⟨hlt, rfl⟩ := List.getElem?_eq_some_iff.mp hi
  have hcount : (if s.slots[i].call.isPending then 1 else 0) ≤
      s.slots.countP (·.call.isPending) := by
    split
    · rename_i hp
      exact List.countP_pos_iff.mpr ⟨_, List.getElem_mem hlt, hp⟩
    · exact Nat.zero_le _
  simp only [workLeft, put, List.countP_set hlt]
  omega

/-- No call becomes pending again. -/
theorem workLeft_put_le (hi : s.slot? i = some slot) {slot' : Slot ι D}
    (h : slot'.call.isPending = true → slot.call.isPending = true) :
    (s.put i slot').workLeft ≤ s.workLeft := by
  have hput := workLeft_put hi slot'
  by_cases hp : slot'.call.isPending = true
  · simp only [hp, h hp, if_true] at hput
    omega
  · simp only [hp, Bool.false_eq_true, if_false] at hput
    omega

theorem load_wake (e : Executor) (w : Waker) (i : Nat) : (e.wake w i).load ≤ e.load + 1 := by
  unfold Executor.wake
  split
  · omega
  · cases w <;> simp [Executor.load, Executor.spawn] <;> omega

theorem workLeft_wake (s : Session ι D) (w : Waker) (i : Nat) :
    (s.wake w i).workLeft ≤ s.workLeft + 1 := by
  have hload := load_wake s.executor w i
  unfold wake
  split
  · split
    · split
      · simp only [workLeft]
        omega
      · omega
    · omega
  · omega

/-- A cancel that counts can make a call ready, but makes it no more pending. -/
theorem workLeft_cancelAll (s : Session ι D) (w : Waker) (is : List Nat) :
    (s.cancelAll w is).workLeft ≤ s.workLeft := by
  induction is generalizing s with
  | nil => exact Nat.le_refl _
  | cons i rest ih =>
    unfold cancelAll
    split
    · rename_i won s' hs
      obtain ⟨slot, hslot, ⟨-, rfl⟩ | ⟨ha, rfl⟩⟩ := cancel?_cases hs
      · exact ih s'
      · have hput := workLeft_put hslot { slot with call := slot.call.cancel.2 }
        have hwas : slot.call.isPending = true := ha
        have hnow : slot.call.cancel.2.isPending = false := by
          simp only [Call.cancel, Lifecycle.cancel, ha, if_true]
          rfl
        simp only [hwas, hnow, Bool.false_eq_true, if_true, if_false] at hput
        have hwake := workLeft_wake (s.put i { slot with call := slot.call.cancel.2 }) w i
        have hrest := ih ((s.put i { slot with call := slot.call.cancel.2 }).wake w i)
        omega
    · exact ih s

theorem isPending_runs {client : Client ι Script} {c c' : Call ι D} {es : List Event}
    (h : Call.Runs client c es c') (hp : c'.isPending = true) : c.isPending = true := by
  induction h with
  | nil => exact hp
  | @cons c m c' e es step _ ih =>
    cases ha : c.lifecycle.armed with
    | true => exact ha
    | false =>
      have hgone : m.isPending = false := Race.armed_rule (Call.rule_of_step step) ha
      exact absurd (ih hp) (by simp [hgone])

theorem isPending_advance {client : Client ι Script} {c : Call ι D}
    (hp : (c.advance client).isPending = true) : c.isPending = true := by
  obtain ⟨es, -, hruns⟩ := Call.runs_repeat client 6 c
  exact isPending_runs hruns hp

theorem workLeft_feed (s : Session ι D) (i : Nat) (e : Event) :
    (s.feed i e).workLeft ≤ s.workLeft := by
  cases hi : s.slot? i with
  | none => simp [feed_of_none hi]
  | some slot =>
    rw [feed_eq_put hi]
    refine workLeft_put_le hi fun hp => ?_
    have hmet := isPending_advance hp
    rcases Call.meet_cases s.client slot.call e with ⟨-, hsame⟩ | hstep
    · exact hsame ▸ hmet
    · exact isPending_runs (.cons hstep (.nil _)) hmet

theorem workLeft_deliver (s : Session ι D) (w : Waker) (i : Nat) (op : Operation ι D)
    (reply : Reply) : (s.deliver w i op reply).workLeft ≤ s.workLeft := by
  unfold deliver
  simp only
  have hfirst := workLeft_cancelAll s w reply.effects.cancels
  split
  · exact Nat.le_trans (workLeft_feed _ i _) hfirst
  · have hsecond := workLeft_cancelAll (s.cancelAll w reply.effects.cancels) w
      ((s.cancelAll w reply.effects.cancels).mapperEffects op reply.outcome).cancels
    split
    · exact Nat.le_trans (workLeft_feed _ i _) (Nat.le_trans hsecond hfirst)
    · exact Nat.le_trans (workLeft_feed _ i _) (Nat.le_trans hsecond hfirst)

theorem workLeft_resume (s : Session ι D) (w : Waker) (i : Nat) (slot : Slot ι D)
    (reply : Reply) : (s.resume w i slot reply).workLeft ≤ s.workLeft := by
  unfold resume
  split
  · exact workLeft_feed s i _
  · split
    · exact workLeft_deliver s w i _ reply
    · split <;> exact Nat.le_refl _

theorem workLeft_drive (s : Session ι D) (w : Waker) (i : Nat) :
    (s.drive w i).workLeft ≤ s.workLeft := by
  unfold drive
  split
  · exact Nat.le_refl _
  · rename_i slot hi
    split
    · exact workLeft_resume s w i slot _
    · simp only
      split
      · exact Nat.le_trans (workLeft_resume _ w i _ _) (workLeft_put_le hi isPending_advance)
      · exact workLeft_put_le hi isPending_advance
    · exact Nat.le_refl _

/-- An executor without tasks has none after a turn either. -/
theorem load_next_of_none {e : Executor} (h : e.next.1 = none) : e.next.2.load = e.load := by
  obtain ⟨own, posted, turns⟩ := e
  cases own <;> cases posted <;> simp_all [Executor.next, Executor.load]
  split at h <;> cases h

/-- A round that finds a task has done some of the work. -/
theorem workLeft_round (s : Session ι D) (n : Nat) :
    (s.round n).workLeft ≤ s.workLeft ∧
      (s.executor.isIdle = false → 0 < n → (s.round n).workLeft < s.workLeft) := by
  induction n generalizing s with
  | zero => exact ⟨Nat.le_refl _, fun _ h => absurd h (Nat.lt_irrefl 0)⟩
  | succ n ih =>
    unfold round
    split
    · rename_i executor hx
      have hidle := (Executor.next_eq_none_iff s.executor).mp (by rw [hx])
      have hload := load_next_of_none (e := s.executor) (by rw [hx])
      rw [hx] at hload
      simp only [workLeft, hload, hidle, Bool.true_eq_false, false_implies, and_true]
      exact Nat.le_refl _
    · rename_i i executor hx
      have hload := Executor.load_next (e := s.executor) (i := i) (by rw [hx])
      rw [hx] at hload
      have hdrive := workLeft_drive { s with executor } (.task i) i
      have hrest := (ih (({ s with executor } : Session ι D).drive (.task i) i)).1
      simp only [workLeft] at *
      omega

theorem isIdle_of_workLeft (h : s.workLeft = 0) : s.executor.isIdle = true := by
  have hload : s.executor.load = 0 := by
    unfold workLeft at h
    omega
  unfold Executor.load at hload
  simp only [Executor.isIdle, Bool.and_eq_true, List.isEmpty_iff, ← List.length_eq_zero_iff]
  omega

/-- Enough rounds bring what the caller waits for, or leave nothing to do. -/
theorem roundsUntil_ends (isOver : Session ι D → Bool) (n : Nat) (h : s.workLeft ≤ n) :
    isOver (s.roundsUntil isOver n) = true ∨
      (s.roundsUntil isOver n).executor.isIdle = true := by
  induction n generalizing s with
  | zero => exact .inr (isIdle_of_workLeft (Nat.le_zero.mp h))
  | succ n ih =>
    unfold roundsUntil
    split
    · rename_i hstop
      simpa using hstop
    · rename_i hgo
      have hbusy : s.executor.isIdle = false := by simp_all
      have hround := (workLeft_round s Executor.roundLength).2 hbusy (by decide)
      exact ih (by omega)

theorem waitUntil_ends (isOver : Session ι D → Bool) (s : Session ι D) :
    isOver (s.waitUntil isOver) = true ∨ (s.waitUntil isOver).executor.isIdle = true := by
  refine roundsUntil_ends isOver _ ?_
  have hcount : s.slots.countP (·.call.isPending) ≤ s.slots.length := List.countP_le_length
  unfold workLeft
  omega

end Session

end GraphClient
