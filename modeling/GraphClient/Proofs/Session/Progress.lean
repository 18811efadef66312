import GraphClient.Proofs.Session.Attending
import GraphClient.Proofs.Session.Workload

/-!
# Whoever waits for a call gets its result

Waiting for a call ends with its result, unless the transport is still behind a gate. This rests on
two facts that are kept apart: nobody is forgotten whatever the caller does, and the executor works
until the call is done or nothing is left to do.
-/

namespace GraphClient

variable {ι : Type} [Domains ι] {D : Type}

namespace Session

variable {s s' : Session ι D} {busy : Nat → Prop} {i : Nat} {w : Waker} {slot : Slot ι D}

/-- Nobody forgotten, and nothing to do: a call in the background rests. -/
theorem rests_of_idle (h : s.Attends fun _ => False) (hidle : s.executor.isIdle = true)
    (hi : s.slot? i = some slot) (hbackground : slot.background = true) : s.Rests i slot := by
  refine (h.ready i slot hi hbackground id).resolve_left fun hqueue => ?_
  simp only [Executor.isIdle, Bool.and_eq_true, List.isEmpty_iff] at hidle
  simp [Queued, hidle] at hqueue

/-- Whoever waits for a call in the background finds it done or at a gate. -/
theorem rests_of_waitUntil (h : s.Attends fun _ => False) (htame : s.Tame)
    (hi : s.slot? i = some slot) (hbackground : slot.background = true) :
    ∃ slot', (s.waitUntil (·.isOver i)).slot? i = some slot' ∧
      (s.waitUntil (·.isOver i)).Rests i slot' := by
  have hwait : Leads (fun _ => False) s _ := leads_waitUntil htame (·.isOver i)
  have hattends : (s.waitUntil (·.isOver i)).Attends fun _ => False :=
    attends_roundsUntil h htame _ _
  obtain ⟨slot', hslot'⟩ := hwait.slot hi
  refine ⟨slot', hslot', ?_⟩
  rcases waitUntil_ends (·.isOver i) s with hover | hidle
  · refine .inl ?_
    have hends : slot'.call.isOver = true := by
      change ((s.waitUntil (·.isOver i)).slot? i).any (·.call.isOver) = true at hover
      rw [hslot'] at hover
      exact hover
    rcases hattends.calm i slot' hslot' with hx | ⟨hx, -⟩ | hdone
    · simp [Call.isOver, hx] at hends
    · simp [Call.isOver, hx] at hends
    · exact hdone
  · obtain ⟨slot₁, hslot₁, hchanges⟩ := hwait.slots i slot' hslot'
    obtain rfl := Option.some.inj (hi.symm.trans hslot₁)
    exact rests_of_idle hattends hidle hslot' (hchanges.frame.background.trans hbackground)

/-- Whoever waits for a call of its own polls it in the end. -/
theorem polled_await (h : s.Attends fun _ => False) (htame : s.Tame) (hi : s.slot? i = some slot) :
    (s.await i).2.Polled i := by
  have hfirst : (s.drive .caller i).Polled i :=
    polled_drive h (fun _ => False.elim) hi htame (by simp)
  have hdrive : Leads (· = i) s (s.drive .caller i) := leads_drive htame fun _ _ => .inr rfl
  unfold Session.await
  simp only
  split
  · exact hfirst
  · have hwait : Leads (· = i) _ _ := leads_waitUntil hdrive.tame (·.isSignaled i)
    obtain ⟨slot', hslot'⟩ := (hdrive.trans hwait).slot hi
    exact polled_drive (attends_roundsUntil hfirst.attends hdrive.tame _ _)
      (fun _ => False.elim) hslot' hwait.tame (by simp)

/-- A call waits at a gate, whatever the caller has of it. -/
def IsAtGate (s : Session ι D) (i : Nat) : Prop :=
  ∃ slot, s.slot? i = some slot ∧ slot.AtGate s.openGates

theorem isAtGate_hold (h : s.IsAtGate i) (holding : Holding) : (s.hold i holding).IsAtGate i := by
  obtain ⟨slot, hi, hgate⟩ := h
  rw [hold_eq_put hi]
  exact ⟨{ slot with holding }, (slot?_put hi _ i).trans (if_pos rfl), hgate.of_same rfl rfl⟩

/-- Whoever waits for a call of its own gets the result, or the transport waits at a gate. -/
theorem await_brings (h : s.Attends fun _ => False) (htame : s.Tame)
    (hi : s.slot? i = some slot) :
    (∃ res, (s.await i).1 = some res) ∨ ((s.await i).1 = none ∧ (s.await i).2.IsAtGate i) := by
  obtain ⟨hleads, hres⟩ := await_spec (i := i) htame
  obtain ⟨slot', hslot'⟩ := hleads.slot hi
  have hown : (s.await i).1 = slot'.call.result? := by simp [hres, ownResult?, hslot']
  rcases (polled_await h htame hi).rests slot' hslot' with ⟨res, hdone⟩ | ⟨hgate, -⟩
  · exact .inl ⟨res, by simp [hown, Call.result?, hdone]⟩
  · exact .inr ⟨by simp [hown, Call.result?, hgate.waits], slot', hslot', hgate⟩

/-- Whoever waits for a call in the background gets the result, or the transport waits at a gate. -/
theorem pollTask_brings (h : s.Attends fun _ => False) (htame : s.Tame)
    (hi : s.slot? i = some slot) (hbackground : slot.background = true) :
    let followed := (s.waitUntil (·.isOver i)).pollTask i
    (∃ res, followed.1 = .result res) ∨ (followed.1 = .pending ∧ followed.2.IsAtGate i) := by
  obtain ⟨slot', hslot', hrests⟩ := rests_of_waitUntil h htame hi hbackground
  simp only [pollTask, hslot', Option.bind_some]
  rcases hrests with ⟨res, hdone⟩ | ⟨hgate, -⟩
  · have htask : Slot.taskResult? slot' = some (.result res) := by simp [Slot.taskResult?, hdone]
    simp only [htask]
    exact .inl ⟨res, rfl⟩
  · have htask : Slot.taskResult? slot' = none := by simp [Slot.taskResult?, hgate.waits]
    simp only [htask]
    exact .inr ⟨trivial, slot', hslot', hgate⟩

/-- The caller still has something of the call to wait for. -/
def Awaitable (s : Session ι D) (i : Nat) : Prop :=
  s.holding i = .raw ∨ s.holding i = .future ∨ s.holding i = .stream false ∨
    s.holding i = .spawned ∨ s.holding i = .enqueued

/-- Whoever waits for a call gets the result, or the transport waits at a gate. -/
theorem execute_brings (h : s.Attends fun _ => False) (htame : s.Tame)
    (hawaitable : s.Awaitable i)
    (hback : ∀ slot, s.slot? i = some slot → slot.holding = .spawned ∨ slot.holding = .enqueued →
      slot.background = true) :
    (∃ res, (s.execute i).1.toList = [res]) ∨
      ((s.execute i).1.toList = [] ∧ (s.execute i).2.IsAtGate i) := by
  obtain ⟨slot, hi, hholding⟩ : ∃ slot, s.slot? i = some slot ∧ slot.holding = s.holding i :=
    slot_of_holding rfl (by rcases hawaitable with hh | hh | hh | hh | hh <;> simp [hh])
  unfold execute
  rcases hawaitable with hh | hh | hh | hh | hh <;> simp only [hh]
  case inl | inr.inl | inr.inr.inl =>
    rcases await_brings h htame hi with ⟨res, hres⟩ | ⟨hres, hgate⟩
    · exact .inl ⟨res, by rw [hres]; rfl⟩
    · exact .inr ⟨by rw [hres]; rfl, isAtGate_hold hgate .gone⟩
  case inr.inr.inr.inl | inr.inr.inr.inr =>
    have hbackground := hback slot hi (by simp [hholding, hh])
    rcases pollTask_brings h htame hi hbackground with ⟨res, hres⟩ | ⟨hres, hgate⟩
    · exact .inl ⟨res, by rw [hres]; rfl⟩
    · exact .inr ⟨by rw [hres]; rfl, isAtGate_hold hgate .gone⟩

/-! ### Whatever the caller does -/

theorem attends_add_own (h : s.Attends fun _ => False) {slot : Slot ι D}
    (hidle : slot.call.execution = .idle) (hmine : slot.background = false) :
    (s.add slot).2.Attends fun _ => False := by
  refine (attends_add h hidle).of_slots rfl rfl (fun _ => id) (fun _ => .inr) ?_
  simp [hmine]

/-- There is nothing to do for a new call that the caller has waited for, and the channel through
which its result comes is nobody else's business. -/
theorem polled_block (h : s.Attends fun _ => False) (htame : s.Tame) {call : Call ι D}
    (hop : call.operation.mapper.effects.crashes = false) (hidle : call.execution = .idle)
    {slot driven : Slot ι D} {channel : Option (Channel D)}
    (hruns : s.Runs call slot driven channel) :
    (s.block call).2.Polled s.slots.length := by
  have hadd : (s.add slot).2.Attends fun _ => False :=
    attends_add_own h (hruns.start ▸ hidle) hruns.mine
  have htame' := htame.add slot (hruns.start ▸ hop) hruns.unsent
  have hpolled : ((s.add slot).2.drive .outside s.slots.length).Polled s.slots.length :=
    polled_drive hadd (fun _ => False.elim) (slot?_add s slot) htame' (by simp)
  rw [hruns.block]
  refine ⟨hpolled.attends.put_same hruns.place rfl rfl rfl, fun slot' hslot' => ?_⟩
  rw [slot?_put hruns.place, if_pos rfl] at hslot'
  obtain rfl := Option.some.inj hslot'
  exact (hpolled.rests driven hruns.place).of_same rfl rfl

/-- A new call that the caller waits for brings its result, or the transport waits at a gate. -/
theorem block_brings (h : s.Attends fun _ => False) (htame : s.Tame) {call : Call ι D}
    (hop : call.operation.mapper.effects.crashes = false) (hidle : call.execution = .idle) :
    let i := s.slots.length
    let s' := (s.block call).2
    (∃ res, s'.blockingResult? i = some res) ∨ (s'.blockingResult? i = none ∧ s'.IsAtGate i) := by
  intro i s'
  obtain ⟨slot, driven, channel, hruns⟩ := runs_block htame hop
  have hslot : s'.slot? i = some { driven with channel } := by
    simp only [s', hruns.block, slot?_put hruns.place, i, if_true]
  rcases (polled_block h htame hop hidle hruns).rests _ hslot with ⟨res, hdone⟩ | ⟨hgate, -⟩
  · have hdone' : driven.call.execution = .done res := hdone
    have hres := hruns.result (by simp [hdone'])
    exact .inl ⟨res, by simp [s', i, hres, Call.result?, hdone']⟩
  · have hwaits : driven.call.execution = .awaiting := hgate.waits
    have hres := hruns.result (by simp [hwaits])
    exact .inr ⟨by simp [s', i, hres, Call.result?, hwaits], _, hslot, hgate⟩

end Session

end GraphClient
