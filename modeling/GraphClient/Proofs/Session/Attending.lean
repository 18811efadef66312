import GraphClient.Proofs.Session.Changes

/-!
# Sessions attend to all calls

Nobody is forgotten: a call in the background is done, or can go on and is in a queue of the
executor, or waits at a gate and will be woken. A call that gets a turn, or is canceled, or whose
gate opens, is in none of these states for a moment, and is seen to before anything else happens.
-/

namespace GraphClient

variable {ι : Type} [Domains ι] {D : Type}

def Slot.IsDone (slot : Slot ι D) : Prop := ∃ res, slot.call.execution = .done res

/-- The call waits for the transport, which waits for a gate, and nobody has canceled it. -/
structure Slot.AtGate (gates : List String) (slot : Slot ι D) : Prop where
  waits : slot.call.execution = .awaiting
  quiet : slot.call.lifecycle.signaled = false
  shut : ∃ reply, slot.reply = some reply ∧ reply.gate.all gates.contains = false

theorem Slot.AtGate.of_same {gates : List String} {slot slot' : Slot ι D} (h : slot.AtGate gates)
    (hcall : slot'.call = slot.call) (hreply : slot'.reply = slot.reply) : slot'.AtGate gates :=
  ⟨hcall ▸ h.waits, hcall ▸ h.quiet, hreply ▸ h.shut⟩

def Slot.Calm (slot : Slot ι D) : Prop :=
  slot.call.execution = .idle ∨
    (slot.call.execution = .awaiting ∧ ∃ reply, slot.reply = some reply) ∨ slot.IsDone

namespace Session

variable {s s' : Session ι D} {busy busy' : Nat → Prop} {i : Nat} {w : Waker} {slot : Slot ι D}

def Rests (s : Session ι D) (i : Nat) (slot : Slot ι D) : Prop :=
  slot.IsDone ∨ (slot.AtGate s.openGates ∧ i ∈ s.waiting)

def Queued (s : Session ι D) (i : Nat) : Prop := i ∈ s.executor.own ∨ i ∈ s.executor.posted

theorem Rests.of_same {slot' : Slot ι D} (h : s.Rests i slot) (hcall : slot'.call = slot.call)
    (hreply : slot'.reply = slot.reply) : s.Rests i slot' :=
  h.imp (fun hdone => by rwa [Slot.IsDone, hcall])
    (And.imp_left fun hgate => hgate.of_same hcall hreply)

/-- No call in the background is forgotten. Those that are `busy` are at work, or being seen to. -/
structure Attends (busy : Nat → Prop) (s : Session ι D) : Prop where
  calm : ∀ i slot, s.slot? i = some slot → slot.Calm
  ready : ∀ i slot, s.slot? i = some slot → slot.background = true → ¬busy i →
    s.Queued i ∨ s.Rests i slot

namespace Attends

/-- The calls are left as they are, and what was waiting still is. -/
theorem of_slots (h : s.Attends busy) (hslots : s'.slots = s.slots)
    (hgates : s'.openGates = s.openGates) (hwaiting : ∀ j ∈ s.waiting, j ∈ s'.waiting)
    (hqueued : ∀ j, s.Queued j → busy' j ∨ s'.Queued j) (hbusy : ∀ j, busy j → busy' j) :
    s'.Attends busy' := by
  have hsame : ∀ j, s'.slot? j = s.slot? j := fun j => by simp only [slot?, hslots]
  refine ⟨fun j slot hslot => h.calm j slot (hsame j ▸ hslot), ?_⟩
  intro j slot hslot hbackground hj
  rcases h.ready j slot (hsame j ▸ hslot) hbackground (fun hb => hj (hbusy j hb)) with
    hqueue | hdone | ⟨hgate, hwaits⟩
  · exact .inl ((hqueued j hqueue).resolve_left hj)
  · exact .inr (.inl hdone)
  · exact .inr (.inr ⟨hgates ▸ hgate, hwaiting j hwaits⟩)

/-- One call becomes another one, and is attended to if the old one was not busy. -/
theorem put (h : s.Attends busy) (hi : s.slot? i = some slot) {slot' : Slot ι D}
    (hcalm : slot'.Calm) (hbusy : ∀ j, busy j → j = i ∨ busy' j)
    (hready : slot'.background = true → ¬busy' i → s.Queued i ∨ s.Rests i slot') :
    (s.put i slot').Attends busy' := by
  constructor
  · intro j slot₁ hslot₁
    rw [slot?_put hi] at hslot₁
    split at hslot₁
    · exact Option.some.inj hslot₁ ▸ hcalm
    · exact h.calm j slot₁ hslot₁
  · intro j slot₁ hslot₁ hbackground hj
    rw [slot?_put hi] at hslot₁
    split at hslot₁
    · rename_i hij
      subst hij
      obtain rfl := Option.some.inj hslot₁
      exact hready hbackground hj
    · rename_i hij
      exact h.ready j slot₁ hslot₁ hbackground fun hb =>
        (hbusy j hb).elim (fun hji => hij hji.symm) hj

end Attends

theorem queued_wake (e : Executor) (w : Waker) (i j : Nat) (h : j ∈ e.own ∨ j ∈ e.posted) :
    j ∈ (e.wake w i).own ∨ j ∈ (e.wake w i).posted := by
  unfold Executor.wake
  split
  · exact h
  · cases w <;> grind [Executor.spawn]

/-- Whoever is not at work itself gets into a queue when it is woken. -/
theorem queued_of_wake (e : Executor) {w : Waker} {i : Nat} (hw : w ≠ .task i) :
    i ∈ (e.wake w i).own ∨ i ∈ (e.wake w i).posted := by
  unfold Executor.wake
  split
  · rename_i h
    exact h.resolve_left hw
  · cases w <;> grind [Executor.spawn]

/-- A wake leaves all but the queues alone, and what is in a queue stays there. -/
theorem wake_frame (s : Session ι D) (w : Waker) (i : Nat) :
    (s.wake w i).slots = s.slots ∧ (s.wake w i).openGates = s.openGates ∧
      (s.wake w i).waiting = s.waiting ∧ ∀ j, s.Queued j → (s.wake w i).Queued j := by
  unfold wake
  split
  · split
    · split
      · exact ⟨rfl, rfl, rfl, fun j => queued_wake s.executor w i j⟩
      · exact ⟨rfl, rfl, rfl, fun _ => id⟩
    · exact ⟨rfl, rfl, rfl, fun _ => id⟩
  · exact ⟨rfl, rfl, rfl, fun _ => id⟩

theorem queued_wake_self (hi : s.slot? i = some slot) (hx : slot.call.execution = .awaiting)
    (hbackground : slot.background = true) (hw : w ≠ .task i) : (s.wake w i).Queued i := by
  unfold wake
  simp only [hi, hx, hbackground, if_true]
  exact queued_of_wake s.executor hw

/-- A call that was seen to is attended to again when it is woken, unless it is at work itself. -/
theorem attends_wake (h : s.Attends fun j => busy j ∨ j = i) (hw : w = .task i → busy i)
    (hi : ∀ slot, s.slot? i = some slot → slot.background = true → ¬busy i →
      slot.call.execution = .awaiting ∨ s.Queued i ∨ s.Rests i slot) :
    (s.wake w i).Attends busy := by
  obtain ⟨hslots, hgates, hwaiting, hqueued⟩ := wake_frame s w i
  have hsame : ∀ j, (s.wake w i).slot? j = s.slot? j := fun j => by simp only [slot?, hslots]
  have hrests : ∀ j slot, s.Rests j slot → (s.wake w i).Rests j slot := fun j slot => by
    unfold Rests
    rw [hgates, hwaiting]
    exact id
  refine ⟨fun j slot hslot => h.calm j slot (hsame j ▸ hslot), ?_⟩
  intro j slot hslot hbackground hj
  rw [hsame] at hslot
  by_cases hij : j = i
  · subst hij
    rcases hi slot hslot hbackground hj with hx | hqueue | hr
    · exact .inl (queued_wake_self hslot hx hbackground fun he => hj (hw he))
    · exact .inl (hqueued j hqueue)
    · exact .inr (hrests j slot hr)
  · exact (h.ready j slot hslot hbackground (by simp [hj, hij])).imp (hqueued j) (hrests j slot)

/-- A cancel wakes what it makes ready. -/
theorem attends_cancel? (h : s.Attends busy) (hw : ∀ j, w = .task j → busy j) {won : Bool}
    (hs : s.cancel? w i = some (won, s')) : s'.Attends busy := by
  obtain ⟨slot, hslot, ⟨-, rfl⟩ | ⟨-, rfl⟩⟩ := cancel?_cases hs
  · exact h
  · have hput : (s.put i { slot with call := slot.call.cancel.2 }).Attends
        fun j => busy j ∨ j = i :=
      h.put hslot (h.calm i slot hslot) (fun j hj => .inr (.inl hj)) fun _ hn =>
        absurd (.inr rfl) hn
    refine attends_wake hput (hw i) fun slot' hslot' hbackground hi => ?_
    rw [slot?_put hslot, if_pos rfl] at hslot'
    obtain rfl := Option.some.inj hslot'
    rcases h.ready i slot hslot hbackground hi with hqueue | hdone | ⟨hgate, -⟩
    · exact .inr (.inl hqueue)
    · exact .inr (.inr (.inl hdone))
    · exact .inl hgate.waits

theorem attends_cancelAll (h : s.Attends busy) (hw : ∀ j, w = .task j → busy j)
    (is : List Nat) : (s.cancelAll w is).Attends busy := by
  induction is generalizing s with
  | nil => exact h
  | cons i rest ih =>
    unfold cancelAll
    split
    · rename_i hs
      exact ih (attends_cancel? h hw hs)
    · exact ih h

/-- Cancels leave alone what only executions touch. -/
theorem execution_cancel? {won : Bool} {j : Nat} (hs : s.cancel? w j = some (won, s'))
    (hi : s.slot? i = some slot) :
    ∃ slot', s'.slot? i = some slot' ∧ slot'.call.execution = slot.call.execution := by
  obtain ⟨slot₁, hslot₁, ⟨-, rfl⟩ | ⟨-, rfl⟩⟩ := cancel?_cases hs
  · exact ⟨slot, hi, rfl⟩
  · have hsame := (wake_frame (s.put j { slot₁ with call := slot₁.call.cancel.2 }) w j).1
    simp only [slot?, hsame]
    by_cases hij : j = i
    · subst hij
      obtain rfl := Option.some.inj (hslot₁.symm.trans hi)
      exact ⟨_, (slot?_put hi _ j).trans (if_pos rfl), rfl⟩
    · exact ⟨slot, (slot?_put hslot₁ _ i).trans ((if_neg hij).trans hi), rfl⟩

theorem execution_cancelAll (w : Waker) (is : List Nat) (hi : s.slot? i = some slot) :
    ∃ slot', (s.cancelAll w is).slot? i = some slot' ∧
      slot'.call.execution = slot.call.execution := by
  induction is generalizing s slot with
  | nil => exact ⟨slot, hi, rfl⟩
  | cons j rest ih =>
    unfold cancelAll
    split
    · rename_i hs
      obtain ⟨slot', hslot', hx⟩ := execution_cancel? hs hi
      obtain ⟨slot'', hslot'', hx'⟩ := ih hslot'
      exact ⟨slot'', hslot'', hx'.trans hx⟩
    · exact ih hi

/-- The session attends to everybody, and there is nothing to do for the call that was polled. -/
structure Polled (i : Nat) (s : Session ι D) : Prop where
  attends : s.Attends fun _ => False
  rests : ∀ slot, s.slot? i = some slot → s.Rests i slot

section

variable (h : s.Attends busy) (hbusy : ∀ j, busy j → j = i) (hi : s.slot? i = some slot)

include h hbusy hi

theorem polled_rest (hrests : s.Rests i slot) : s.Polled i := by
  constructor
  · refine ⟨h.calm, fun j slot' hslot' hbackground _ => ?_⟩
    by_cases hj : busy j
    · obtain rfl := hbusy j hj
      exact .inr (Option.some.inj (hi.symm.trans hslot') ▸ hrests)
    · exact h.ready j slot' hslot' hbackground hj
  · intro slot' hslot'
    exact Option.some.inj (hi.symm.trans hslot') ▸ hrests

theorem polled_feed {e : Event} {c : Call ι D} (he : slot.call.step s.client e = some c)
    (hpast : Call.PastExchange c.execution) : (s.feed i e).Polled i := by
  have hdone := Call.done_of_past s.client he hpast
  rw [feed_eq_put hi]
  constructor
  · exact h.put hi (.inr (.inr hdone)) (fun j hj => .inl (hbusy j hj)) fun _ _ => .inr (.inl hdone)
  · intro slot' hslot'
    rw [slot?_put hi, if_pos rfl] at hslot'
    exact Option.some.inj hslot' ▸ .inl hdone

theorem polled_deliver (htame : s.Tame) (hw : ∀ j, w = .task j → busy j)
    (hx : slot.call.execution = .awaiting) {reply : Reply}
    (hreply : reply.effects.crashes = false) :
    (s.deliver w i slot.call.operation reply).Polled i := by
  have hmapper := crashes_mapperEffects (s := s.cancelAll w reply.effects.cancels)
    (htame.mappers i slot hi) reply.outcome
  obtain ⟨slot₁, hslot₁, hx₁⟩ := execution_cancelAll w reply.effects.cancels hi
  simp only [deliver, hreply, hmapper, Bool.false_eq_true, if_false]
  obtain ⟨slot₂, hslot₂, hx₂⟩ := execution_cancelAll w
    ((s.cancelAll w reply.effects.cancels).mapperEffects slot.call.operation reply.outcome).cancels
    hslot₁
  have hattends := attends_cancelAll (attends_cancelAll h hw reply.effects.cancels) hw
    ((s.cancelAll w reply.effects.cancels).mapperEffects slot.call.operation reply.outcome).cancels
  have hwaits : slot₂.call.execution = .awaiting := by rw [hx₂, hx₁, hx]
  exact polled_feed hattends hbusy hslot₂ (Call.step_answered _ hwaits reply.outcome) trivial

theorem polled_resume (htame : s.Tame) (hw : ∀ j, w = .task j → busy j)
    (hx : slot.call.execution = .awaiting) {reply : Reply} (hr : slot.reply = some reply) :
    (s.resume w i slot reply).Polled i := by
  unfold resume
  split
  · rename_i hsignaled
    exact polled_feed h hbusy hi (Call.step_noticed s.client hx hsignaled) trivial
  · rename_i hquiet
    split
    · exact polled_deliver h hbusy hi htame hw hx (htame.replies i slot reply hi hr)
    · rename_i hshut
      have hgate : slot.AtGate s.openGates :=
        ⟨hx, by simpa using hquiet, reply, hr, by simpa using hshut⟩
      split
      · rename_i hwaits
        exact polled_rest h hbusy hi (.inr ⟨hgate, hwaits⟩)
      · have hlater : Attends busy { s with waiting := s.waiting ++ [i] } :=
          h.of_slots rfl rfl (fun j hj => List.mem_append_left _ hj) (fun _ => .inr) fun _ => id
        exact polled_rest hlater hbusy hi (.inr ⟨hgate, by simp⟩)

/-- A poll of an execution brings it to its result, or to a gate. -/
theorem polled_drive (htame : s.Tame) (hw : ∀ j, w = .task j → busy j) :
    (s.drive w i).Polled i := by
  unfold drive
  simp only [hi]
  split
  · rename_i reply hx hr
    exact polled_resume h hbusy hi htame hw hx hr
  · rename_i hx
    have halive : slot.call.execution ≠ .crashed := by simp [hx]
    obtain ⟨es, -, hruns, hrests⟩ := Call.runs_advance s.client halive
    have hqueued : slot.background = true → ¬busy i → s.Queued i := by
      intro hbackground hnot
      refine (h.ready i slot hi hbackground hnot).resolve_right ?_
      rintro (⟨res, hdone⟩ | ⟨hgate, -⟩)
      · simp [hx] at hdone
      · simpa [hx] using hgate.waits
    split
    · rename_i hawaiting
      let slot' := { slot with
        call := slot.call.advance s.client, reply := some s.script.take.1 }
      have hput : (s.put i slot').Attends busy :=
        h.put hi (.inr (.inl ⟨hawaiting, _, rfl⟩)) (fun _ => .inr)
          fun hb hn => .inl (hqueued hb hn)
      have hsent : Attends busy { s.put i slot' with
          script := s.script.take.2, sent := s.sent ++ slot'.call.sent } :=
        hput.of_slots rfl rfl (fun _ => id) (fun _ => .inr) fun _ => id
      have hsend : Leads (fun _ => True) s _ := leads_send htame (fun _ _ => .inr trivial) hi
      exact polled_resume hsent hbusy ((slot?_put hi slot' i).trans (if_pos rfl)) hsend.tame hw
        hawaiting rfl
    · rename_i hnot
      have hdone : Slot.IsDone { slot with call := slot.call.advance s.client } :=
        hrests.resolve_left hnot
      have hput : (s.put i { slot with call := slot.call.advance s.client }).Attends busy :=
        h.put hi (.inr (.inr hdone)) (fun _ => .inr) fun hb hn => .inl (hqueued hb hn)
      exact polled_rest hput hbusy ((slot?_put hi _ i).trans (if_pos rfl)) (.inl hdone)
  · rename_i hnotIdle hnotAwaiting
    refine polled_rest h hbusy hi (.inl ?_)
    rcases h.calm i slot hi with hx | ⟨hx, reply, hr⟩ | hdone
    · exact absurd hx hnotIdle
    · exact absurd hr (hnotAwaiting reply hx)
    · exact hdone

end

/-- The task that gets a turn leaves its queue, and no other does. -/
theorem queued_next (e : Executor) (j : Nat) (h : j ∈ e.own ∨ j ∈ e.posted) :
    e.next.1 = some j ∨ j ∈ e.next.2.own ∨ j ∈ e.next.2.posted := by
  obtain ⟨own, posted, turns⟩ := e
  cases own <;> cases posted <;> grind [Executor.next]

theorem attends_round (h : s.Attends fun _ => False) (htame : s.Tame) (n : Nat) :
    (s.round n).Attends fun _ => False := by
  induction n generalizing s with
  | zero => exact h
  | succ n ih =>
    unfold round
    split
    · rename_i executor hx
      refine h.of_slots rfl rfl (fun _ => id) (fun j hj => ?_) fun _ => id
      have hnext := queued_next s.executor j hj
      rw [hx] at hnext
      exact .inr (hnext.resolve_left (by simp))
    · rename_i i executor hx
      obtain ⟨slot, hi, hbackground⟩ := htame.tasks i (mem_next s.executor i (by simp [hx]))
      have hturn : Attends (· = i) { s with executor } := by
        refine h.of_slots rfl rfl (fun _ => id) (fun j hj => ?_) fun _ hf => hf.elim
        have hnext := queued_next s.executor j hj
        rw [hx] at hnext
        exact hnext.imp_left fun hij => (Option.some.inj hij).symm
      have hnext : Leads (fun _ => False) s { s with executor } := by
        refine .of_slots htame rfl rfl rfl htame.script fun j hj => htame.tasks j ?_
        exact mem_next s.executor j (by rw [hx]; exact hj.imp_right .inl)
      have hdrive : Leads (fun _ => False) { s with executor } _ :=
        leads_drive (w := .task i) hnext.tame fun slot' hslot' =>
          .inl (Option.some.inj (hi.symm.trans hslot') ▸ hbackground)
      have hpolled := polled_drive hturn (fun _ => id) hi hnext.tame (w := .task i)
        fun j hj => (Waker.task.inj hj).symm
      exact ih hpolled.attends hdrive.tame

theorem attends_roundsUntil (h : s.Attends fun _ => False) (htame : s.Tame)
    (isOver : Session ι D → Bool) (n : Nat) : (s.roundsUntil isOver n).Attends fun _ => False := by
  induction n generalizing s with
  | zero => exact h
  | succ n ih =>
    unfold roundsUntil
    split
    · exact h
    · have hround : Leads (fun _ => False) s _ := leads_round htame Executor.roundLength
      exact ih (attends_round h htame _) hround.tame

/-- What the caller keeps of a call, and where it waits for it, does not matter to the session. -/
theorem Attends.put_same (h : s.Attends busy) (hi : s.slot? i = some slot) {slot' : Slot ι D}
    (hcall : slot'.call = slot.call) (hreply : slot'.reply = slot.reply)
    (hbackground : slot'.background = slot.background) : (s.put i slot').Attends busy := by
  refine h.put hi ?_ (fun _ => .inr) fun hb hn => ?_
  · rw [Slot.Calm, Slot.IsDone, hcall, hreply]
    exact h.calm i slot hi
  · exact (h.ready i slot hi (hbackground ▸ hb) hn).imp_right fun hrests =>
      hrests.of_same hcall hreply

/-- A new call is attended to, unless it goes to the background. -/
theorem attends_add (h : s.Attends fun _ => False) {slot : Slot ι D}
    (hidle : slot.call.execution = .idle) :
    (s.add slot).2.Attends fun j => j = s.slots.length ∧ slot.background = true := by
  constructor
  · intro j slot' hj
    rcases slot?_add_cases hj with hj | ⟨-, rfl⟩
    · exact h.calm j slot' hj
    · exact .inl hidle
  · intro j slot' hj hbackground hn
    rcases slot?_add_cases hj with hj | ⟨rfl, rfl⟩
    · exact h.ready j slot' hj hbackground id
    · exact absurd ⟨rfl, hbackground⟩ hn

end Session

end GraphClient
