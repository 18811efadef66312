import GraphClient.Proofs.Call.Advance
import GraphClient.Proofs.Call.Sender
import GraphClient.Proofs.Session.Slots
import Mathlib.Logic.Relation

/-!
# What sessions do to calls

All that a session ever does to a call is to cancel it and to poll its execution, and it polls only
what is in the background or what the caller asks for. Everything that a session does on its own is
made of such changes, whoever of the tasks gets a turn.
-/

namespace GraphClient

variable {ι : Type} [Domains ι] {D : Type}

/-- A session cancels a call, or lets its execution go on. `own` says that the caller asks for the
call; nothing else but a call in the background goes on. -/
inductive Slot.Change (client : Client ι Script) (own : Prop) : Slot ι D → Slot ι D → Prop where
  | cancel (slot : Slot ι D) : Change client own slot { slot with call := slot.call.cancel.2 }
  | advance (slot : Slot ι D) (allowed : slot.background = true ∨ own) (reply : Option Reply) :
    Change client own slot { slot with call := slot.call.advance client, reply }
  | feed (slot : Slot ι D) (allowed : slot.background = true ∨ own) {e : Event}
    (alive : e ≠ .crashed) :
    Change client own slot { slot with call := (slot.call.meet client e).advance client }

/-- Changes one after the other. -/
abbrev Slot.Changes (client : Client ι Script) (own : Prop) : Slot ι D → Slot ι D → Prop :=
  Relation.ReflTransGen (Slot.Change client own)

namespace Session

/-- Neither a transport nor a mapper dies, and all tasks of the executor are in the background. -/
structure Tame (s : Session ι D) : Prop where
  script : ∀ reply ∈ s.script, reply.effects.crashes = false
  replies : ∀ i slot reply, s.slot? i = some slot → slot.reply = some reply →
    reply.effects.crashes = false
  mappers : ∀ i slot, s.slot? i = some slot → slot.call.operation.mapper.effects.crashes = false
  tasks : ∀ i, i ∈ s.executor.own ∨ i ∈ s.executor.posted →
    ∃ slot, s.slot? i = some slot ∧ slot.background = true

/-- The session comes to be another one by changes to its calls; `own` are the calls that the caller
asks for. -/
structure Leads (own : Nat → Prop) (s s' : Session ι D) : Prop where
  client : s'.client = s.client
  surroundings : s'.surroundings = s.surroundings
  length : s'.slots.length = s.slots.length
  slots : ∀ i slot', s'.slot? i = some slot' →
    ∃ slot, s.slot? i = some slot ∧ slot.Changes s.client (own i) slot'
  tame : s'.Tame

end Session

/-! ### What changes leave as it is -/

theorem Call.Runs.operation {client : Client ι Script} {c c' : Call ι D} {es : List Event}
    (h : Runs client c es c') : c'.operation = c.operation := by
  induction h with
  | nil => rfl
  | cons step _ ih => exact ih.trans (Race.rule_frame (rule_of_step step)).1

theorem Call.operation_advance (client : Client ι Script) (c : Call ι D) :
    (c.advance client).operation = c.operation := by
  obtain ⟨es, -, hruns⟩ := runs_repeat client 6 c
  exact hruns.operation

theorem Call.operation_meet (client : Client ι Script) (c : Call ι D) (e : Event) :
    (c.meet client e).operation = c.operation := by
  rcases meet_cases client c e with ⟨-, hsame⟩ | hstep
  · rw [hsame]
  · exact (Race.rule_frame (rule_of_step hstep)).1

/-- What the caller has of a call, where it runs and what it is made of. -/
structure Slot.SameFrame (slot slot' : Slot ι D) : Prop where
  holding : slot'.holding = slot.holding
  background : slot'.background = slot.background
  channel : slot'.channel = slot.channel
  operation : slot'.call.operation = slot.call.operation

theorem Slot.Changes.frame {client : Client ι Script} {own : Prop} {slot slot' : Slot ι D}
    (h : slot.Changes client own slot') : slot.SameFrame slot' := by
  induction h with
  | refl => exact ⟨rfl, rfl, rfl, rfl⟩
  | tail _ hchange ih =>
    obtain ⟨hholding, hbackground, hchannel, hop⟩ := ih
    cases hchange with
    | cancel => exact ⟨hholding, hbackground, hchannel, hop⟩
    | advance => exact ⟨hholding, hbackground, hchannel, (Call.operation_advance _ _).trans hop⟩
    | feed =>
      exact ⟨hholding, hbackground, hchannel,
        (Call.operation_advance _ _).trans ((Call.operation_meet _ _ _).trans hop)⟩

/-- A call that is not run, or is done, does not come to another result. -/
theorem Slot.Changes.result? {client : Client ι Script} {own : Prop} {slot slot' : Slot ι D}
    (h : slot.Changes client own slot')
    (hstill : slot.background = true ∨ own → ∃ res, slot.call.execution = .done res) :
    slot'.call.result? = slot.call.result? := by
  have hsame : slot'.call.execution = slot.call.execution := by
    induction h with
    | refl => rfl
    | @tail middle last hchanges hchange ih =>
      have hframe := Slot.Changes.frame hchanges
      have hdone : middle.background = true ∨ own → ∃ res, middle.call.execution = .done res := by
        rw [hframe.background, ih]
        exact hstill
      cases hchange with
      | cancel => exact ih
      | advance allowed =>
        obtain ⟨res, hres⟩ := hdone allowed
        have halive : middle.call.execution ≠ .crashed := by simp [hres]
        obtain ⟨es, -, hruns, -⟩ := Call.runs_advance client halive
        simpa only [hruns.of_done ⟨res, hres⟩] using ih
      | feed allowed alive =>
        obtain ⟨res, hres⟩ := hdone allowed
        have halive : middle.call.execution ≠ .crashed := by simp [hres]
        obtain ⟨es, -, hruns, -⟩ := Call.runs_meet_advance client alive halive
        simpa only [hruns.of_done ⟨res, hres⟩] using ih
  unfold Call.result?
  rw [hsame]

theorem Slot.Changes.mono {client : Client ι Script} {own own' : Prop} (hown : own → own')
    {slot slot' : Slot ι D} (h : slot.Changes client own slot') :
    slot.Changes client own' slot' := by
  refine h.lift id ?_
  intro a b hchange
  cases hchange with
  | cancel => exact .cancel a
  | advance allowed reply => exact .advance a (allowed.imp id hown) reply
  | feed allowed alive => exact .feed a (allowed.imp id hown) alive

namespace Session

variable {s s' s'' : Session ι D} {own : Nat → Prop} {i : Nat} {w : Waker}

/-- The executor may run the call, or the caller asks for it. -/
def Allowed (own : Nat → Prop) (s : Session ι D) (i : Nat) : Prop :=
  ∀ slot, s.slot? i = some slot → slot.background = true ∨ own i

namespace Leads

theorem refl (h : s.Tame) : Leads own s s :=
  ⟨rfl, rfl, rfl, fun _ slot hslot => ⟨slot, hslot, .refl⟩, h⟩

theorem trans (h : Leads own s s') (h' : Leads own s' s'') : Leads own s s'' where
  client := h'.client.trans h.client
  surroundings := h'.surroundings.trans h.surroundings
  length := h'.length.trans h.length
  slots := by
    intro i slot'' hslot''
    obtain ⟨slot', hslot', hchanges'⟩ := h'.slots i slot'' hslot''
    obtain ⟨slot, hslot, hchanges⟩ := h.slots i slot' hslot'
    exact ⟨slot, hslot, hchanges.trans (h.client ▸ hchanges')⟩
  tame := h'.tame

theorem allowed (h : Leads own s s') (hi : s.Allowed own i) : s'.Allowed own i := by
  intro slot' hslot'
  obtain ⟨slot, hslot, hchanges⟩ := h.slots i slot' hslot'
  rw [hchanges.frame.background]
  exact hi slot hslot

/-- The calls are left alone, and no task is added that is not in the background. -/
theorem of_slots (h : s.Tame) (hclient : s'.client = s.client)
    (hsurroundings : s'.surroundings = s.surroundings) (hslots : s'.slots = s.slots)
    (hscript : ∀ reply ∈ s'.script, reply.effects.crashes = false)
    (htasks : ∀ i, i ∈ s'.executor.own ∨ i ∈ s'.executor.posted →
      ∃ slot, s.slot? i = some slot ∧ slot.background = true) : Leads own s s' := by
  have hsame : ∀ i, s'.slot? i = s.slot? i := fun i => by simp only [slot?, hslots]
  refine ⟨hclient, hsurroundings, by rw [hslots], ?_, ⟨hscript, ?_, ?_, ?_⟩⟩
  · intro i slot hslot
    exact ⟨slot, hsame i ▸ hslot, .refl⟩
  · intro i slot reply hslot
    exact h.replies i slot reply (hsame i ▸ hslot)
  · intro i slot hslot
    exact h.mappers i slot (hsame i ▸ hslot)
  · intro i hi
    rw [hsame]
    exact htasks i hi

end Leads

theorem Leads.slot {own : Nat → Prop} (h : Leads own s s') {slot : Slot ι D}
    (hs : s.slot? i = some slot) : ∃ slot', s'.slot? i = some slot' := by
  have hlt : i < s'.slots.length := h.length ▸ (List.getElem?_eq_some_iff.mp hs).1
  exact ⟨_, List.getElem?_eq_getElem hlt⟩

theorem Leads.holding {own : Nat → Prop} (h : Leads own s s') : s'.holding i = s.holding i := by
  unfold Session.holding
  cases hs : s'.slot? i with
  | some slot' =>
    obtain ⟨slot, hs, hchanges⟩ := h.slots i slot' hs
    simp [hs, hchanges.frame.holding]
  | none =>
    have hlen : s.slots.length ≤ i := h.length ▸ List.getElem?_eq_none_iff.mp hs
    simp [slot?, List.getElem?_eq_none hlen]

theorem Tame.put (h : s.Tame) {slot slot' : Slot ι D} (hi : s.slot? i = some slot)
    (hop : slot'.call.operation = slot.call.operation)
    (hreply : ∀ reply, slot'.reply = some reply → reply.effects.crashes = false)
    (hbackground : slot.background = true → slot'.background = true) : (s.put i slot').Tame := by
  refine ⟨h.script, ?_, ?_, ?_⟩
  · intro j slot₁ reply hslot₁ hr
    rw [slot?_put hi] at hslot₁
    split at hslot₁
    · obtain rfl := Option.some.inj hslot₁
      exact hreply reply hr
    · exact h.replies j slot₁ reply hslot₁ hr
  · intro j slot₁ hslot₁
    rw [slot?_put hi] at hslot₁
    split at hslot₁
    · obtain rfl := Option.some.inj hslot₁
      rw [hop]
      exact h.mappers i slot hi
    · exact h.mappers j slot₁ hslot₁
  · intro j hj
    obtain ⟨slot₁, hslot₁, hb⟩ := h.tasks j hj
    rw [slot?_put hi]
    split
    · rename_i hij
      subst hij
      obtain rfl := Option.some.inj (hi.symm.trans hslot₁)
      exact ⟨slot', rfl, hbackground hb⟩
    · exact ⟨slot₁, hslot₁, hb⟩

theorem Tame.add (h : s.Tame) (slot : Slot ι D)
    (hmapper : slot.call.operation.mapper.effects.crashes = false) (hreply : slot.reply = none) :
    (s.add slot).2.Tame := by
  refine ⟨h.script, ?_, ?_, ?_⟩
  · intro j slot' reply hj hr
    rcases slot?_add_cases hj with hj | ⟨-, rfl⟩
    · exact h.replies j slot' reply hj hr
    · simp [hreply] at hr
  · intro j slot' hj
    rcases slot?_add_cases hj with hj | ⟨-, rfl⟩
    · exact h.mappers j slot' hj
    · exact hmapper
  · intro j hj
    obtain ⟨slot', hslot', hb⟩ := h.tasks j hj
    have hlt : j < s.slots.length := (List.getElem?_eq_some_iff.mp hslot').1
    exact ⟨slot', by simpa [Session.add, slot?, List.getElem?_append_left hlt] using hslot', hb⟩

theorem Leads.put (h : s.Tame) {slot slot' : Slot ι D} (hi : s.slot? i = some slot)
    (hchanges : slot.Changes s.client (own i) slot')
    (hreply : ∀ reply, slot'.reply = some reply → reply.effects.crashes = false) :
    Leads own s (s.put i slot') := by
  obtain ⟨-, hbackground, -, hop⟩ := hchanges.frame
  refine ⟨rfl, rfl, by simp [Session.put], ?_, h.put hi hop hreply hbackground.trans⟩
  intro j slot₁ hslot₁
  rw [slot?_put hi] at hslot₁
  split at hslot₁
  · rename_i hij
    subst hij
    obtain rfl := Option.some.inj hslot₁
    exact ⟨slot, hi, hchanges⟩
  · exact ⟨slot₁, hslot₁, .refl⟩

theorem mem_wake {e : Executor} {j : Nat} (h : j ∈ (e.wake w i).own ∨ j ∈ (e.wake w i).posted) :
    j = i ∨ j ∈ e.own ∨ j ∈ e.posted := by
  unfold Executor.wake at h
  split at h
  · exact .inr h
  · cases w <;> grind [Executor.spawn]

/-- A turn adds no task, and the task that gets it was one of those that can go on. -/
theorem mem_next (e : Executor) (j : Nat) :
    (j ∈ e.next.2.own ∨ j ∈ e.next.2.posted ∨ e.next.1 = some j) →
      j ∈ e.own ∨ j ∈ e.posted := by
  obtain ⟨own, posted, turns⟩ := e
  cases own <;> cases posted <;> grind [Executor.next]

theorem leads_wake (h : s.Tame) (w : Waker) (i : Nat) : Leads own s (s.wake w i) := by
  unfold wake
  split
  · rename_i slot hslot
    split
    · split
      · rename_i hbackground
        refine .of_slots h rfl rfl rfl h.script ?_
        intro j hj
        rcases mem_wake hj with rfl | hj
        · exact ⟨slot, hslot, hbackground⟩
        · exact h.tasks j hj
      · exact .refl h
    · exact .refl h
  · exact .refl h

/-- Another task begins. -/
theorem leads_spawn (h : s.Tame) {slot : Slot ι D} (hi : s.slot? i = some slot)
    (hbackground : slot.background = true) :
    Leads own s { s with executor := s.executor.spawn i } := by
  refine .of_slots h rfl rfl rfl h.script ?_
  intro j hj
  by_cases hij : j = i
  · exact ⟨slot, hij ▸ hi, hbackground⟩
  · exact h.tasks j (by simpa [Executor.spawn, hij] using hj)

theorem leads_cancel? (h : s.Tame) {won : Bool} (hs : s.cancel? w i = some (won, s')) :
    Leads own s s' := by
  obtain ⟨slot, hslot, ⟨-, rfl⟩ | ⟨-, rfl⟩⟩ := cancel?_cases hs
  · exact .refl h
  · have hput : Leads own s (s.put i { slot with call := slot.call.cancel.2 }) :=
      .put h hslot (.single (.cancel slot)) fun reply hr => h.replies i slot reply hslot hr
    exact hput.trans (leads_wake hput.tame w i)

theorem leads_cancelAll (h : s.Tame) (w : Waker) (is : List Nat) :
    Leads own s (s.cancelAll w is) := by
  induction is generalizing s with
  | nil => exact .refl h
  | cons i rest ih =>
    unfold cancelAll
    split
    · rename_i hs
      have hcancel : Leads own s _ := leads_cancel? h hs
      exact hcancel.trans (ih hcancel.tame)
    · exact ih h

theorem leads_feed (h : s.Tame) (hi : s.Allowed own i) {e : Event} (he : e ≠ .crashed) :
    Leads own s (s.feed i e) := by
  cases hslot : s.slot? i with
  | some slot =>
    rw [feed_eq_put hslot]
    exact .put h hslot (.single (.feed slot (hi slot hslot) he))
      fun reply hr => h.replies i slot reply hslot hr
  | none =>
    rw [feed_of_none hslot]
    exact .refl h

/-- What the mapper does besides mapping is no harm. -/
theorem crashes_mapperEffects {op : Operation ι D} (h : op.mapper.effects.crashes = false)
    (outcome : Except TransportError HttpResponse) :
    (s.mapperEffects op outcome).crashes = false := by
  unfold mapperEffects
  split
  · split
    · exact h
    · rfl
  · rfl

theorem leads_deliver (h : s.Tame) (hi : s.Allowed own i) {op : Operation ι D} {reply : Reply}
    (hop : op.mapper.effects.crashes = false) (hreply : reply.effects.crashes = false) :
    Leads own s (s.deliver w i op reply) := by
  have hfirst : Leads own s _ := leads_cancelAll h w reply.effects.cancels
  have hsecond : Leads own _ _ := leads_cancelAll hfirst.tame w
    ((s.cancelAll w reply.effects.cancels).mapperEffects op reply.outcome).cancels
  have hboth := hfirst.trans hsecond
  simp only [deliver, hreply, crashes_mapperEffects hop, Bool.false_eq_true, if_false]
  exact hboth.trans (leads_feed hboth.tame (hboth.allowed hi) (by simp))

theorem leads_resume (h : s.Tame) (hi : s.Allowed own i) {slot : Slot ι D} {reply : Reply}
    (hop : slot.call.operation.mapper.effects.crashes = false)
    (hreply : reply.effects.crashes = false) : Leads own s (s.resume w i slot reply) := by
  unfold resume
  split
  · exact leads_feed h hi (by simp)
  · split
    · exact leads_deliver h hi hop hreply
    · split
      · exact .refl h
      · exact .of_slots h rfl rfl rfl h.script h.tasks

theorem crashes_take {script : Script} (h : ∀ reply ∈ script, reply.effects.crashes = false) :
    script.take.1.effects.crashes = false ∧
      ∀ reply ∈ script.take.2, reply.effects.crashes = false := by
  cases script with
  | nil => exact ⟨rfl, h⟩
  | cons reply rest =>
    exact ⟨h reply List.mem_cons_self, fun r hr => h r (List.mem_cons_of_mem _ hr)⟩

/-- The execution of a call comes as far as the transport, which takes the next reply. -/
theorem leads_send (h : s.Tame) (hi : s.Allowed own i) {slot : Slot ι D}
    (hslot : s.slot? i = some slot) :
    Leads own s
      { s.put i { slot with call := slot.call.advance s.client, reply := some s.script.take.1 } with
        script := s.script.take.2
        sent := s.sent ++ (slot.call.advance s.client).sent } := by
  obtain ⟨hreply, hrest⟩ := crashes_take h.script
  have hput : Leads own s
      (s.put i { slot with call := slot.call.advance s.client, reply := some s.script.take.1 }) :=
    .put h hslot (.single (.advance slot (hi slot hslot) _))
      fun reply hr => Option.some.inj hr ▸ hreply
  exact hput.trans (.of_slots hput.tame rfl rfl rfl hrest hput.tame.tasks)

/-- A poll of an execution is made of changes to the calls, and to the one polled only if the
executor or the caller may poll it. -/
theorem leads_drive (h : s.Tame) (hi : s.Allowed own i) : Leads own s (s.drive w i) := by
  unfold drive
  split
  · exact .refl h
  · rename_i slot hslot
    have hop := h.mappers i slot hslot
    split
    · rename_i reply _ hr
      exact leads_resume h hi hop (h.replies i slot reply hslot hr)
    · simp only
      split
      · have hsend := leads_send h hi hslot
        refine hsend.trans (leads_resume hsend.tame (hsend.allowed hi) ?_ (crashes_take h.script).1)
        rw [Call.operation_advance]
        exact hop
      · exact .put h hslot (.single (.advance slot (hi slot hslot) slot.reply))
          fun reply hr => h.replies i slot reply hslot hr
    · exact .refl h

/-- In a round, only tasks get turns. -/
theorem leads_round (h : s.Tame) (n : Nat) : Leads own s (s.round n) := by
  induction n generalizing s with
  | zero => exact .refl h
  | succ n ih =>
    have hnext : Leads own s { s with executor := s.executor.next.2 } := by
      refine .of_slots h rfl rfl rfl h.script fun j hj => h.tasks j (mem_next s.executor j ?_)
      tauto
    unfold round
    split
    · rename_i executor hx
      rw [hx] at hnext
      exact hnext
    · rename_i i executor hx
      have htask := h.tasks i (mem_next s.executor i (.inr (.inr (by rw [hx]))))
      rw [hx] at hnext
      have hallowed : Session.Allowed own { s with executor } i := by
        intro slot hslot
        obtain ⟨slot', hslot', hbackground⟩ := htask
        obtain rfl := Option.some.inj (hslot'.symm.trans hslot)
        exact .inl hbackground
      have hdrive := leads_drive (w := .task i) hnext.tame hallowed
      exact hnext.trans (hdrive.trans (ih hdrive.tame))

theorem leads_roundsUntil (h : s.Tame) (isOver : Session ι D → Bool) (n : Nat) :
    Leads own s (s.roundsUntil isOver n) := by
  induction n generalizing s with
  | zero => exact .refl h
  | succ n ih =>
    unfold roundsUntil
    split
    · exact .refl h
    · have hround : Leads own s _ := leads_round h Executor.roundLength
      exact hround.trans (ih hround.tame)

theorem leads_waitUntil (h : s.Tame) (isOver : Session ι D → Bool) :
    Leads own s (s.waitUntil isOver) :=
  leads_roundsUntil h isOver _

theorem leads_settle (h : s.Tame) : Leads own s s.settle := by
  unfold settle
  generalize settlingRounds = n
  induction n with
  | zero => exact .refl h
  | succ n ih => exact ih.trans (leads_round ih.tame _)

/-- Whoever waits for a call of its own polls it and lets the executor work, and gets what the call
comes to. -/
theorem await_spec (h : s.Tame) :
    Leads (· = i) s (s.await i).2 ∧ (s.await i).1 = (s.await i).2.ownResult? i := by
  have hdrive : Leads (· = i) s (s.drive .caller i) := leads_drive h fun _ _ => .inr rfl
  unfold Session.await
  simp only
  split
  · rename_i hres
    exact ⟨hdrive, hres.symm⟩
  · have hwait : Leads (· = i) _ _ := leads_waitUntil hdrive.tame (·.isSignaled i)
    exact ⟨hdrive.trans (hwait.trans (leads_drive hwait.tame fun _ _ => .inr rfl)), rfl⟩

theorem leads_wakeAll (h : s.Tame) (w : Waker) (is : List Nat) :
    Leads own s (is.foldl (wake · w ·) s) := by
  induction is generalizing s with
  | nil => exact .refl h
  | cons i rest ih =>
    have hwake : Leads own s _ := leads_wake h w i
    exact hwake.trans (ih hwake.tame)

theorem leads_release (h : s.Tame) (gate : String) : Leads own s (s.release gate) := by
  unfold release
  have hopen : Leads own s
      { s with
        openGates := gate :: s.openGates
        waiting := s.waiting.filter fun i =>
          !(s.slot? i).any fun slot => slot.reply.any (·.gate == some gate) } :=
    .of_slots h rfl rfl rfl h.script h.tasks
  exact hopen.trans (leads_wakeAll hopen.tame _ _)

/-- A new call is polled at once by somebody else than the session's executor. -/
theorem leads_drive_add (h : s.Tame) (slot : Slot ι D)
    (hop : slot.call.operation.mapper.effects.crashes = false) (hreply : slot.reply = none) :
    Leads (· = s.slots.length) (s.add slot).2 ((s.add slot).2.drive .outside s.slots.length) ∧
      ∃ driven, ((s.add slot).2.drive .outside s.slots.length).slot? s.slots.length = some driven ∧
        driven.channel = slot.channel := by
  have hleads : Leads (· = s.slots.length) (s.add slot).2
      ((s.add slot).2.drive .outside s.slots.length) :=
    leads_drive (h.add slot hop hreply) fun _ _ => .inr rfl
  obtain ⟨driven, hdriven⟩ := hleads.slot (slot?_add s slot)
  obtain ⟨slot', hslot', hchanges⟩ := hleads.slots _ driven hdriven
  obtain rfl := Option.some.inj ((slot?_add s slot).symm.trans hslot')
  exact ⟨hleads, driven, hdriven, hchanges.frame.channel⟩

/-- How a session runs a call that the caller waits for from the beginning: it adds the call as
`slot`, and polls it, after which it stands as `driven`. If it was handed over, the channel has got
what came of it. -/
structure Runs (s : Session ι D) (call : Call ι D) (slot driven : Slot ι D)
    (channel : Option (Channel D)) : Prop where
  start : slot.call = call
  gone : slot.holding = .gone
  mine : slot.background = false
  unsent : slot.reply = none
  leads : Leads (· = s.slots.length) (s.add slot).2 ((s.add slot).2.drive .outside s.slots.length)
  place : ((s.add slot).2.drive .outside s.slots.length).slot? s.slots.length = some driven
  block : s.block call = (s.slots.length,
    ((s.add slot).2.drive .outside s.slots.length).put s.slots.length { driven with channel })
  result : driven.call.execution ≠ .crashed →
    (s.block call).2.blockingResult? s.slots.length = driven.call.result?

theorem runs_block (h : s.Tame) {call : Call ι D}
    (hop : call.operation.mapper.effects.crashes = false) :
    ∃ slot driven channel, s.Runs call slot driven channel := by
  have hown (hs : s.block call = (s.slots.length,
      (s.add { call, holding := .gone, hasHandle := false }).2.drive .outside s.slots.length)) :
      ∃ slot driven channel, s.Runs call slot driven channel := by
    obtain ⟨hleads, driven, hdriven, hchannel⟩ :=
      leads_drive_add h { call, holding := .gone, hasHandle := false } hop rfl
    have hsame : { driven with channel := none } = driven := by
      obtain ⟨⟩ := driven
      simpa using hchannel.symm
    refine ⟨_, driven, none, rfl, rfl, rfl, rfl, hleads, hdriven, ?_, fun _ => ?_⟩
    · rw [hs, hsame, put_self hdriven]
    · simp [hs, blockingResult?, hdriven, hchannel]
  cases hs : s.surroundings with
  | none => exact hown (by simp only [Session.block, hs]; rfl)
  | multiThread => exact hown (by simp only [Session.block, hs]; rfl)
  | singleThread =>
    let slot : Slot ι D := { call, holding := .gone, hasHandle := false, channel := some .empty }
    obtain ⟨hleads, driven, hdriven, hchannel⟩ := leads_drive_add h slot hop rfl
    have hblock : s.block call =
        (s.slots.length, (s.add slot).2.runHandedOver s.slots.length) := by
      simp only [Session.block, hs]
      rfl
    rw [runHandedOver_eq_put hdriven, hchannel] at hblock
    refine ⟨slot, driven, some (Channel.empty.send driven.call), rfl, rfl, rfl, rfl, hleads,
      hdriven, hblock, fun halive => ?_⟩
    simp only [hblock, blockingResult?, slot?_put hdriven, if_true, Option.bind_eq_bind,
      Option.bind_some]
    exact Channel.receive?_send halive

end Session

end GraphClient
