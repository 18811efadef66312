import GraphClient.Client.Minimal
import GraphClient.Proofs.Session.Upheld

/-!
# All deliveries bring the same result

Every route runs the one execution of its call and brings the result once, and every call of a
session is on such a route. Until the caller asks for it, an adapted call stays as it is.
-/

namespace GraphClient

variable {ι : Type} [Domains ι] {D : Type}

open Passage

structure Slot.Waits (handed : List (CallResult D)) (slot : Slot ι D) : Prop where
  phase : slot.call.phase = .adapted ∨ slot.call.phase = .canceled
  idle : slot.call.execution = .idle
  unsent : slot.call.sent = []
  handed : handed = []

/-- Where nothing happens before the caller asks for it, an adapted call waits for that. -/
theorem Slot.OnPassage.waits {client : Client ι Script} {surroundings : Surroundings}
    {commands : List (Command ι D)} {i id : Nat} {op : Operation ι D}
    {handed : List (CallResult D)} {slot : Slot ι D}
    (h : slot.OnPassage client surroundings commands i (client.delivery.route surroundings)
      (Call.fresh id op).markAdapted handed)
    (hlazy : (client.delivery.route surroundings).isLazy = true)
    (hnobody : ∀ c ∈ commands, ¬c.Drives i ∧ c ≠ .enqueue i) : slot.Waits handed := by
  obtain ⟨-, ⟨moves, p, hrun, hshows, hidle, hqueued⟩, -⟩ := h
  have hroute : p.route ≠ .enqueued := fun hr => (hnobody _ (hqueued hr)).2 rfl
  have huntouched : p.driver = .untouched := by
    refine (hidle ((lazy_of_run hrun (.inl hlazy)).resolve_right hroute)).resolve_right ?_
    rintro ⟨c, hc, hdrives⟩
    exact (hnobody c hc).1 hdrives
  have hbegins : Begins client.delivery surroundings (client.delivery.route surroundings) .adapted
      (Call.fresh id op).markAdapted := .adapted id op
  obtain ⟨hgiven, hsent, hexecution, hphase⟩ := (faithful client hbegins).waits hrun huntouched
  rw [hshows.call] at hsent hexecution hphase
  refine ⟨hphase, hexecution, hsent, ?_⟩
  rcases hshows.handed with hh | ⟨-, hh⟩
  · exact hh.trans hgiven
  · exact hh

namespace Session

variable {s : Session ι D} {client : Client ι Script} {surroundings : Surroundings}
  {commands : List (Command ι D)}

structure Delivers (client : Client ι Script) (surroundings : Surroundings)
    (commands : List (Command ι D)) (log : List (Nat × CallResult D)) (s : Session ι D) : Prop where
  -- every call is on a passage, and the caller was given what the passage has brought
  passage : ∀ i slot, s.slot? i = some slot → ∃ route call,
    slot.OnPassage client surroundings commands i route call (resultsOf i log)
  -- a new call is adapted to the route of the client, and goes on from there
  adapted : ∀ before op after, commands = before ++ .newCall op :: after →
    let i := (performAll (.start client surroundings) before).2.slots.length
    ∃ slot, s.slot? i = some slot ∧ slot.OnPassage client surroundings commands i
      (client.delivery.route surroundings) (Call.fresh (i + 1) op).markAdapted (resultsOf i log)
  -- as a raw call, a future or a stream it waits until the caller asks for it
  waits : ∀ before op after, commands = before ++ .newCall op :: after →
    (client.delivery.route surroundings).isLazy = true →
    let i := (performAll (.start client surroundings) before).2.slots.length
    (∀ c ∈ commands, ¬c.Drives i ∧ c ≠ .enqueue i) →
      ∃ slot, s.slot? i = some slot ∧ slot.Waits (resultsOf i log)
  -- no result is lost: the caller has it, or has only to come for it, or has left the call
  kept : ∀ i slot res, s.slot? i = some slot → slot.call.result? = some res →
    resultsOf i log = [res] ∨ (s.poll i).1 = .result res ∨ ∃ c ∈ commands, c.Leaves i
  -- whoever waits for a call gets its result, unless the transport is behind a gate
  brings : ∀ i, s.Awaitable i →
    (∃ res, (s.perform (.execute i)).1 = [(i, res)]) ∨
      ((s.perform (.execute i)).1 = [] ∧ (s.perform (.execute i)).2.IsAtGate i)
  -- so does whoever makes a call that is waited for from the beginning
  blocks : ∀ op : Operation ι D, op.mapper.effects.crashes = false →
    client.delivery = .blocking →
    (∃ res, (s.perform (.newCall op)).1 = [(s.slots.length, res)]) ∨
      ((s.perform (.newCall op)).1 = [] ∧
        (s.perform (.newCall op)).2.IsAtGate s.slots.length)

theorem Upheld.brings {begun : List (Route × Call ι D)} {log : List (Nat × CallResult D)}
    (h : s.Upheld client surroundings commands begun log) (hattends : s.Attends fun _ => False)
    {i : Nat} (hawaitable : s.Awaitable i) :
    (∃ res, (s.perform (.execute i)).1 = [(i, res)]) ∨
      ((s.perform (.execute i)).1 = [] ∧ (s.perform (.execute i)).2.IsAtGate i) := by
  have hback : ∀ slot, s.slot? i = some slot →
      slot.holding = .spawned ∨ slot.holding = .enqueued → slot.background = true := by
    intro slot hslot
    obtain ⟨_, _, -, hpassage⟩ := h.slots i slot hslot
    exact hpassage.task
  rcases execute_brings hattends h.tame hawaitable hback with ⟨res, hres⟩ | ⟨hnone, hgate⟩
  · exact .inl ⟨res, by simp [Session.perform, hres]⟩
  · exact .inr ⟨by simp [Session.perform, hnone], hgate⟩

theorem Upheld.blocks {begun : List (Route × Call ι D)} {log : List (Nat × CallResult D)}
    (h : s.Upheld client surroundings commands begun log) (hattends : s.Attends fun _ => False)
    {op : Operation ι D} (hop : op.mapper.effects.crashes = false)
    (hd : client.delivery = .blocking) :
    (∃ res, (s.perform (.newCall op)).1 = [(s.slots.length, res)]) ∨
      ((s.perform (.newCall op)).1 = [] ∧
        (s.perform (.newCall op)).2.IsAtGate s.slots.length) := by
  have hmapper : (Call.fresh s.nextId op).markAdapted.operation.mapper.effects.crashes = false :=
    hop
  rw [perform_newCall_of_blocking h.tame (by rw [h.owner, hd]) op hop]
  rcases block_brings hattends h.tame hmapper rfl with ⟨res, hres⟩ | ⟨hnone, hgate⟩
  · exact .inl ⟨res, by simp [hres]⟩
  · exact .inr ⟨by simp [hnone], hgate⟩

end Session

end GraphClient
