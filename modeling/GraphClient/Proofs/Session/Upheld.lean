import GraphClient.Proofs.Session.OnPassage
import GraphClient.Proofs.Session.Progress

/-!
# Calls stay on their passages

A caller gives a session one command after the other, and of every command it is known what it does
to which call. Each call that is made begins somewhere, and goes on from there on its passage,
whatever the commands are; what the caller got of it is what the passage has brought.
-/

namespace GraphClient

variable {ι : Type} [Domains ι] {D : Type}

open Passage

namespace Session

variable {s s' s'' : Session ι D} {i : Nat}

/-- Where the caller has something of a new call, it gets no result at once. -/
theorem perform_newCall_of_held {op : Operation ι D}
    (h : (s.newCall op).2.holding (s.newCall op).1 ≠ .gone) :
    s.perform (.newCall op) = ([], (s.newCall op).2) := by
  simp only [perform]

/-- Where the caller waits for a new call, it gets the result as soon as there is one. -/
theorem perform_newCall_of_blocking (h : s.Tame) (hd : s.client.delivery = .blocking)
    (op : Operation ι D) (hop : op.mapper.effects.crashes = false) :
    let i := s.slots.length
    let s' := (s.block (Call.fresh s.nextId op).markAdapted).2
    s.perform (.newCall op) = ((s'.blockingResult? i).toList.map (i, ·), s') := by
  intro i s'
  have hmapper : (Call.fresh s.nextId op).markAdapted.operation.mapper.effects.crashes = false := hop
  obtain ⟨slot, driven, channel, hruns⟩ := runs_block h hmapper
  have hnew : s.newCall op = (i, s') := by
    simp only [newCall, hd, s', hruns.block, i]
  have hdriven : driven.holding = .gone := by
    have hholding := hruns.leads.holding.trans (holding_add s slot)
    simpa [holding, hruns.place, hruns.gone] using hholding
  have hgone : s'.holding i = .gone := by
    simp only [s', hruns.block, holding, slot?_put hruns.place, i, if_true, hdriven]
  simp only [perform, hnew, hgone]

/-- All calls of the session are on passages, which began as `begun` has it, and the caller has got of
each what the log has of it. -/
structure Upheld (client : Client ι Script) (surroundings : Surroundings)
    (commands : List (Command ι D)) (begun : List (Route × Call ι D))
    (log : List (Nat × CallResult D)) (s : Session ι D) : Prop where
  owner : s.client = client
  place : s.surroundings = surroundings
  tame : s.Tame
  count : begun.length = s.slots.length
  logged : ∀ entry ∈ log, entry.1 < s.slots.length
  slots : ∀ i slot, s.slot? i = some slot → ∃ route call, begun[i]? = some (route, call) ∧
    slot.OnPassage client surroundings commands i route call (resultsOf i log)

namespace Upheld

variable {client : Client ι Script} {surroundings : Surroundings}
  {commands commands' : List (Command ι D)} {begun : List (Route × Call ι D)}
  {log : List (Nat × CallResult D)}

/-- The caller gives more commands. -/
theorem mono (h : s.Upheld client surroundings commands begun log) (hsubset : commands ⊆ commands') :
    s.Upheld client surroundings commands' begun log := by
  refine ⟨h.owner, h.place, h.tame, h.count, h.logged, fun j slot hslot => ?_⟩
  obtain ⟨route, call, hbegun, hpassage⟩ := h.slots j slot hslot
  exact ⟨route, call, hbegun, hpassage.mono hsubset⟩

/-- The session works on its own. -/
theorem leads (h : s.Upheld client surroundings commands begun log)
    (hleads : Leads (fun _ => False) s s') :
    s'.Upheld client surroundings commands begun log := by
  refine ⟨hleads.client.trans h.owner, hleads.surroundings.trans h.place, hleads.tame,
    h.count.trans hleads.length.symm, ?_, ?_⟩
  · rw [hleads.length]
    exact h.logged
  · intro j slot' hslot'
    obtain ⟨slot, hslot, hchanges⟩ := hleads.slots j slot' hslot'
    obtain ⟨route, call, hbegun, hpassage⟩ := h.slots j slot hslot
    exact ⟨route, call, hbegun, hpassage.changes (h.owner ▸ hchanges)⟩

/-- The session works with the caller, who is concerned with one call, gets results of it, and is
left with something else of it. -/
theorem put (h : s.Upheld client surroundings commands begun log) (hleads : Leads (· = i) s s')
    {slot slot' : Slot ι D} (hs : s.slot? i = some slot) (hs' : s'.slot? i = some slot')
    (slot'' : Slot ι D) (more : List (CallResult D)) (hcall : slot''.call = slot'.call)
    (hreply : slot''.reply = slot'.reply)
    (hbackground : slot'.background = true → slot''.background = true)
    (hslot : ∀ {route call}, begun[i]? = some (route, call) →
      slot.OnPassage client surroundings commands i route call (resultsOf i log) →
      slot.Changes client True slot' →
      slot''.OnPassage client surroundings commands i route call (resultsOf i log ++ more)) :
    (s'.put i slot'').Upheld client surroundings commands begun (log ++ more.map (i, ·)) := by
  have hlength : (s'.put i slot'').slots.length = s.slots.length := by
    simp [Session.put, hleads.length]
  refine ⟨hleads.client.trans h.owner, hleads.surroundings.trans h.place, ?_,
    h.count.trans hlength.symm, ?_, ?_⟩
  · exact hleads.tame.put hs' (by rw [hcall])
      (fun reply hr => hleads.tame.replies i slot' reply hs' (hreply ▸ hr)) hbackground
  · intro entry hentry
    rw [hlength]
    rcases List.mem_append.mp hentry with hentry | hentry
    · exact h.logged entry hentry
    · obtain ⟨res, -, rfl⟩ := List.mem_map.mp hentry
      exact (List.getElem?_eq_some_iff.mp hs).1
  · intro j slot₁ hslot₁
    rw [slot?_put hs'] at hslot₁
    rw [resultsOf_append]
    split at hslot₁
    · rename_i hij
      subst hij
      obtain rfl := Option.some.inj hslot₁
      obtain ⟨slot₂, hs₂, hchanges⟩ := hleads.slots i slot' hs'
      obtain rfl := Option.some.inj (hs.symm.trans hs₂)
      obtain ⟨route, call, hbegun, hpassage⟩ := h.slots i slot hs
      rw [resultsOf_map_self]
      exact ⟨route, call, hbegun,
        hslot hbegun hpassage ((h.owner ▸ hchanges).mono fun _ => trivial)⟩
    · rename_i hij
      obtain ⟨slot₂, hs₂, hchanges⟩ := hleads.slots j slot₁ hslot₁
      have hstill : slot₂.Changes client False slot₁ :=
        (h.owner ▸ hchanges).mono fun hji : j = i => hij hji.symm
      obtain ⟨route, call, hbegun, hpassage⟩ := h.slots j slot₂ hs₂
      rw [resultsOf_map_of_ne hij, List.append_nil]
      exact ⟨route, call, hbegun, hpassage.changes hstill⟩

theorem resultsOf_new (h : s.Upheld client surroundings commands begun log) :
    resultsOf s.slots.length log = [] := by
  refine List.filterMap_eq_nil_iff.mpr fun entry hentry => ?_
  have hlt := h.logged entry hentry
  simp [Nat.ne_of_lt hlt]

/-- A call is added. -/
theorem add (h : s.Upheld client surroundings commands begun log) (slot : Slot ι D)
    (hmapper : slot.call.operation.mapper.effects.crashes = false) (hreply : slot.reply = none)
    {route : Route} {call : Call ι D}
    (hslot : slot.OnPassage client surroundings commands s.slots.length route call []) :
    (s.add slot).2.Upheld client surroundings commands (begun ++ [(route, call)]) log := by
  refine ⟨h.owner, h.place, h.tame.add slot hmapper hreply, by simp [Session.add, h.count], ?_, ?_⟩
  · intro entry hentry
    exact Nat.lt_of_lt_of_le (h.logged entry hentry) (by simp [Session.add])
  · intro j slot' hj
    rcases slot?_add_cases hj with hj | ⟨rfl, rfl⟩
    · obtain ⟨route', call', hbegun, hpassage⟩ := h.slots j slot' hj
      have hlt : j < begun.length := (List.getElem?_eq_some_iff.mp hbegun).1
      exact ⟨route', call', by rw [List.getElem?_append_left hlt, hbegun], hpassage⟩
    · rw [h.resultsOf_new]
      exact ⟨route, call, by rw [← h.count, List.getElem?_concat_length], hslot⟩

/-- The caller drops what it has of a call. -/
theorem drop (h : s.Upheld client surroundings commands begun log)
    (hleft : ∃ c ∈ commands, c.Leaves i) :
    (s.hold i .gone).Upheld client surroundings commands begun log := by
  cases hs : s.slot? i with
  | none =>
    rw [hold_of_none hs]
    exact h
  | some slot =>
    rw [hold_eq_put hs]
    have hput := h.put (.refl h.tame) hs hs { slot with holding := .gone } [] rfl rfl id
      fun _ hpassage _ => by simpa using hpassage.drop hleft
    simpa using hput

/-- The caller asks for a call that it has in its own hands. -/
theorem ask (h : s.Upheld client surroundings commands begun log)
    (hasked : ∃ c ∈ commands, c.Drives i) (hleads : Leads (· = i) s s')
    {holding holding' : Holding} (hs : s.holding i = holding)
    (hown : holding = .raw ∨ holding = .future ∨ holding = .stream false)
    (hfits : holding' = .gone ∨ (holding' = .stream true ∧ holding = .stream false) ∨
      (holding' = holding ∧ holding ≠ .raw ∧ s'.ownResult? i = none)) :
    (s'.hold i holding').Upheld client surroundings commands begun
      (log ++ (s'.ownResult? i).toList.map (i, ·)) := by
  obtain ⟨slot, hslot, rfl⟩ :=
    slot_of_holding hs (by rcases hown with hh | hh | hh <;> simp [hh])
  obtain ⟨slot', hs'⟩ := hleads.slot hslot
  have hres : s'.ownResult? i = slot'.call.result? := by simp [ownResult?, hs']
  rw [hold_eq_put hs', hres]
  rw [hres] at hfits
  refine h.put hleads hslot hs' { slot' with holding := holding' } _ rfl rfl id ?_
  intro route call _ hpassage hchanges
  obtain ⟨hnone, hgiven⟩ := hpassage.ask hasked hown hchanges hfits
  rw [hnone, List.nil_append]
  exact hgiven

/-- The caller asks for a call, and there is no result yet. -/
theorem ask_pending (h : s.Upheld client surroundings commands begun log)
    (hasked : ∃ c ∈ commands, c.Drives i) (hleads : Leads (· = i) s s')
    (hs : s.holding i = .future ∨ s.holding i = .stream false) (hres : s'.ownResult? i = none) :
    s'.Upheld client surroundings commands begun log := by
  have hraw : s.holding i ≠ .raw := by rcases hs with hs | hs <;> simp [hs]
  have hask := h.ask hasked hleads rfl (.inr hs) (.inr (.inr ⟨rfl, hraw, hres⟩))
  rw [← hleads.holding, hold_self] at hask
  simpa [hres] using hask

/-- The caller looks for the result of a call in the background. -/
theorem pollTask (h : s.Upheld client surroundings commands begun log)
    (hback : s.holding i = .spawned ∨ s.holding i = .enqueued) :
    (s.pollTask i).2.Upheld client surroundings commands begun
      (log ++ (s.pollTask i).1.toList.map (i, ·)) := by
  obtain ⟨slot, hs, hh⟩ : ∃ slot, s.slot? i = some slot ∧ slot.holding = s.holding i :=
    slot_of_holding rfl (by rcases hback with hh | hh <;> simp [hh])
  obtain ⟨_, _, -, hpassage⟩ := h.slots i slot hs
  have hres : (s.slot? i).bind Slot.taskResult? = slot.call.result?.map .result := by
    rw [hs]
    exact taskResult?_eq hpassage.alive
  unfold Session.pollTask
  rw [hres]
  cases hr : slot.call.result? with
  | none => simpa [Delivered.toList] using h
  | some res =>
    simp only [Option.map_some, hold_eq_put hs]
    refine h.put (.refl h.tame) hs hs { slot with holding := .gone } [res] rfl rfl id ?_
    intro route call _ hpassage _
    obtain ⟨hnone, hcollected⟩ := hpassage.collect (hh ▸ hback) hr
    rw [hnone]
    exact hcollected

theorem poll (h : s.Upheld client surroundings commands begun log)
    (hasked : ∃ c ∈ commands, c.Drives i) :
    (s.poll i).2.Upheld client surroundings commands begun
      (log ++ (s.poll i).1.toList.map (i, ·)) := by
  have hdrive : Leads (· = i) s (s.drive .caller i) := leads_drive h.tame fun _ _ => .inr rfl
  unfold Session.poll
  split
  · simpa [Delivered.toList] using h
  · simpa [Delivered.toList] using h
  · simpa [Delivered.toList] using h
  · rename_i hh
    exact h.pollTask (.inl hh)
  · rename_i hh
    exact h.pollTask (.inr hh)
  · rename_i hh
    cases hres : (s.drive .caller i).ownResult? i with
    | none => simpa [hres, Delivered.toList] using h.ask_pending hasked hdrive (.inl hh) hres
    | some res =>
      have hask := h.ask hasked hdrive hh (.inr (.inl rfl)) (.inl rfl)
      simpa [hres, Delivered.toList] using hask
  · rename_i hh
    cases hres : (s.drive .caller i).ownResult? i with
    | none => simpa [hres, Delivered.toList] using h.ask_pending hasked hdrive (.inr hh) hres
    | some res =>
      have hask := h.ask hasked hdrive hh (.inr (.inr rfl)) (.inr (.inl ⟨rfl, rfl⟩))
      simpa [hres, Delivered.toList] using hask

/-- The caller waits for a call that it has in its own hands, and keeps nothing of it. -/
theorem await (h : s.Upheld client surroundings commands begun log)
    (hasked : ∃ c ∈ commands, c.Drives i)
    (hown : s.holding i = .raw ∨ s.holding i = .future ∨ s.holding i = .stream false) :
    ((s.await i).2.hold i .gone).Upheld client surroundings commands begun
      (log ++ (s.await i).1.toList.map (i, ·)) := by
  obtain ⟨hleads, hres⟩ := await_spec (i := i) h.tame
  rw [hres]
  exact h.ask hasked hleads rfl hown (.inl rfl)

theorem execute (h : s.Upheld client surroundings commands begun log)
    (hasked : ∃ c ∈ commands, c.Drives i) (hleft : ∃ c ∈ commands, c.Leaves i) :
    (s.execute i).2.Upheld client surroundings commands begun
      (log ++ (s.execute i).1.toList.map (i, ·)) := by
  have hwait : Leads (fun _ => False) s _ := leads_waitUntil h.tame (·.isOver i)
  unfold Session.execute
  split
  · simpa [Delivered.toList] using h
  · simpa [Delivered.toList] using h.drop hleft
  · rename_i hh
    have hawait := h.await hasked (.inl hh)
    cases hr : (s.await i).1 <;> simpa [hr, Delivered.toList] using hawait
  · rename_i hh
    have hawait := h.await hasked (.inr (.inl hh))
    cases hr : (s.await i).1 <;> simpa [hr, Delivered.toList] using hawait
  · rename_i hh
    have hawait := h.await hasked (.inr (.inr hh))
    cases hr : (s.await i).1 <;> simpa [hr, Delivered.toList] using hawait
  · rename_i hh
    exact ((h.leads hwait).pollTask (hwait.holding ▸ .inl hh)).drop hleft
  · rename_i hh
    exact ((h.leads hwait).pollTask (hwait.holding ▸ .inr hh)).drop hleft

/-- A raw call is made, by the caller or as a copy of another one. -/
theorem rawCall (h : s.Upheld client surroundings commands begun log) (op : Operation ι D)
    (hop : op.mapper.effects.crashes = false) :
    (s.rawCall op).2.Upheld client surroundings commands
      (begun ++ [(.raw, .fresh s.nextId op)]) log := by
  let slot : Slot ι D := { call := .fresh s.nextId op, holding := .raw, hasHandle := true }
  have hbegins : Begins client.delivery surroundings .raw .created slot.call := .raw s.nextId op
  exact h.add slot hop rfl (.made hbegins (by simp [slot]) (.inl ⟨rfl, rfl⟩))

theorem begin? (h : s.Upheld client surroundings commands begun log) (hs : s.begin? i = some s') :
    s'.Upheld client surroundings commands begun log := by
  obtain ⟨slot, hslot, hraw, rfl⟩ := begin?_cases hs
  rw [hold_eq_put hslot]
  have hput := h.put (.refl h.tame) hslot hslot { slot with holding := .future } [] rfl rfl id
    fun _ hpassage _ => by simpa using hpassage.begin hraw
  simpa using hput

theorem enqueue? (h : s.Upheld client surroundings commands begun log)
    (hqueued : .enqueue i ∈ commands) (hs : s.enqueue? i = some s') :
    s'.Upheld client surroundings commands begun log := by
  obtain ⟨slot, hslot, hraw, rfl⟩ := enqueue?_cases hs
  have hput := h.put (.refl h.tame) hslot hslot
    { slot with holding := .enqueued, background := true } [] rfl rfl (fun _ => rfl)
    fun _ hpassage _ => by simpa using hpassage.enqueue hqueued hraw
  simp only [List.map_nil, List.append_nil] at hput
  have hnow := slot?_put hslot { slot with holding := .enqueued, background := true } i
  rw [if_pos rfl] at hnow
  exact hput.leads (leads_spawn hput.tame hnow rfl)

/-- The thread of the caller waits for the result of a new call. -/
theorem block (h : s.Upheld client surroundings commands begun log) {phase : Phase}
    {call : Call ι D} {route : Route} (hop : call.operation.mapper.effects.crashes = false)
    (hbegins : Begins client.delivery surroundings route phase call)
    (hroute : route = .blocked ∨ route = .handedOver) :
    let i := s.slots.length
    let s' := (s.block call).2
    s'.Upheld client surroundings commands (begun ++ [(route, call)])
      (log ++ (s'.blockingResult? i).toList.map (i, ·)) := by
  intro i s'
  obtain ⟨slot, driven, channel, hruns⟩ := runs_block h.tame hop
  obtain ⟨rfl, hgone, hmine, hunsent, hleads, hplace, hblock, hresult⟩ := hruns
  have hadd := h.add slot hop hunsent (.made hbegins (by simp [hmine, hgone]) (by simp [hgone]))
  have hput := hadd.put hleads (slot?_add s slot) hplace { driven with channel }
    driven.call.result?.toList rfl rfl id fun hbegun _ hchanges => by
      rw [← h.count, List.getElem?_concat_length] at hbegun
      obtain ⟨rfl, rfl⟩ := Prod.mk.inj (Option.some.inj hbegun)
      rw [h.resultsOf_new]
      exact .block hbegins hroute hgone hmine hchanges channel
  have hslot : s'.slot? i = some { driven with channel } := by
    simp only [s', hblock, slot?_put hplace, i, if_true]
  have hupheld : s'.Upheld client surroundings commands (begun ++ [(route, slot.call)])
      (log ++ driven.call.result?.toList.map (i, ·)) := by
    simp only [s', hblock]
    exact hput
  obtain ⟨_, _, -, hpassage⟩ := hupheld.slots i _ hslot
  have halive : driven.call.execution ≠ .crashed := hpassage.alive
  rw [hresult halive]
  exact hupheld

/-- The caller gets a new call in some form, and does with it what it likes. -/
theorem newCall_add (h : s.Upheld client surroundings commands begun log) {op : Operation ι D}
    (hop : op.mapper.effects.crashes = false) {slot : Slot ι D} (hnew : s.newCall op = s.add slot)
    (hcall : slot.call = (Call.fresh s.nextId op).markAdapted) (hreply : slot.reply = none)
    (hmine : slot.background = false)
    (hfits : (slot.holding = .raw ∧ client.delivery = .raw) ∨
      (slot.holding = .future ∧ client.delivery = .future) ∨
      (slot.holding = .stream false ∧ client.delivery = .stream)) :
    (s.perform (.newCall op)).2.Upheld client surroundings commands
      (begun ++ [(client.delivery.route surroundings, slot.call)])
      (log ++ (s.perform (.newCall op)).1) := by
  have hne : (s.newCall op).2.holding (s.newCall op).1 ≠ .gone := by
    rw [hnew]
    refine ne_of_eq_of_ne (holding_add s slot) ?_
    rcases hfits with ⟨hh, -⟩ | ⟨hh, -⟩ | ⟨hh, -⟩ <;> simp [hh]
  rw [perform_newCall_of_held hne, hnew, List.append_nil]
  have hbegins : Begins client.delivery surroundings (client.delivery.route surroundings) .adapted
      slot.call := hcall ▸ .adapted s.nextId op
  refine h.add slot (hcall ▸ hop) hreply (.made hbegins ?_ ?_)
  · rcases hfits with ⟨hh, -⟩ | ⟨hh, -⟩ | ⟨hh, -⟩ <;> simp [hmine, hh]
  · rcases hfits with ⟨hh, hd⟩ | ⟨hh, hd⟩ | ⟨hh, hd⟩ <;> simp [hh, hd, Delivery.route]

theorem newCall (h : s.Upheld client surroundings commands begun log) (op : Operation ι D)
    (hop : op.mapper.effects.crashes = false) :
    (s.perform (.newCall op)).2.Upheld client surroundings commands
      (begun ++ [(client.delivery.route surroundings, (Call.fresh s.nextId op).markAdapted)])
      (log ++ (s.perform (.newCall op)).1) := by
  let call := (Call.fresh s.nextId op).markAdapted
  have hbegins : Begins client.delivery surroundings (client.delivery.route surroundings) .adapted
      call := .adapted s.nextId op
  cases hd : client.delivery with
  | raw =>
    have hnew : s.newCall op = s.add { call, holding := .raw, hasHandle := true } := by
      simp only [Session.newCall, h.owner, hd, call]
    exact hd ▸ h.newCall_add hop hnew rfl rfl rfl (.inl ⟨rfl, hd⟩)
  | future =>
    have hnew : s.newCall op = s.add { call, holding := .future, hasHandle := false } := by
      simp only [Session.newCall, h.owner, hd, call]
    exact hd ▸ h.newCall_add hop hnew rfl rfl rfl (.inr (.inl ⟨rfl, hd⟩))
  | stream =>
    have hnew : s.newCall op = s.add { call, holding := .stream false, hasHandle := false } := by
      simp only [Session.newCall, h.owner, hd, call]
    exact hd ▸ h.newCall_add hop hnew rfl rfl rfl (.inr (.inr ⟨rfl, hd⟩))
  | spawn =>
    let slot : Slot ι D := { call, holding := .spawned, hasHandle := true, background := true }
    have hnew : s.newCall op = (s.slots.length,
        { (s.add slot).2 with executor := s.executor.spawn s.slots.length }) := by
      simp only [Session.newCall, h.owner, hd]
      rfl
    have hadd := h.add slot hop rfl
      (.made hbegins (by simp [slot]) (by simp [hd, Delivery.route, slot]))
    have hspawn := hadd.leads (leads_spawn hadd.tame (slot?_add s slot) rfl)
    have hne : (s.newCall op).2.holding (s.newCall op).1 ≠ .gone := by
      rw [hnew]
      exact ne_of_eq_of_ne (holding_add s slot) (by simp [slot])
    rw [perform_newCall_of_held hne, hnew, List.append_nil]
    exact hd ▸ hspawn
  | blocking =>
    have hroute : client.delivery.route surroundings = .blocked ∨
        client.delivery.route surroundings = .handedOver := by
      cases surroundings <;> simp [hd, Delivery.route]
    rw [perform_newCall_of_blocking h.tame (by rw [h.owner, hd]) op hop]
    exact hd ▸ h.block hop hbegins hroute

/-- Whatever the caller does, all calls stay on their passages, and the caller gets of each what is
brought on its passage. A new call begins adapted. -/
theorem perform (h : s.Upheld client surroundings commands begun log) (c : Command ι D)
    (hop : ∀ op, c.operation? = some op → op.mapper.effects.crashes = false) :
    ∃ more, (s.perform c).2.Upheld client surroundings (commands ++ [c]) (begun ++ more)
        (log ++ (s.perform c).1) ∧
      ∀ op, c = .newCall op → more =
        [(client.delivery.route surroundings, (Call.fresh s.nextId op).markAdapted)] := by
  have hsame := h.mono (List.subset_append_left commands [c])
  have hc : c ∈ commands ++ [c] := List.mem_concat_self
  cases c with
  | rawCall op =>
    refine ⟨[(.raw, .fresh s.nextId op)], ?_, by simp⟩
    simpa [Session.perform] using hsame.rawCall op (hop op rfl)
  | newCall op =>
    refine ⟨_, hsame.newCall op (hop op rfl), fun op' hop' => ?_⟩
    obtain rfl := Command.newCall.inj hop'
    rfl
  | duplicate i =>
    cases hs : s.duplicate? i with
    | none => exact ⟨[], by simpa [Session.perform, hs] using hsame, by simp⟩
    | some made =>
      obtain ⟨slot, hslot, rfl⟩ := duplicate?_cases hs
      have hraw := hsame.rawCall slot.call.operation (h.tame.mappers i slot hslot)
      exact ⟨_, by simpa [Session.perform, hs] using hraw, by simp⟩
  | begin i =>
    refine ⟨[], ?_, by simp⟩
    cases hs : s.begin? i with
    | none => simpa [Session.perform, hs] using hsame
    | some s' => simpa [Session.perform, hs] using hsame.begin? hs
  | enqueue i =>
    refine ⟨[], ?_, by simp⟩
    cases hs : s.enqueue? i with
    | none => simpa [Session.perform, hs] using hsame
    | some s' => simpa [Session.perform, hs] using hsame.enqueue? hc hs
  | drop i =>
    refine ⟨[], ?_, by simp⟩
    simpa [Session.perform, Session.drop] using hsame.drop ⟨_, hc, rfl⟩
  | cancel i =>
    refine ⟨[], ?_, by simp⟩
    cases hs : s.cancel? .outside i with
    | none => simpa [Session.perform, hs] using hsame
    | some won => simpa [Session.perform, hs] using hsame.leads (leads_cancel? h.tame hs)
  | poll i =>
    refine ⟨[], ?_, by simp⟩
    simpa [Session.perform] using hsame.poll ⟨_, hc, rfl⟩
  | execute i =>
    refine ⟨[], ?_, by simp⟩
    simpa [Session.perform] using hsame.execute ⟨_, hc, rfl⟩ ⟨_, hc, rfl⟩
  | settle =>
    refine ⟨[], ?_, by simp⟩
    simpa [Session.perform] using hsame.leads (leads_settle h.tame)
  | release gate =>
    refine ⟨[], ?_, by simp⟩
    simpa [Session.perform] using hsame.leads (leads_release h.tame gate)

theorem performAll (h : s.Upheld client surroundings commands begun log)
    {more : List (Command ι D)}
    (hop : ∀ c ∈ more, ∀ op, c.operation? = some op → op.mapper.effects.crashes = false) :
    ∃ later, (s.performAll more).2.Upheld client surroundings (commands ++ more) (begun ++ later)
      (log ++ (s.performAll more).1) := by
  induction more generalizing s commands begun log with
  | nil => exact ⟨[], by simpa [Session.performAll] using h⟩
  | cons c rest ih =>
    obtain ⟨now, hfirst, -⟩ := h.perform c (hop c List.mem_cons_self)
    obtain ⟨later, hrest⟩ := ih hfirst fun c hc => hop c (List.mem_cons_of_mem _ hc)
    exact ⟨now ++ later, by simpa [Session.performAll] using hrest⟩

/-- A session in which nothing has happened. -/
theorem start (hscript : ∀ reply ∈ client.transport, reply.effects.crashes = false) :
    (Session.start client surroundings : Session ι D).Upheld client surroundings [] [] [] := by
  refine ⟨rfl, rfl, ⟨hscript, ?_, ?_, ?_⟩, rfl, ?_, ?_⟩ <;>
    simp [Session.start, slot?]

/-- A result is with the caller, or the caller has only to come for it, or may have left. -/
theorem delivered (h : s.Upheld client surroundings commands begun log) {slot : Slot ι D}
    (hs : s.slot? i = some slot) {res : CallResult D} (hres : slot.call.result? = some res) :
    resultsOf i log = [res] ∨ (s.poll i).1 = .result res ∨ ∃ c ∈ commands, c.Leaves i := by
  obtain ⟨_, _, -, hpassage⟩ := h.slots i slot hs
  have htask : (s.slot? i).bind Slot.taskResult? = some (.result res) := by
    rw [hs]
    exact (taskResult?_eq hpassage.alive).trans (by rw [hres]; rfl)
  have hholding : s.holding i = slot.holding := by simp [holding, hs]
  rcases hpassage.delivered hres with hgiven | hh | hh | hleft
  · exact .inl hgiven
  · exact .inr (.inl (by simp [Session.poll, Session.pollTask, hholding, hh, htask]))
  · exact .inr (.inl (by simp [Session.poll, Session.pollTask, hholding, hh, htask]))
  · exact .inr (.inr hleft)

/-- The call that a command makes begins adapted to the route of the client, and goes on from there
whatever the caller does next. -/
theorem adapted (surroundings : Surroundings)
    (hscript : ∀ reply ∈ client.transport, reply.effects.crashes = false)
    {before after : List (Command ι D)} {op : Operation ι D}
    (hop : ∀ c ∈ before ++ .newCall op :: after, ∀ op, c.operation? = some op →
      op.mapper.effects.crashes = false) :
    let i := (Session.performAll (.start client surroundings) before).2.slots.length
    let followed := Session.performAll (.start client surroundings) (before ++ .newCall op :: after)
    ∃ slot, followed.2.slot? i = some slot ∧
      slot.OnPassage client surroundings (before ++ .newCall op :: after) i
        (client.delivery.route surroundings) (Call.fresh (i + 1) op).markAdapted
        (resultsOf i followed.1) := by
  intro i followed
  have hstart : (Session.start client surroundings : Session ι D).Upheld client surroundings
      [] [] [] := .start hscript
  have hmade : Command.newCall op ∈ before ++ .newCall op :: after := by simp
  obtain ⟨begun, hbefore⟩ := hstart.performAll fun c hc => hop c (List.mem_append_left _ hc)
  obtain ⟨now, hnow, hnew⟩ := hbefore.perform (.newCall op) (hop _ hmade)
  have hlater : ∀ c ∈ after, ∀ op, c.operation? = some op → op.mapper.effects.crashes = false :=
    fun c hc => hop c (by simp [hc])
  obtain ⟨later, hafter⟩ := hnow.performAll hlater
  have hi : begun.length = i := hbefore.count
  have hnext : (Session.performAll (.start client surroundings) before).2.nextId = i + 1 := rfl
  rw [hnew op rfl, hnext] at hafter
  have hfollowed : followed.2.Upheld client surroundings (before ++ .newCall op :: after)
      (begun ++ [(client.delivery.route surroundings, (Call.fresh (i + 1) op).markAdapted)] ++ later)
      followed.1 := by
    simpa [followed, performAll_append, Session.performAll] using hafter
  have hlt : i < followed.2.slots.length := by
    simp only [← hfollowed.count, ← hi, List.length_append, List.length_singleton]
    omega
  obtain ⟨route, call, hbegun, hpassage⟩ :=
    hfollowed.slots i _ (List.getElem?_eq_getElem hlt)
  have hat : ∀ b, (begun ++ [b] ++ later)[i]? = some b := fun b => by simp [← hi]
  rw [hat] at hbegun
  obtain ⟨rfl, rfl⟩ := Prod.mk.inj (Option.some.inj hbegun)
  exact ⟨_, List.getElem?_eq_getElem hlt, hpassage⟩

end Upheld

end Session

end GraphClient
