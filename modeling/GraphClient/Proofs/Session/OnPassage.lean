import GraphClient.Proofs.Session.Changes
import GraphClient.Proofs.Session.Passage
import GraphClient.Session.Command

/-!
# Calls of a session on their passages

What a session does to a call, and what a caller does with what it has of the call, are moves of the
call's passage. Whatever is done to it, a call therefore stays on the passage on which it began, and
what the caller was given of it is what the passage has brought.
-/

namespace GraphClient

variable {ι : Type} [Domains ι] {D : Type}

open Passage

/-- Changes that a session makes to a call are moves of its passage. A call that neither the
executor nor the caller may run is not polled by them. -/
theorem Slot.Changes.reaches {client : Client ι Script} {own : Prop} {slot slot' : Slot ι D}
    (h : slot.Changes client own slot') {call : Call ι D} {p : Passage ι D} (hs : p.Stands call)
    (hp : p.driver ≠ .polling) (hcall : p.race.call = slot.call)
    (hroute : slot.background = true ∨ own → p.route ≠ .raw) :
    ∃ p', p.Reaches client p' ∧ p'.race.call = slot'.call ∧
      (slot.background = false → ¬own → p'.driver = p.driver ∧ p'.given = p.given) := by
  induction h with
  | refl => exact ⟨p, .refl hp, hcall, fun _ _ => ⟨rfl, rfl⟩⟩
  | @tail middle last hchanges hchange ih =>
    obtain ⟨q, hreaches, hq, hstill⟩ := ih
    have hqs := hreaches.stands hs
    have hframe := Slot.Changes.frame hchanges
    have halive : middle.call.execution ≠ .crashed := hq ▸ hqs.alive
    have hpolled : middle.background = true ∨ own → ∀ {es : List Event} {c : Call ι D},
        (∀ e ∈ es, e ≠ .crashed) → Call.Runs client middle.call es c → Call.Rests c.execution →
        ∃ p', p.Reaches client p' ∧ p'.race.call = c ∧
          (slot.background = false → ¬own → p'.driver = p.driver ∧ p'.given = p.given) := by
      intro allowed es c hes hruns hrests
      rw [hframe.background] at allowed
      obtain ⟨q', hreaches', hq'⟩ := reaches_poll hqs (hreaches.route ▸ hroute allowed)
        hreaches.place (hq ▸ hruns) hes hrests
      refine ⟨q', hreaches.trans hreaches', hq', fun hb ho => ?_⟩
      rcases allowed with ha | ha
      · simp [hb] at ha
      · exact absurd ha ho
    cases hchange with
    | cancel =>
      obtain ⟨q', hreaches', hq', hdriver, hgiven⟩ := reaches_cancel client hreaches.place
      refine ⟨q', hreaches.trans hreaches', by rw [hq', hq], fun hb ho => ?_⟩
      obtain ⟨hd, hg⟩ := hstill hb ho
      exact ⟨hdriver.trans hd, hgiven.trans hg⟩
    | advance allowed reply =>
      obtain ⟨es, hes, hruns, hrests⟩ := Call.runs_advance client halive
      exact hpolled allowed (fun e he => by simp [hes e he]) hruns hrests
    | feed allowed alive =>
      obtain ⟨es, hes, hruns, hrests⟩ := Call.runs_meet_advance client alive halive
      exact hpolled allowed hes hruns hrests

/-- What the caller has of a call fits the passage of the call, and so do the results that it was
given. -/
structure Passage.Shows (p : Passage ι D) (slot : Slot ι D) (handed : List (CallResult D)) :
    Prop where
  call : p.race.call = slot.call
  place : p.driver ≠ .polling
  background : slot.background = true → p.route = .spawned ∨ p.route = .enqueued
  task : slot.holding = .spawned ∨ slot.holding = .enqueued → slot.background = true
  raw : slot.holding = .raw → p.route = .raw
  future : slot.holding = .future → p.route = .future ∧ p.driver ≠ .finished
  stream : ∀ isOver, slot.holding = .stream isOver →
    p.route = .stream ∧ (isOver = false → p.driver ≠ .finished)
  spawned : slot.holding = .spawned → p.route = .spawned ∧ p.given = []
  enqueued : slot.holding = .enqueued → p.route = .enqueued ∧ handed = []
  -- only what a callback was called with can be on its way between the session and the caller
  handed : handed = p.given ∨ (p.route = .enqueued ∧ handed = [])

structure Slot.Exhausted (handed : List (CallResult D)) (slot : Slot ι D) : Prop where
  handed : handed = slot.call.result?.toList
  finished : slot.background = true → ∃ res, slot.call.execution = .done res

/-- Call `i` of a session is on the passage that began with `call` on `route`, and the caller was
given the results `handed`. What only the caller can do to a call is done by its `commands`. -/
structure Slot.OnPassage (client : Client ι Script) (surroundings : Surroundings)
    (commands : List (Command ι D)) (i : Nat) (route : Route) (call : Call ι D)
    (handed : List (CallResult D)) (slot : Slot ι D) : Prop where
  begins : ∃ phase, Begins client.delivery surroundings route phase call
  passage : ∃ moves p, (start route call).run client moves = some p ∧ p.Shows slot handed ∧
    (p.route.isLazy = true → p.driver = .untouched ∨ ∃ c ∈ commands, c.Drives i) ∧
    (p.route = .enqueued → .enqueue i ∈ commands)
  gone : slot.holding = .gone → (∃ c ∈ commands, c.Leaves i) ∨ slot.Exhausted handed

namespace Slot.OnPassage

variable {client : Client ι Script} {surroundings : Surroundings}
  {commands commands' : List (Command ι D)} {i : Nat} {route : Route} {call : Call ι D}
  {handed : List (CallResult D)} {slot slot' : Slot ι D}

theorem mono (h : slot.OnPassage client surroundings commands i route call handed)
    (hsubset : commands ⊆ commands') :
    slot.OnPassage client surroundings commands' i route call handed := by
  obtain ⟨hbegins, ⟨moves, p, hrun, hshows, hlazy, hqueued⟩, hgone⟩ := h
  have hmore : ∀ {P : Command ι D → Prop}, (∃ c ∈ commands, P c) → ∃ c ∈ commands', P c := by
    rintro P ⟨c, hc, hP⟩
    exact ⟨c, hsubset hc, hP⟩
  exact ⟨hbegins, ⟨moves, p, hrun, hshows, fun hl => (hlazy hl).imp_right hmore,
    fun hq => hsubset (hqueued hq)⟩, fun hh => (hgone hh).imp_left hmore⟩

/-- On its passage, a call stands as passages do. -/
theorem stands (h : slot.OnPassage client surroundings commands i route call handed)
    {p : Passage ι D} {moves : List Move} (hrun : (start route call).run client moves = some p) :
    p.Stands call := by
  obtain ⟨phase, hbegins⟩ := h.begins
  exact stands_of_run hbegins.idle.1 hbegins.idle.2 hrun

/-- What the session does on its own leaves the call on its passage. -/
theorem changes (h : slot.OnPassage client surroundings commands i route call handed)
    (hchanges : slot.Changes client False slot') :
    slot'.OnPassage client surroundings commands i route call handed := by
  obtain ⟨hbegins, ⟨moves, p, hrun, hshows, hlazy, hqueued⟩, hgone⟩ := id h
  have hs := h.stands hrun
  obtain ⟨hholding, hbackground, -⟩ := hchanges.frame
  have hroute : slot.background = true ∨ False → p.route ≠ .raw := by
    rintro (hb | hf)
    · rcases hshows.background hb with hr | hr <;> simp [hr]
    · exact hf.elim
  obtain ⟨p', hreaches, hcall, hstill⟩ := hchanges.reaches hs hshows.place hshows.call hroute
  obtain ⟨more, hmore⟩ := hreaches.moves
  -- where the executor does not run the call, only cancels come
  have hdriver : p.route ≠ .spawned → p.route ≠ .enqueued →
      p'.driver = p.driver ∧ p'.given = p.given := by
    intro h₁ h₂
    refine hstill ?_ id
    by_contra hb
    rcases hshows.background (by simpa using hb) with hr | hr
    · exact h₁ hr
    · exact h₂ hr
  refine ⟨hbegins, ⟨moves ++ more, p', ?_, ?_, ?_, hreaches.route ▸ hqueued⟩, fun hh => ?_⟩
  · rw [run_append, hrun]
    exact hmore
  · refine ⟨hcall, hreaches.place, ?_, ?_, ?_, ?_, ?_, ?_, ?_, ?_⟩
    · rw [hbackground, hreaches.route]
      exact hshows.background
    · rw [hholding, hbackground]
      exact hshows.task
    · rw [hholding, hreaches.route]
      exact hshows.raw
    · rw [hholding, hreaches.route]
      intro hh
      obtain ⟨hr, hd⟩ := hshows.future hh
      exact ⟨hr, (hdriver (by simp [hr]) (by simp [hr])).1 ▸ hd⟩
    · rw [hholding, hreaches.route]
      intro isOver hh
      obtain ⟨hr, hd⟩ := hshows.stream isOver hh
      exact ⟨hr, fun ho => (hdriver (by simp [hr]) (by simp [hr])).1 ▸ hd ho⟩
    · rw [hholding, hreaches.route]
      intro hh
      obtain ⟨hr, hg⟩ := hshows.spawned hh
      rcases hreaches.given with hsame | ⟨-, hkeeps⟩
      · exact ⟨hr, hsame.trans hg⟩
      · simp [hr, Route.keeps] at hkeeps
    · rw [hholding, hreaches.route]
      exact hshows.enqueued
    · rw [hreaches.route]
      rcases hshows.handed with hh | hh
      · by_cases hr : p.route = .spawned ∨ p.route = .enqueued
        · rcases hreaches.given with hsame | ⟨hnone, hkeeps⟩
          · exact .inl (hh.trans hsame.symm)
          · rcases hr with hr | hr
            · simp [hr, Route.keeps] at hkeeps
            · exact .inr ⟨hr, hh.trans hnone⟩
        · have hr' := not_or.mp hr
          exact .inl (hh.trans (hdriver hr'.1 hr'.2).2.symm)
      · exact .inr hh
  · rw [hreaches.route]
    intro hl
    have hr : p.route ≠ .spawned ∧ p.route ≠ .enqueued := by
      constructor <;> intro hr <;> simp [hr, Route.isLazy] at hl
    rw [(hdriver hr.1 hr.2).1]
    exact hlazy hl
  · refine (hgone (hholding ▸ hh)).imp_right fun hend => ?_
    have hsame := hchanges.result? fun hb => hend.finished (hb.resolve_right id)
    refine ⟨by rw [hsame, hend.handed], fun hb => ?_⟩
    obtain ⟨res, hres⟩ := hend.finished (hbackground ▸ hb)
    exact ⟨res, Call.execution_of_result (hsame.trans (by simp [Call.result?, hres]))⟩

/-- The caller drops what it has of the call. -/
theorem drop (h : slot.OnPassage client surroundings commands i route call handed)
    (hleft : ∃ c ∈ commands, c.Leaves i) :
    OnPassage client surroundings commands i route call handed { slot with holding := .gone } := by
  obtain ⟨hbegins, ⟨moves, p, hrun, hshows, hlazy, hqueued⟩, -⟩ := h
  refine ⟨hbegins, ⟨moves, p, hrun, ?_, hlazy, hqueued⟩, fun _ => .inl hleft⟩
  exact { hshows with
    task := by simp, raw := by simp, future := by simp, stream := by simp, spawned := by simp
    enqueued := by simp }

end Slot.OnPassage

/-- Between polls, an execution with a result is not polled again. -/
theorem Passage.Stands.finished_of_result {call : Call ι D} {p : Passage ι D} (hs : p.Stands call)
    (hp : p.driver ≠ .polling) {res : CallResult D} (hres : p.race.call.result? = some res) :
    p.driver = .finished := by
  have hdone := Call.execution_of_result hres
  cases hd : p.driver with
  | finished => rfl
  | polling => exact absurd hd hp
  | untouched => simp [(hs.untouched hd).1] at hdone
  | suspended => simp [hs.suspended hd] at hdone

/-- Between polls, what is kept can be fetched, and then the caller has got whatever result there
is. -/
theorem Passage.Stands.fetched (client : Client ι Script) {call : Call ι D} {p : Passage ι D}
    (hs : p.Stands call) (hp : p.driver ≠ .polling) :
    ∃ moves q, p.run client moves = some q ∧ q.race = p.race ∧ q.driver = p.driver ∧
      q.route = p.route ∧ q.given = p.race.call.result?.toList := by
  cases hd : p.driver with
  | polling => exact absurd hd hp
  | untouched =>
    refine ⟨[], p, rfl, rfl, hd, rfl, ?_⟩
    simp [Call.result?, (hs.untouched hd).1, (hs.before (by simp [hd])).2.1]
  | suspended =>
    refine ⟨[], p, rfl, rfl, hd, rfl, ?_⟩
    simp [Call.result?, hs.suspended hd, (hs.before (by simp [hd])).2.1]
  | finished =>
    obtain ⟨res, hres, ⟨-, hkept, hgiven, -⟩ | ⟨-, hgiven, -⟩⟩ := hs.after hd
    · exact ⟨[.fetch], { p with kept := none, given := p.given ++ [res] }, by simp [step, hkept],
        rfl, hd, rfl, by simp [Call.result?, hres, hgiven]⟩
    · exact ⟨[], p, rfl, rfl, hd, rfl, by simp [Call.result?, hres, hgiven]⟩

/-- A call that the caller has in its own hands is not finished, and nobody else polls it. What the
caller has of it can be polled, if a raw call is made a future first. -/
theorem Passage.Shows.ready (client : Client ι Script) {call : Call ι D} {p : Passage ι D}
    {slot : Slot ι D} {handed : List (CallResult D)} (h : p.Shows slot handed)
    (hs : p.Stands call)
    (hown : slot.holding = .raw ∨ slot.holding = .future ∨ slot.holding = .stream false) :
    handed = [] ∧ slot.background = false ∧ ∃ moves q, p.run client moves = some q ∧
      q.race = p.race ∧ q.driver = p.driver ∧
      (q.route = .future ∧ slot.holding ≠ .stream false ∨
        q.route = .stream ∧ slot.holding = .stream false) := by
  have hroute : (p.route = .raw ∨ p.route = .future ∨ p.route = .stream) ∧
      p.driver ≠ .finished := by
    rcases hown with hh | hh | hh
    · have hr := h.raw hh
      exact ⟨.inl hr, by simp [hs.raw hr]⟩
    · exact ⟨.inr (.inl (h.future hh).1), (h.future hh).2⟩
    · exact ⟨.inr (.inr (h.stream false hh).1), (h.stream false hh).2 rfl⟩
  have hmine : p.route ≠ .spawned ∧ p.route ≠ .enqueued := by
    rcases hroute.1 with hr | hr | hr <;> simp [hr]
  refine ⟨?_, ?_, ?_⟩
  · rcases h.handed with hh | ⟨-, hh⟩
    · exact hh.trans (hs.before hroute.2).2.1
    · exact hh
  · by_contra hb
    rcases h.background (by simpa using hb) with hr | hr
    · exact hmine.1 hr
    · exact hmine.2 hr
  · rcases hown with hh | hh | hh
    · exact ⟨[.begin], { p with route := .future }, by simp [step, h.raw hh], rfl, rfl,
        .inl ⟨rfl, by simp [hh]⟩⟩
    · exact ⟨[], p, rfl, rfl, rfl, .inl ⟨(h.future hh).1, by simp [hh]⟩⟩
    · exact ⟨[], p, rfl, rfl, rfl, .inr ⟨(h.stream false hh).1, hh⟩⟩

/-- The caller has a future, a stream or nothing any more of a call that only it polls. -/
theorem Passage.Shows.of_own {p : Passage ι D} {slot : Slot ι D} {handed : List (CallResult D)}
    (hcall : p.race.call = slot.call) (hplace : p.driver ≠ .polling)
    (hmine : slot.background = false) (hhanded : handed = p.given)
    (h : slot.holding = .gone ∨
      (slot.holding = .future ∧ p.route = .future ∧ p.driver ≠ .finished) ∨
      ∃ isOver, slot.holding = .stream isOver ∧ p.route = .stream ∧
        (isOver = false → p.driver ≠ .finished)) : p.Shows slot handed := by
  refine ⟨hcall, hplace, by simp [hmine], ?_, ?_, ?_, ?_, ?_, ?_, .inl hhanded⟩ <;>
    rcases h with hh | ⟨hh, hr, hd⟩ | ⟨isOver, hh, hr, hd⟩ <;> simp [hh]
  · exact ⟨hr, hd⟩
  · exact ⟨hr, hd⟩

namespace Slot.OnPassage

variable {client : Client ι Script} {surroundings : Surroundings}
  {commands : List (Command ι D)} {i : Nat} {route : Route} {call : Call ι D}
  {handed : List (CallResult D)} {slot slot' : Slot ι D}

/-- The caller asks for a call that it has in its own hands, and is given the result, if there is
one then. -/
theorem ask (h : slot.OnPassage client surroundings commands i route call handed)
    (hasked : ∃ c ∈ commands, c.Drives i)
    (hown : slot.holding = .raw ∨ slot.holding = .future ∨ slot.holding = .stream false)
    (hchanges : slot.Changes client True slot') {holding : Holding}
    (hfits : holding = .gone ∨ (holding = .stream true ∧ slot.holding = .stream false) ∨
      (holding = slot.holding ∧ slot.holding ≠ .raw ∧ slot'.call.result? = none)) :
    handed = [] ∧ OnPassage client surroundings commands i route call slot'.call.result?.toList
      { slot' with holding } := by
  obtain ⟨hbegins, ⟨moves, p, hrun, hshows, -⟩, -⟩ := id h
  have hs := h.stands hrun
  obtain ⟨hhanded, hmine, more, q, hq, hrace, hdriver, hroute⟩ := hshows.ready client hs hown
  have hroutes : q.route ≠ .raw ∧ q.route.keeps = false := by
    rcases hroute with ⟨hr, -⟩ | ⟨hr, -⟩ <;> simp [hr, Route.keeps]
  have hqs : q.Stands call := run_induction (fun hr hs => hs.rule hr) hq hs
  obtain ⟨p', hreaches, hcall, -⟩ := hchanges.reaches hqs (hdriver ▸ hshows.place)
    (hrace ▸ hshows.call) fun _ => hroutes.1
  obtain ⟨next, hnext⟩ := hreaches.moves
  have hps := hreaches.stands hqs
  obtain ⟨last, q', hlast, hrace', hdriver', hroute', hgiven⟩ := hps.fetched client hreaches.place
  have hnone : slot'.call.result? = none → q'.driver ≠ .finished := by
    rw [hdriver']
    intro hres hd
    obtain ⟨res, hdone, -⟩ := hps.after hd
    simp [← hcall, Call.result?, hdone] at hres
  have hmine' : slot'.background = false := hchanges.frame.background.trans hmine
  have hlast' : q'.route ≠ .enqueued := by
    rw [hroute', hreaches.route]
    rcases hroute with ⟨hr, -⟩ | ⟨hr, -⟩ <;> simp [hr]
  refine ⟨hhanded, hbegins, ⟨moves ++ more ++ next ++ last, q', ?_, ?_, fun _ => .inr hasked,
    fun hq => absurd hq hlast'⟩, fun _ => .inr ⟨rfl, fun hb => by simp [hmine'] at hb⟩⟩
  · simp only [run_append, hrun, hq, hnext, Option.bind_some]
    exact hlast
  · rw [← hreaches.route, ← hroute'] at hroute
    refine .of_own (by rw [hrace', hcall]) (hdriver' ▸ hreaches.place) hmine'
      (by rw [hgiven, hcall]) ?_
    rcases hfits with hh | ⟨hh, hwas⟩ | ⟨hh, hraw, hres⟩
    · exact .inl hh
    · exact .inr (.inr ⟨true, hh, by simpa [hwas] using hroute, by simp⟩)
    · rcases hown with hwas | hwas | hwas
      · exact absurd hwas hraw
      · exact .inr (.inl ⟨hh.trans hwas, by simpa [hwas] using hroute, hnone hres⟩)
      · exact .inr (.inr ⟨false, hh.trans hwas, by simpa [hwas] using hroute, fun _ => hnone hres⟩)

/-- The result of a call is not lost: the caller was given it, unless it waits in the background for
the caller to come for it. -/
theorem delivered (h : slot.OnPassage client surroundings commands i route call handed)
    {res : CallResult D} (hres : slot.call.result? = some res) :
    handed = [res] ∨ slot.holding = .spawned ∨ slot.holding = .enqueued ∨
      ∃ c ∈ commands, c.Leaves i := by
  obtain ⟨-, ⟨moves, p, hrun, hshows, -⟩, hgone⟩ := id h
  have hs := h.stands hrun
  have hresult : p.race.call.result? = some res := hshows.call ▸ hres
  have hfinished := hs.finished_of_result hshows.place hresult
  cases hh : slot.holding with
  | raw => simp [hs.raw (hshows.raw hh)] at hfinished
  | future => exact absurd hfinished (hshows.future hh).2
  | spawned => exact .inr (.inl rfl)
  | enqueued => exact .inr (.inr (.inl rfl))
  | gone =>
    rcases hgone hh with hleft | hend
    · exact .inr (.inr (.inr hleft))
    · exact .inl (by simp [hend.handed, hres])
  | stream isOver =>
    obtain ⟨hr, -⟩ := hshows.stream isOver hh
    obtain ⟨res', hdone, hbrought⟩ := hs.after hfinished
    obtain rfl := Execution.done.inj (hdone.symm.trans (Call.execution_of_result hresult))
    rcases hbrought with ⟨hkeeps, -⟩ | ⟨-, hgiven, -⟩
    · simp [hr, Route.keeps] at hkeeps
    · rcases hshows.handed with hsame | ⟨hr', -⟩
      · exact .inl (hsame.trans hgiven)
      · simp [hr] at hr'

/-- What the caller only waits for is in the background. -/
theorem task (h : slot.OnPassage client surroundings commands i route call handed)
    (hh : slot.holding = .spawned ∨ slot.holding = .enqueued) : slot.background = true := by
  obtain ⟨-, ⟨moves, p, -, hshows, -⟩, -⟩ := h
  exact hshows.task hh

theorem alive (h : slot.OnPassage client surroundings commands i route call handed) :
    slot.call.execution ≠ .crashed := by
  obtain ⟨-, ⟨moves, p, hrun, hshows, -⟩, -⟩ := id h
  rw [← hshows.call]
  exact (h.stands hrun).alive

/-- The caller fetches the result of a call in the background, or is called back with it. -/
theorem collect (h : slot.OnPassage client surroundings commands i route call handed)
    (hback : slot.holding = .spawned ∨ slot.holding = .enqueued) {res : CallResult D}
    (hres : slot.call.result? = some res) :
    handed = [] ∧
      OnPassage client surroundings commands i route call [res] { slot with holding := .gone } := by
  obtain ⟨hbegins, ⟨moves, p, hrun, hshows, -, hqueued⟩, -⟩ := id h
  have hs := h.stands hrun
  have hroute : (p.route = .spawned ∨ p.route = .enqueued) ∧ handed = [] := by
    rcases hback with hh | hh
    · obtain ⟨hr, hnone⟩ := hshows.spawned hh
      exact ⟨.inl hr, hshows.handed.elim (fun hh => hh.trans hnone) And.right⟩
    · exact ⟨.inr (hshows.enqueued hh).1, (hshows.enqueued hh).2⟩
  obtain ⟨more, q, hq, hrace, hdriver, hqr, hgiven⟩ := hs.fetched client hshows.place
  rw [hshows.call, hres] at hgiven
  refine ⟨hroute.2, hbegins, ⟨moves ++ more, q, ?_, ?_, fun hl => ?_, hqr ▸ hqueued⟩,
    fun _ => .inr ⟨by simp [hres], fun _ => ⟨res, Call.execution_of_result hres⟩⟩⟩
  · rw [run_append, hrun]
    exact hq
  · exact ⟨by rw [hrace, hshows.call], hdriver ▸ hshows.place, fun _ => hqr ▸ hroute.1, by simp,
      by simp, by simp, by simp, by simp, by simp, .inl hgiven.symm⟩
  · rw [hqr] at hl
    rcases hroute.1 with hr | hr <;> simp [hr, Route.isLazy] at hl

/-- A raw call becomes a future. -/
theorem begin (h : slot.OnPassage client surroundings commands i route call handed)
    (hraw : slot.holding = .raw) :
    OnPassage client surroundings commands i route call handed
      { slot with holding := .future } := by
  obtain ⟨hbegins, ⟨moves, p, hrun, hshows, -⟩, -⟩ := id h
  have hs := h.stands hrun
  have hr := hshows.raw hraw
  have hd := hs.raw hr
  obtain ⟨hnone, hmine, -⟩ := hshows.ready client hs (.inl hraw)
  refine ⟨hbegins, ⟨moves ++ [.begin], { p with route := .future }, ?_, ?_, fun _ => .inl hd,
    by simp⟩, by simp⟩
  · rw [run_append, hrun]
    simp [step, hr]
  · exact .of_own hshows.call hshows.place hmine (hnone.trans (hs.before (by simp [hd])).2.1.symm)
      (.inr (.inl ⟨rfl, rfl, by simp [hd]⟩))

/-- A raw call is handed to the background. -/
theorem enqueue (h : slot.OnPassage client surroundings commands i route call handed)
    (hqueued : .enqueue i ∈ commands) (hraw : slot.holding = .raw) :
    OnPassage client surroundings commands i route call handed
      { slot with holding := .enqueued, background := true } := by
  obtain ⟨hbegins, ⟨moves, p, hrun, hshows, -⟩, -⟩ := id h
  have hs := h.stands hrun
  have hr := hshows.raw hraw
  obtain ⟨hnone, -, -⟩ := hshows.ready client hs (.inl hraw)
  refine ⟨hbegins, ⟨moves ++ [.enqueue], { p with route := .enqueued }, ?_, ?_,
    fun hl => by simp [Route.isLazy] at hl, fun _ => hqueued⟩, by simp⟩
  · rw [run_append, hrun]
    simp [step, hr]
  · exact ⟨hshows.call, hshows.place, by simp, fun _ => rfl, by simp, by simp, by simp, by simp,
      fun _ => ⟨rfl, hnone⟩, .inr ⟨rfl, hnone⟩⟩

/-- A call that was just made. -/
theorem made {phase : Phase} (hbegins : Begins client.delivery surroundings route phase slot.call)
    (hbackground : slot.background = true ↔ slot.holding = .spawned)
    (hfits : (slot.holding = .raw ∧ route = .raw) ∨ (slot.holding = .future ∧ route = .future) ∨
      (slot.holding = .stream false ∧ route = .stream) ∨
      (slot.holding = .spawned ∧ route = .spawned) ∨ slot.holding = .gone) :
    slot.OnPassage client surroundings commands i route slot.call [] := by
  have hgone : slot.holding = .gone → (∃ c ∈ commands, c.Leaves i) ∨ slot.Exhausted [] := by
    intro hh
    refine .inr ⟨by simp [Call.result?, hbegins.idle.1], fun hb => ?_⟩
    simp [hbackground.mp hb] at hh
  refine ⟨⟨phase, hbegins⟩, ⟨[], start route slot.call, rfl, ?_, fun _ => .inl rfl,
    fun hq => absurd hq hbegins.route_ne⟩, hgone⟩
  refine ⟨rfl, by simp [start], fun hb => ?_, ?_, ?_, ?_, ?_, ?_, ?_, .inl rfl⟩
  · have hh := hbackground.mp hb
    simp only [hh, reduceCtorEq, false_and, false_or, true_and, or_false] at hfits
    exact .inl hfits
  · rintro (hh | hh)
    · exact hbackground.mpr hh
    · simp [hh] at hfits
  all_goals
    rcases hfits with ⟨hh, hr⟩ | ⟨hh, hr⟩ | ⟨hh, hr⟩ | ⟨hh, hr⟩ | hh <;> simp [hh, start]
  · exact hr
  · exact hr
  · exact hr
  · exact hr

/-- The thread of the caller waits for the result as soon as the call is made. -/
theorem block {phase : Phase} (hbegins : Begins client.delivery surroundings route phase slot.call)
    (hroute : route = .blocked ∨ route = .handedOver) (hgone : slot.holding = .gone)
    (hmine : slot.background = false) (hchanges : slot.Changes client True slot')
    (channel : Option (Channel D)) :
    OnPassage client surroundings commands i route slot.call slot'.call.result?.toList
      { slot' with channel } := by
  obtain ⟨hidle, hsent⟩ := hbegins.idle
  have hs : (start route slot.call).Stands slot.call := stands_start hidle hsent
  obtain ⟨p, hreaches, hcall, -⟩ := hchanges.reaches hs (by simp [start]) rfl
    fun _ => by rcases hroute with hr | hr <;> simp [start, hr]
  obtain ⟨moves, hmoves⟩ := hreaches.moves
  have hps := hreaches.stands hs
  have hr : p.route = route := hreaches.route
  have hlazy : p.route.isLazy ≠ true := by
    rcases hroute with h | h <;> simp [hr, h, Route.isLazy]
  obtain ⟨hholding, hbackground, -⟩ := hchanges.frame
  -- what was sent into the channel is taken from it
  obtain ⟨more, q, hq, hrace, hdriver, hqr, hgiven⟩ := hps.fetched client hreaches.place
  have hmine' : slot'.background = false := hbackground.trans hmine
  have hqueued : q.route ≠ .enqueued := by
    rcases hroute with h | h <;> simp [hqr, hr, h]
  refine ⟨⟨phase, hbegins⟩, ⟨moves ++ more, q, ?_, ?_, fun hl => absurd (hqr ▸ hl) hlazy,
    fun hq => absurd hq hqueued⟩, fun _ => .inr ⟨rfl, fun (hb : slot'.background = true) => by simp [hmine'] at hb⟩⟩
  · rw [run_append, hmoves]
    exact hq
  · exact .of_own (by rw [hrace, hcall]) (hdriver ▸ hreaches.place) hmine'
      (by rw [hgiven, hcall]) (.inl (hholding.trans hgone))

end Slot.OnPassage

end GraphClient
