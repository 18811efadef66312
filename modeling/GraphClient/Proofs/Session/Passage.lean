import GraphClient.Proofs.Call.Advance
import GraphClient.Proofs.Call.Delivery
import GraphClient.Session.Passage

/-!
# Every route brings the result of the one execution

Whatever the route of a call, somebody polls its execution, and cancels come between. What happens
to the call is a run of its race, and every run of the race can happen on every route. How the
result gets to the caller depends on the route alone; it gets there once, and nothing can keep it
from the caller as soon as the transport comes back.
-/

namespace GraphClient

variable {ι : Type} [Domains ι] {τ D : Type}

def Turn.IsCancel : Turn → Prop
  | newCancel | cancel _ => True
  | handOver | execution _ => False

/-- A turn of the execution, or of a cancel, with which nothing dies. -/
def Turn.IsQuiet : Turn → Prop
  | handOver | execution .crashed => False
  | execution _ | newCancel | cancel _ => True

/-- The move that takes the turn. A call is not handed over on the way. -/
def Turn.move : Turn → Move
  | handOver => .begin
  | execution e => .work e
  | newCancel => .newCancel
  | cancel i => .cancel i

/-- A move towards the result, with what the transport comes back with. -/
def Move.IsOwn (outcome : Except TransportError HttpResponse) : Move → Prop
  | begin | poll | work .next | finish | fetch => True
  | work (.answered brought) => brought = outcome
  | enqueue | work .noticed | work .crashed | suspend | newCancel | cancel _ => False

/-- A cancel leaves alone what only the execution touches, and enters one phase at most. -/
theorem Race.cancel_frame {client : Client ι τ} {r r' : Race ι D} {t : Turn} (ht : t.IsCancel)
    (h : r.step client t = some r') :
    r'.call.execution = r.call.execution ∧ r'.call.sent = r.call.sent ∧
      (r'.call.phase = r.call.phase ∨ r'.call.phase = .canceled) := by
  cases rule_of_step h with
  | handOver | execution => exact ht.elim
  | newCancel => exact ⟨rfl, rfl, .inl rfl⟩
  | @cancel i c place =>
    refine ⟨rfl, rfl, ?_⟩
    cases c with
    | taking =>
      left
      cases ha : r.call.lifecycle.armed <;> simp [Call.phase, Cancel.step, ha, Lifecycle.disarm]
    | entering => exact .inr rfl
    | signaling | done => exact .inl rfl

namespace Passage

@[simp] theorem race_receive (p : Passage ι D) (res : CallResult D) :
    (p.receive res).race = p.race := by
  unfold receive
  split <;> rfl

@[simp] theorem route_receive (p : Passage ι D) (res : CallResult D) :
    (p.receive res).route = p.route := by
  unfold receive
  split <;> rfl

inductive Rule (client : Client ι τ) (p : Passage ι D) : Move → Passage ι D → Prop
  | begin (route : p.route = .raw) : Rule client p .begin { p with route := .future }
  | enqueue (route : p.route = .raw) : Rule client p .enqueue { p with route := .enqueued }
  | poll (place : p.driver = .untouched ∨ p.driver = .suspended) (route : p.route ≠ .raw) :
    Rule client p .poll { p with driver := .polling }
  | pollEnded (place : p.driver = .finished) (route : p.route = .stream) :
    Rule client p .poll { p with ended := true }
  | work {e : Event} {c : Call ι D} (place : p.driver = .polling) (alive : e ≠ .crashed)
    (met : p.race.call.step client e = some c) :
    Rule client p (.work e) { p with race := { p.race with call := c } }
  | suspend (place : p.driver = .polling) (waits : p.race.call.execution = .awaiting) :
    Rule client p .suspend { p with driver := .suspended }
  | finish {res : CallResult D} (place : p.driver = .polling)
    (result : p.race.call.result? = some res) :
    Rule client p .finish { p.receive res with driver := .finished }
  | fetch {res : CallResult D} (kept : p.kept = some res) :
    Rule client p .fetch { p with kept := none, given := p.given ++ [res] }
  | cancel {m : Move} {t : Turn} {race : Race ι D} (move : m.turn? = some t)
    (isCancel : t.IsCancel) (turn : p.race.step client t = some race) :
    Rule client p m { p with race }

/-- Every move is an instance of a rule. -/
theorem rule_of_step {client : Client ι τ} {p p' : Passage ι D} {m : Move}
    (h : p.step client m = some p') : Rule client p m p' := by
  cases m with
  | begin =>
    simp only [step, Option.ite_none_right_eq_some, Option.some.injEq] at h
    exact h.2 ▸ .begin h.1
  | enqueue =>
    simp only [step, Option.ite_none_right_eq_some, Option.some.injEq] at h
    exact h.2 ▸ .enqueue h.1
  | poll =>
    simp only [step] at h
    split at h
    · rename_i hx
      simp only [Option.ite_none_left_eq_some, Option.some.injEq] at h
      exact h.2 ▸ .poll (.inl hx) h.1
    · rename_i hx
      simp only [Option.ite_none_left_eq_some, Option.some.injEq] at h
      exact h.2 ▸ .poll (.inr hx) h.1
    · rename_i hx
      simp only [Option.ite_none_right_eq_some, Option.some.injEq] at h
      exact h.2 ▸ .pollEnded hx h.1
    · cases h
  | work e =>
    simp only [step] at h
    split at h
    · cases h
    · rename_i hx halive
      obtain ⟨race, hrace, rfl⟩ := Option.map_eq_some_iff.mp h
      obtain ⟨c, hc, rfl⟩ := Option.map_eq_some_iff.mp hrace
      exact .work hx halive hc
    · cases h
  | suspend =>
    simp only [step] at h
    split at h
    · rename_i hx hy
      exact Option.some.inj h ▸ .suspend hx hy
    · cases h
  | finish =>
    simp only [step] at h
    split at h
    · rename_i res hx hy
      exact Option.some.inj h ▸ .finish hx hy
    · cases h
  | fetch =>
    obtain ⟨res, hres, rfl⟩ := Option.map_eq_some_iff.mp h
    exact .fetch hres
  | newCancel =>
    simp only [step] at h
    obtain ⟨race, hrace, rfl⟩ := Option.map_eq_some_iff.mp h
    exact .cancel rfl trivial hrace
  | cancel i =>
    simp only [step] at h
    obtain ⟨race, hrace, rfl⟩ := Option.map_eq_some_iff.mp h
    exact .cancel rfl trivial hrace

/-- What every move keeps, a whole run keeps. -/
theorem run_induction {client : Client ι τ} {P : Passage ι D → Prop}
    (step : ∀ {p p' : Passage ι D} {m : Move}, Rule client p m p' → P p → P p')
    {p p' : Passage ι D} {moves : List Move} (h : p.run client moves = some p') (hp : P p) :
    P p' := by
  induction moves generalizing p with
  | nil => exact Option.some.inj h ▸ hp
  | cons m rest ih =>
    obtain ⟨q, hq, hrest⟩ := Option.bind_eq_some_iff.mp h
    exact ih hrest (step (rule_of_step hq) hp)

/-! ### The race of a passage -/

theorem race_of_rule {client : Client ι τ} {p p' : Passage ι D} {m : Move}
    (h : Rule client p m p') : p.race.run client m.turn?.toList = some p'.race := by
  cases h with
  | begin | enqueue | poll | pollEnded | suspend | fetch => rfl
  | work _ _ met => simp [Move.turn?, Race.step, met]
  | finish => simp [Move.turn?]
  | cancel move _ turn => simp [move, turn]

/-- The moves that touch the call are turns of its race. -/
theorem race_of_run {client : Client ι τ} {p p' : Passage ι D} {moves : List Move}
    (h : p.run client moves = some p') :
    p.race.run client (moves.filterMap Move.turn?) = some p'.race := by
  induction moves generalizing p with
  | nil => exact congrArg (Option.map Passage.race) h
  | cons m rest ih =>
    obtain ⟨q, hq, hrest⟩ := Option.bind_eq_some_iff.mp h
    have hturns : (m :: rest).filterMap Move.turn? =
        m.turn?.toList ++ rest.filterMap Move.turn? := by
      cases hm : m.turn? <;> simp [hm]
    rw [hturns, Race.run_append, race_of_rule (rule_of_step hq)]
    exact ih hrest

/-! ### The one result -/

/-- The caller has the result or it is kept, according to the route. -/
def Brought (p : Passage ι D) (res : CallResult D) : Prop :=
  (p.route.keeps = true ∧ p.kept = some res ∧ p.given = [] ∧ p.ended = false) ∨
    (p.kept = none ∧ p.given = [res] ∧ (p.ended = true → p.route = .stream))

/-- How a passage that began with the call `call` stands, by what is being done with the
execution. -/
structure Stands (call : Call ι D) (p : Passage ι D) : Prop where
  alive : p.race.call.execution ≠ .crashed
  raw : p.route = .raw → p.driver = .untouched
  untouched : p.driver = .untouched →
    p.race.call.execution = .idle ∧ p.race.call.sent = [] ∧
      (p.race.call.phase = call.phase ∨ p.race.call.phase = .canceled)
  suspended : p.driver = .suspended → p.race.call.execution = .awaiting
  before : p.driver ≠ .finished → p.kept = none ∧ p.given = [] ∧ p.ended = false
  after : p.driver = .finished → ∃ res, p.race.call.execution = .done res ∧ p.Brought res

theorem Stands.rule {client : Client ι τ} {call : Call ι D} {p p' : Passage ι D} {m : Move}
    (hr : Rule client p m p') (h : p.Stands call) : p'.Stands call := by
  obtain ⟨halive, hraw, huntouched, hsuspended, hbefore, hafter⟩ := h
  cases hr with
  | begin route | enqueue route =>
    have hplace := hraw route
    exact ⟨halive, by simp, huntouched, hsuspended, hbefore, fun hd => by simp [hplace] at hd⟩
  | poll place route =>
    have hnot : p.driver ≠ .finished := by rcases place with h | h <;> simp [h]
    exact ⟨halive, fun hd => absurd hd route, by simp, by simp, fun _ => hbefore hnot, by simp⟩
  | pollEnded place route =>
    refine ⟨halive, hraw, huntouched, hsuspended, fun hnot => absurd place hnot, ?_⟩
    intro _
    obtain ⟨res, hres, hbrought⟩ := hafter place
    refine ⟨res, hres, ?_⟩
    rcases hbrought with ⟨hkeeps, -⟩ | ⟨hkept, hgiven, -⟩
    · simp [route, Route.keeps] at hkeeps
    · exact .inr ⟨hkept, hgiven, fun _ => route⟩
  | work place alive met =>
    exact ⟨Call.alive_rule (Call.rule_of_step met) alive, hraw, by simp [place], by simp [place],
      hbefore, by simp [place]⟩
  | suspend place waits =>
    exact ⟨halive, fun hr => by simp [hraw hr] at place, by simp, fun _ => waits,
      fun _ => hbefore (by simp [place]), by simp⟩
  | @finish res place result =>
    obtain ⟨hkept, hgiven, hended⟩ := hbefore (by simp [place])
    refine ⟨by simpa using halive, fun hr => ?_, by simp, by simp, by simp, fun _ => ?_⟩
    · rw [show p.route = .raw by simpa using hr] at hraw
      simp [hraw rfl] at place
    · refine ⟨res, by simpa using Call.execution_of_result result, ?_⟩
      cases hkeeps : p.route.keeps with
      | true => exact .inl (by simp [receive, hkeeps, hgiven, hended])
      | false => exact .inr (by simp [receive, hkeeps, hkept, hgiven, hended])
  | @fetch res kept =>
    have hplace : p.driver = .finished := by
      by_contra hnot
      simp [(hbefore hnot).1] at kept
    refine ⟨halive, hraw, huntouched, hsuspended, fun hnot => absurd hplace hnot, ?_⟩
    intro _
    obtain ⟨res', hres, hbrought⟩ := hafter hplace
    rcases hbrought with ⟨-, hkept, hgiven, hended⟩ | ⟨hkept, -⟩
    · obtain rfl : res' = res := Option.some.inj (hkept.symm.trans kept)
      exact ⟨res', hres, .inr (by simp [hgiven, hended])⟩
    · simp [hkept] at kept
  | cancel move isCancel turn =>
    obtain ⟨hx, hsent, hphase⟩ := Race.cancel_frame isCancel turn
    refine ⟨hx ▸ halive, hraw, ?_, fun hd => hx.trans (hsuspended hd), hbefore, ?_⟩
    · intro hd
      obtain ⟨hidle, hempty, hbegun⟩ := huntouched hd
      refine ⟨hx.trans hidle, hsent.trans hempty, ?_⟩
      rcases hphase with hp | hp
      · rw [hp]
        exact hbegun
      · exact .inr hp
    · intro hd
      obtain ⟨res, hres, hbrought⟩ := hafter hd
      exact ⟨res, hx.trans hres, hbrought⟩

theorem stands_start {route : Route} {call : Call ι D} (hidle : call.execution = .idle)
    (hsent : call.sent = []) : (start route call).Stands call where
  alive := by simp [start, Race.start, hidle]
  raw _ := rfl
  untouched _ := ⟨hidle, hsent, .inl rfl⟩
  suspended h := nomatch h
  before _ := ⟨rfl, rfl, rfl⟩
  after h := nomatch h

theorem stands_of_run {client : Client ι τ} {route : Route} {call : Call ι D}
    {p : Passage ι D} {moves : List Move} (hidle : call.execution = .idle)
    (hsent : call.sent = []) (h : (start route call).run client moves = some p) :
    p.Stands call :=
  run_induction (fun hr hs => hs.rule hr) h (stands_start hidle hsent)

/-- Only a poll sets an execution going. -/
theorem untouched_of_run {client : Client ι τ} {p p' : Passage ι D} {moves : List Move}
    (h : p.run client moves = some p') (hmoves : .poll ∉ moves) (hp : p.driver = .untouched) :
    p'.driver = .untouched := by
  induction moves generalizing p with
  | nil => exact Option.some.inj h ▸ hp
  | cons m rest ih =>
    obtain ⟨q, hq, hrest⟩ := Option.bind_eq_some_iff.mp h
    refine ih hrest (fun hr => hmoves (List.mem_cons_of_mem _ hr)) ?_
    cases rule_of_step hq with
    | poll | pollEnded => exact absurd List.mem_cons_self hmoves
    | work place | suspend place | finish place => simp [hp] at place
    | begin | enqueue | fetch | cancel => exact hp

/-- Where nothing happens before the caller asks for it, this stays so, unless the call is handed to
the background. -/
theorem lazy_of_run {client : Client ι τ} {p p' : Passage ι D} {moves : List Move}
    (h : p.run client moves = some p') (hp : p.route.isLazy = true ∨ p.route = .enqueued) :
    p'.route.isLazy = true ∨ p'.route = .enqueued := by
  refine run_induction (P := fun p => p.route.isLazy = true ∨ p.route = .enqueued) ?_ h hp
  intro p p' m hrule hp
  cases hrule with
  | begin => exact .inl rfl
  | enqueue => exact .inr rfl
  | finish => simpa using hp
  | poll | pollEnded | work | suspend | fetch | cancel => exact hp

/-- Nothing has reached the caller yet, or the one result has. -/
theorem Stands.given_cases {call : Call ι D} {p : Passage ι D} (h : p.Stands call) :
    p.given = [] ∨ ∃ res, p.race.call.execution = .done res ∧ p.given = [res] := by
  by_cases hd : p.driver = .finished
  · obtain ⟨res, hres, ⟨-, -, hgiven, -⟩ | ⟨-, hgiven, -⟩⟩ := h.after hd
    · exact .inl hgiven
    · exact .inr ⟨res, hres, hgiven⟩
  · exact .inl (h.before hd).2.1

/-! ### Moves that can be made -/

/-- While it is polled, an execution takes any steps it can take. -/
theorem run_work {client : Client ι τ} {c c' : Call ι D} {es : List Event}
    (h : Call.Runs client c es c') (hes : ∀ e ∈ es, e ≠ .crashed) {p : Passage ι D}
    (hp : p.driver = .polling) (hc : p.race.call = c) :
    p.run client (es.map .work) = some { p with race := { p.race with call := c' } } := by
  induction h generalizing p with
  | nil =>
    subst hc
    rfl
  | @cons c m c' e es step rest ih =>
    have he := hes e List.mem_cons_self
    have hmove : p.step client (.work e) =
        some { p with race := { p.race with call := m } } := by
      subst hc
      cases e with
      | crashed => exact absurd rfl he
      | next | answered | noticed => simp [Passage.step, hp, Race.step, step]
    rw [List.map_cons, run_cons, hmove]
    exact ih (fun e h => hes e (List.mem_cons_of_mem _ h)) hp rfl

/-- The passage with the execution polled as far as it made the call this one. -/
def polled (p : Passage ι D) (c : Call ι D) : Passage ι D :=
  { p with race := { p.race with call := c }, driver := .polling }

theorem step_poll (client : Client ι τ) {p : Passage ι D}
    (hp : p.driver = .untouched ∨ p.driver = .suspended) (hroute : p.route ≠ .raw) :
    p.step client .poll = some (p.polled p.race.call) := by
  rcases hp with hd | hd <;> simp [step, hd, hroute, polled]

theorem run_poll_work {client : Client ι τ} {p : Passage ι D}
    (hp : p.driver = .untouched ∨ p.driver = .suspended) (hroute : p.route ≠ .raw)
    {es : List Event} {c : Call ι D} (h : Call.Runs client p.race.call es c)
    (hes : ∀ e ∈ es, e ≠ .crashed) :
    p.run client (.poll :: es.map .work) = some (p.polled c) := by
  rw [run_cons, step_poll client hp hroute]
  exact run_work h hes rfl rfl

theorem step_finish (client : Client ι τ) (p : Passage ι D) {c : Call ι D} {res : CallResult D}
    (hres : c.execution = .done res) :
    (p.polled c).step client .finish =
      some { (p.polled c).receive res with driver := .finished } := by
  simp [step, polled, Call.result?, hres]

theorem given_receive {p : Passage ι D} (hkeeps : p.route.keeps = true) (res : CallResult D) :
    (p.receive res).given = p.given := by
  simp [receive, hkeeps]

/-- Moves lead from one passage to another between polls. The result may come to the caller on the
way, unless it is kept. -/
structure Reaches (client : Client ι τ) (p p' : Passage ι D) : Prop where
  moves : ∃ moves, p.run client moves = some p'
  place : p'.driver ≠ .polling
  route : p'.route = p.route
  given : p'.given = p.given ∨ (p.given = [] ∧ p.route.keeps = false)

namespace Reaches

variable {client : Client ι τ} {p p' p'' : Passage ι D}

theorem refl (hp : p.driver ≠ .polling) : p.Reaches client p := ⟨⟨[], rfl⟩, hp, rfl, .inl rfl⟩

theorem trans (h : p.Reaches client p') (h' : p'.Reaches client p'') : p.Reaches client p'' := by
  obtain ⟨moves, hmoves⟩ := h.moves
  obtain ⟨more, hmore⟩ := h'.moves
  refine ⟨⟨moves ++ more, ?_⟩, h'.place, h'.route.trans h.route, ?_⟩
  · rw [run_append, hmoves]
    exact hmore
  · rcases h.given with hsame | hnone
    · rw [← hsame, ← h.route]
      exact h'.given
    · exact .inr hnone

theorem stands {call : Call ι D} (h : p.Reaches client p') (hs : p.Stands call) :
    p'.Stands call := by
  obtain ⟨moves, hmoves⟩ := h.moves
  exact run_induction (fun hr hs => hs.rule hr) hmoves hs

end Reaches

/-- Anything that waits or has not begun can be polled, and a poll goes as far as the execution
goes. -/
theorem reaches_poll {client : Client ι τ} {call : Call ι D} {p : Passage ι D}
    (hs : p.Stands call) (hroute : p.route ≠ .raw) (hp : p.driver ≠ .polling) {es : List Event}
    {c : Call ι D} (h : Call.Runs client p.race.call es c) (hes : ∀ e ∈ es, e ≠ .crashed)
    (hrests : Call.Rests c.execution) :
    ∃ p', p.Reaches client p' ∧ p'.race.call = c := by
  by_cases hnone : es = []
  · subst hnone
    cases h
    exact ⟨p, .refl hp, rfl⟩
  · have hplace : p.driver = .untouched ∨ p.driver = .suspended := by
      cases hd : p.driver with
      | untouched => exact .inl rfl
      | suspended => exact .inr rfl
      | polling => exact absurd hd hp
      | finished =>
        obtain ⟨res, hres, -⟩ := hs.after hd
        cases h with
        | nil => exact absurd rfl hnone
        | cons met => exact absurd ⟨res, hres⟩ (Call.not_done_of_rule (Call.rule_of_step met))
    have hpolled := run_poll_work hplace hroute h hes
    rcases hrests with hwaits | ⟨res, hres⟩
    · refine ⟨{ p.polled c with driver := .suspended },
        ⟨⟨.poll :: es.map .work ++ [.suspend], ?_⟩, by simp, rfl, .inl rfl⟩, rfl⟩
      rw [run_append, hpolled]
      simp [step, polled, hwaits]
    · have hgiven : p.given = [] :=
        (hs.before (by rcases hplace with hd | hd <;> simp [hd])).2.1
      refine ⟨{ (p.polled c).receive res with driver := .finished },
        ⟨⟨.poll :: es.map .work ++ [.finish], ?_⟩, by simp, by simp [polled], ?_⟩,
        by simp [polled]⟩
      · rw [run_append, hpolled]
        simp [step_finish client p hres]
      · cases hkeeps : p.route.keeps with
        | true => exact .inl (given_receive (p := p.polled c) hkeeps res)
        | false => exact .inr ⟨hgiven, rfl⟩

/-- What is still to be done for the caller once the execution has come to its result. -/
def lastMoves (route : Route) : List Move := if route.keeps then [.finish, .fetch] else [.finish]

theorem run_lastMoves (client : Client ι τ) {p : Passage ι D} {res : CallResult D}
    (hp : p.driver = .polling) (hres : p.race.call.result? = some res) (hgiven : p.given = []) :
    ∃ p', p.run client (lastMoves p.route) = some p' ∧ p'.race = p.race ∧ p'.given = [res] := by
  cases hkeeps : p.route.keeps with
  | true =>
    refine ⟨{ p with driver := .finished, kept := none, given := [res] }, ?_, rfl, rfl⟩
    simp [lastMoves, hkeeps, step, hp, hres, receive, hgiven]
  | false =>
    refine ⟨{ p with driver := .finished, given := [res] }, ?_, rfl, rfl⟩
    simp [lastMoves, hkeeps, step, hp, hres, receive, hgiven]

/-- While the execution is polled, any turns can be taken that nothing dies with; those of cancels
always can. -/
theorem run_move (client : Client ι τ) {turns : List Turn} (hturns : ∀ t ∈ turns, t.IsQuiet)
    {p : Passage ι D} (hp : p.driver = .polling ∨ ∀ t ∈ turns, t.IsCancel) {r : Race ι D}
    (h : p.race.run client turns = some r) :
    p.run client (turns.map Turn.move) = some { p with race := r } := by
  induction turns generalizing p with
  | nil =>
    obtain rfl := Option.some.inj h
    rfl
  | cons t rest ih =>
    obtain ⟨m, hm, hrest⟩ := Option.bind_eq_some_iff.mp h
    have hquiet := hturns t List.mem_cons_self
    have hmove : p.step client t.move = some { p with race := m } := by
      cases t with
      | handOver => exact hquiet.elim
      | execution e =>
        have hpolling : p.driver = .polling :=
          hp.resolve_right fun hall => hall _ List.mem_cons_self
        cases e with
        | crashed => exact hquiet.elim
        | next | answered | noticed => simp [Turn.move, step, hpolling, hm]
      | newCancel | cancel => simp [Turn.move, step, hm]
    rw [List.map_cons, run_cons, hmove]
    exact ih (fun t ht => hturns t (List.mem_cons_of_mem _ ht))
      (hp.imp_right fun hall t ht => hall t (List.mem_cons_of_mem _ ht)) hrest

/-- A cancel in one go, at any time. -/
theorem reaches_cancel (client : Client ι τ) {p : Passage ι D} (hp : p.driver ≠ .polling) :
    ∃ p', p.Reaches client p' ∧ p'.race.call = p.race.call.cancel.2 ∧ p'.driver = p.driver ∧
      p'.given = p.given := by
  have hmoved := run_move client (p := p) (by simp [Turn.IsQuiet])
    (.inr (by simp [Turn.IsCancel])) (Race.run_newCancel client p.race)
  exact ⟨_, ⟨⟨_, hmoved⟩, hp, rfl, .inl rfl⟩, rfl, rfl, rfl⟩

theorem turns_move {turns : List Turn} (hturns : ∀ t ∈ turns, t.IsQuiet) :
    (turns.map Turn.move).filterMap Move.turn? = turns := by
  induction turns with
  | nil => rfl
  | cons t rest ih =>
    have hquiet := hturns t List.mem_cons_self
    have hrest := ih fun t ht => hturns t (List.mem_cons_of_mem _ ht)
    cases t with
    | handOver => exact hquiet.elim
    | execution | newCancel | cancel => simp [Turn.move, Move.turn?, hrest]

/-- A passage on which nothing has happened can be polled, once it is more than a raw call. -/
theorem run_firstMoves (client : Client ι τ) (route : Route) (call : Call ι D) :
    ∃ first p, (start route call).run client first = some p ∧ p.driver = .polling ∧
      p.race = .start call ∧ p.given = [] ∧ first.filterMap Move.turn? = [] := by
  by_cases hroute : route = .raw
  · subst hroute
    exact ⟨[.begin, .poll], (start .future call).polled call, rfl, rfl, rfl, rfl, rfl⟩
  · refine ⟨[.poll], (start route call).polled call, ?_, rfl, rfl, rfl, rfl⟩
    rw [run_cons, step_poll client (.inl rfl) hroute]
    rfl

theorem turns_lastMoves (route : Route) : (lastMoves route).filterMap Move.turn? = [] := by
  cases route <;> rfl

/-- The result can be brought to the caller without any cancel, as soon as the transport comes back
with the outcome. -/
def Arrives (client : Client ι τ) (outcome : Except TransportError HttpResponse)
    (p : Passage ι D) : Prop :=
  ∃ more p' res, (∀ m ∈ more, m.IsOwn outcome) ∧ p.run client more = some p' ∧ p'.given = [res]

section

variable {client : Client ι τ} {outcome : Except TransportError HttpResponse}

theorem Arrives.cons {p q : Passage ι D} {m : Move} (hm : m.IsOwn outcome)
    (hstep : p.step client m = some q) (h : q.Arrives client outcome) :
    p.Arrives client outcome := by
  obtain ⟨more, p', res, hown, hrun, hgiven⟩ := h
  refine ⟨m :: more, p', res, ?_, by rw [run_cons, hstep]; exact hrun, hgiven⟩
  intro m' hm'
  rcases List.mem_cons.mp hm' with rfl | hm'
  · exact hm
  · exact hown m' hm'

theorem isOwn_lastMoves (route : Route) : ∀ m ∈ lastMoves route, m.IsOwn outcome := by
  cases route <;> simp [lastMoves, Route.keeps, Move.IsOwn]

theorem arrives_of_polling {p : Passage ι D} (hp : p.driver = .polling)
    (halive : p.race.call.execution ≠ .crashed) (hgiven : p.given = []) :
    p.Arrives client outcome := by
  obtain ⟨es, c, res, hes, hruns, hdone⟩ := Call.runs_to_done client halive outcome
  have hnoCrash : ∀ e ∈ es, e ≠ Event.crashed := fun e he => by
    rcases hes e he with rfl | rfl <;> simp
  have hres : c.result? = some res := by simp [Call.result?, hdone]
  obtain ⟨p', hp', -, hgiven'⟩ :=
    run_lastMoves client (p := { p with race := { p.race with call := c } }) hp hres hgiven
  refine ⟨es.map .work ++ lastMoves p.route, p', res, ?_, ?_, hgiven'⟩
  · intro m hm
    rcases List.mem_append.mp hm with hm | hm
    · obtain ⟨e, he, rfl⟩ := List.mem_map.mp hm
      rcases hes e he with rfl | rfl <;> trivial
    · exact isOwn_lastMoves p.route m hm
  · rw [run_append, run_work hruns hnoCrash hp rfl]
    exact hp'

theorem arrives_of_waiting {p : Passage ι D} (hp : p.driver = .untouched ∨ p.driver = .suspended)
    (hroute : p.route ≠ .raw) (halive : p.race.call.execution ≠ .crashed)
    (hgiven : p.given = []) : p.Arrives client outcome :=
  .cons (m := .poll) trivial (step_poll client hp hroute) (arrives_of_polling rfl halive hgiven)

/-- From wherever a passage stands, the result can be brought to the caller. -/
theorem Stands.arrives {call : Call ι D} {p : Passage ι D} (h : p.Stands call) :
    p.Arrives client outcome := by
  have halive := h.alive
  cases hd : p.driver with
  | polling => exact arrives_of_polling hd halive (h.before (by simp [hd])).2.1
  | suspended =>
    have hroute : p.route ≠ .raw := fun hr => by simp [h.raw hr] at hd
    exact arrives_of_waiting (.inr hd) hroute halive (h.before (by simp [hd])).2.1
  | untouched =>
    have hgiven := (h.before (by simp [hd])).2.1
    by_cases hroute : p.route = .raw
    · refine .cons (m := .begin) (q := { p with route := .future }) trivial ?_ ?_
      · simp [step, hroute]
      · exact arrives_of_waiting (.inl hd) (by simp) halive hgiven
    · exact arrives_of_waiting (.inl hd) hroute halive hgiven
  | finished =>
    obtain ⟨res, -, ⟨-, hkept, hgiven, -⟩ | ⟨-, hgiven, -⟩⟩ := h.after hd
    · refine .cons (m := .fetch) (q := { p with kept := none, given := [res] }) trivial ?_ ?_
      · simp [step, hkept, hgiven]
      · exact ⟨[], _, res, by simp, rfl, rfl⟩
    · exact ⟨[], p, res, by simp, rfl, hgiven⟩

end

/-- A call that was just made is ready for a race from the very beginning. -/
theorem Begins.sound {client : Client ι τ} {delivery : Delivery} {surroundings : Surroundings}
    {route : Route} {phase : Phase} {call : Call ι D}
    (h : Begins delivery surroundings route phase call) {turns : List Turn} {r : Race ι D}
    (hr : (Race.start call).run client turns = some r) :
    ∃ op turns', Race.Sound client op turns' r := by
  cases h with
  | adapted id op =>
    have hfresh : (Race.start (.fresh id op)).run client (.handOver :: turns) = some r := hr
    exact ⟨op, _, Race.sound_of_run hfresh⟩
  | raw id op => exact ⟨op, _, Race.sound_of_run hr⟩

theorem Begins.idle {delivery : Delivery} {surroundings : Surroundings} {route : Route}
    {phase : Phase} {call : Call ι D} (h : Begins delivery surroundings route phase call) :
    call.execution = .idle ∧ call.sent = [] := by
  cases h <;> exact ⟨rfl, rfl⟩

/-- Only a raw call is ever enqueued, and not at once. -/
theorem Begins.route_ne {delivery : Delivery} {surroundings : Surroundings} {route : Route}
    {phase : Phase} {call : Call ι D} (h : Begins delivery surroundings route phase call) :
    route ≠ .enqueued := by
  cases h with
  | adapted => cases delivery <;> cases surroundings <;> simp [Delivery.route]
  | raw => simp

theorem Begins.phase_eq {delivery : Delivery} {surroundings : Surroundings} {route : Route}
    {phase : Phase} {call : Call ι D} (h : Begins delivery surroundings route phase call) :
    call.phase = phase := by
  cases h <;> rfl

/-- The route runs the execution of the call and brings its result, and does nothing else. -/
structure Faithful (client : Client ι τ) (route : Route) (phase : Phase) (call : Call ι D) :
    Prop where
  -- whatever moves are made, what happens to the call is a run of its race
  executes : ∀ {moves p}, (start route call).run client moves = some p →
    (Race.start call).run client (moves.filterMap Move.turn?) = some p.race
  -- any run of the race that ends with a result happens on the route, and brings this result
  carries : ∀ {turns r res}, (∀ t ∈ turns, t.IsQuiet) →
    (Race.start call).run client turns = some r → r.call.result? = some res →
    ∃ moves p, (start route call).run client moves = some p ∧
      moves.filterMap Move.turn? = turns ∧ p.race = r ∧ p.given = [res]
  once : ∀ {moves p}, (start route call).run client moves = some p →
    p.given = [] ∨
      ∃ res, p.given = [res] ∧ p.race.call.result? = some res ∧ p.race.call.Finished res
  idles : ∀ {moves p}, (start route call).run client moves = some p → .poll ∉ moves →
    p.driver = .untouched
  -- before anybody polls, nothing is sent and nothing executed
  waits : ∀ {moves p}, (start route call).run client moves = some p → p.driver = .untouched →
    p.given = [] ∧ p.race.call.sent = [] ∧ p.race.call.execution = .idle ∧
      (p.race.call.phase = phase ∨ p.race.call.phase = .canceled)
  arrives : ∀ {moves p}, (start route call).run client moves = some p →
    ∀ outcome, p.Arrives client outcome
  -- a stream ends behind the one result, and not before
  ends : ∀ {moves p}, (start route call).run client moves = some p → p.route = .stream →
    (p.ended = true → p.given ≠ []) ∧
      (p.given ≠ [] → p.step client .poll = some { p with ended := true })

theorem faithful (client : Client ι τ) {delivery : Delivery} {surroundings : Surroundings}
    {route : Route} {phase : Phase} {call : Call ι D}
    (h : Begins delivery surroundings route phase call) : Faithful client route phase call := by
  obtain ⟨hidle, hsent⟩ := h.idle
  refine ⟨race_of_run, ?_, ?_, fun hp hmoves => untouched_of_run hp hmoves rfl, ?_, ?_, ?_⟩
  · intro turns r res hturns hr hres
    obtain ⟨first, p, hp, hpolling, hrace, hgiven, hnone⟩ := run_firstMoves client route call
    have hmoved := run_move client hturns (.inl hpolling) (hrace ▸ hr)
    obtain ⟨p', hp', hrace', hgiven'⟩ :=
      run_lastMoves client (p := { p with race := r }) hpolling hres hgiven
    refine ⟨first ++ turns.map Turn.move ++ lastMoves p.route, p', ?_, ?_, hrace', hgiven'⟩
    · simp only [run_append, hp, hmoved, Option.bind_some]
      exact hp'
    · simp only [List.filterMap_append, hnone, turns_move hturns, turns_lastMoves,
        List.nil_append, List.append_nil]
  · intro moves p hp
    obtain ⟨op, turns, hsound⟩ := h.sound (race_of_run hp)
    refine (stands_of_run hidle hsent hp).given_cases.imp id ?_
    rintro ⟨res, hdone, hgiven⟩
    have hres : p.race.call.result? = some res := by simp [Call.result?, hdone]
    exact ⟨res, hgiven, hres, (hsound.staysFinished hdone).finished [] _ rfl⟩
  · intro moves p hp hd
    have hs := stands_of_run hidle hsent hp
    obtain ⟨hidle', hsent', hphase⟩ := hs.untouched hd
    rw [h.phase_eq] at hphase
    exact ⟨(hs.before (by simp [hd])).2.1, hsent', hidle', hphase⟩
  · intro moves p hp
    exact fun outcome => (stands_of_run hidle hsent hp).arrives
  · intro moves p hp hstream
    have hs := stands_of_run hidle hsent hp
    by_cases hd : p.driver = .finished
    · obtain ⟨res, -, ⟨hkeeps, -⟩ | ⟨-, hgiven, -⟩⟩ := hs.after hd
      · simp [hstream, Route.keeps] at hkeeps
      · exact ⟨fun _ => by simp [hgiven], fun _ => by simp [step, hd, hstream]⟩
    · obtain ⟨-, hgiven, hended⟩ := hs.before hd
      exact ⟨fun he => by simp [hended] at he, fun hg => absurd hgiven hg⟩

end Passage

end GraphClient
