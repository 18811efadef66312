import GraphClient.Proofs.Call.Cancellation
import GraphClient.Proofs.Call.Phases
import GraphClient.Proofs.Exchange.Requests

/-!
# What a call sends

The transport gets the request of a call at one place of the execution, which is passed once. An
execution that has come past it without a cancel has handed over the request, and one that saw a
cancel before it has handed over nothing and never will.
-/

namespace GraphClient

variable {ι : Type} [Domains ι] {τ D : Type}

namespace Call

/-- The execution has yet to come to the place where it hands over its request. -/
def BeforeSending : Execution D → Prop
  | .idle | .starting | .sending => True
  | _ => False

end Call

namespace Race

structure Asked (client : Client ι τ) (op : Operation ι D) (r : Race ι D) : Prop where
  before : Call.BeforeSending r.call.execution → r.call.sent = []
  once : r.call.sent = [] ∨ ∃ q, Exchange.request client op = .ok q ∧ r.call.sent = [q]
  -- no cancel has won, and the execution has come past the place: it has sent what there is to send
  after : r.winners = 0 → ¬Call.BeforeSending r.call.execution → r.call.execution ≠ .crashed →
    ∀ q, Exchange.request client op = .ok q → r.call.sent = [q]

theorem Asked.start (client : Client ι τ) (id : Nat) (op : Operation ι D) :
    Asked client op (start (.fresh id op)) where
  before _ := rfl
  once := .inl rfl
  after _ hpast := absurd trivial hpast

/-- A cancel that won stays a winner. -/
theorem winners_le_cancel {r : Race ι D} {i : Nat} {c : Cancel} (hc : r.cancels[i]? = some c) :
    r.winners ≤ (r.cancels.set i (c.step r.call.lifecycle).1).countP Cancel.isWinner := by
  have hcount := winners_set (d := (c.step r.call.lifecycle).1) hc
  have hkept : c.isWinner = true → (c.step r.call.lifecycle).1.isWinner = true := by
    cases c with
    | taking => simp [Cancel.isWinner]
    | entering | signaling => simp [Cancel.step, Cancel.isWinner]
    | done won => exact id
  by_cases hw : c.isWinner = true
  · simp only [hw, hkept hw, if_true] at hcount
    omega
  · simp only [hw, Bool.false_eq_true, if_false] at hcount
    omega

/-- A step of the execution keeps the account of what was sent. -/
theorem Asked.rule {client : Client ι τ} {op : Operation ι D} {turns : List Turn} {r : Race ι D}
    {c : Call ι D} {e : Event} (h : Asked client op r) (hs : Sound client op turns r)
    (hr : Call.Rule client r.call e c) : Asked client op { r with call := c } := by
  obtain ⟨hbefore, honce, hafter⟩ := h
  have hop : r.call.operation = op := hs.operation
  cases hr with
  | goOn place | enter place =>
    have hempty : r.call.sent = [] := hbefore (by simp [place, Call.BeforeSending])
    exact ⟨fun _ => hempty, .inl hempty, fun _ hpast => absurd trivial hpast⟩
  | giveUp place seen =>
    have hempty : r.call.sent = [] := hbefore (by simp [place, Call.BeforeSending])
    refine ⟨fun _ => hempty, .inl hempty, ?_⟩
    intro hn
    -- an execution sees a canceled call only after a cancel won
    have hstage := hs.stage
    have hnone : r.winners = 0 := hn
    have hseen : r.call.lifecycle.phase = .canceled := seen
    rw [place] at hstage
    simp [AtStage, Lifecycle.Within, hseen, hnone] at hstage
  | refuse place request =>
    have hempty : r.call.sent = [] := hbefore (by simp [place, Call.BeforeSending])
    refine ⟨fun _ => hempty, .inl hempty, ?_⟩
    intro _ _ _ q hq
    rw [hop, hq] at request
    cases request
  | @send q place request =>
    have hempty : r.call.sent = [] := hbefore (by simp [place, Call.BeforeSending])
    have hsent : r.call.sent ++ [q] = [q] := by rw [hempty, List.nil_append]
    rw [hop] at request
    refine ⟨False.elim, .inr ⟨q, request, hsent⟩, ?_⟩
    intro _ _ _ q' hq'
    rw [request] at hq'
    exact Except.ok.inj hq' ▸ hsent
  | choose place | keep place | yield place | close place | answer _ place =>
    refine ⟨False.elim, honce, ?_⟩
    intro hn _ _
    exact hafter hn (by simp [place, Call.BeforeSending]) (by simp [place])
  | notice place signaled =>
    refine ⟨False.elim, honce, ?_⟩
    intro hn
    have hpos : 0 < r.winners := hs.signaled signaled
    have hnone : r.winners = 0 := hn
    omega
  | crash place => exact ⟨False.elim, honce, fun _ _ hno => absurd rfl hno⟩

/-- Every turn keeps the account of what was sent. -/
theorem Asked.step {client : Client ι τ} {op : Operation ι D} {turns : List Turn}
    {r r' : Race ι D} {t : Turn} (h : Asked client op r) (hs : Sound client op turns r)
    (hr : Rule client r t r') : Asked client op r' := by
  cases hr with
  | handOver => exact ⟨h.before, h.once, h.after⟩
  | execution hr => exact h.rule hs hr
  | newCancel =>
    refine ⟨h.before, h.once, ?_⟩
    intro hn
    have hsame : (r.cancels ++ [Cancel.taking]).countP Cancel.isWinner = r.winners := by
      simp [winners, Cancel.isWinner]
    exact h.after (hsame.symm.trans hn)
  | cancel hc =>
    refine ⟨h.before, h.once, ?_⟩
    intro hn
    have hle := winners_le_cancel hc
    have hnone : r.winners = 0 := Nat.le_zero.mp (Nat.le_trans hle (Nat.le_of_eq hn))
    exact h.after hnone

theorem Asked.run {client : Client ι τ} {op : Operation ι D} {turns more : List Turn}
    {r r' : Race ι D} (h : Asked client op r) (hs : Sound client op turns r)
    (hr : r.run client more = some r') : Asked client op r' := by
  induction more generalizing turns r with
  | nil => exact Option.some.inj hr ▸ h
  | cons t rest ih =>
    obtain ⟨m, ht, hm⟩ := Option.bind_eq_some_iff.mp hr
    exact ih (h.step hs (rule_of_step ht)) (hs.step ht) hm

/-- No turn takes an execution back to its beginning. -/
theorem idle_of_rule {client : Client ι τ} {r r' : Race ι D} {t : Turn} (hr : Rule client r t r')
    (h : r'.call.execution = .idle) : r.call.execution = .idle := by
  cases hr with
  | handOver | newCancel | cancel => exact h
  | execution hr => cases hr <;> cases h

/-- Until the execution begins, a cancel that has entered its phase keeps it. -/
theorem Kept.of_idle {client : Client ι τ} {op : Operation ι D} {turns more : List Turn}
    {r r' : Race ι D} (h : Sound client op turns r) (hkept : r.call.execution = .idle → Kept r)
    (hr : r.run client more = some r') (hidle : r'.call.execution = .idle) : Kept r' := by
  induction more generalizing turns r with
  | nil =>
    obtain rfl := Option.some.inj hr
    exact hkept hidle
  | cons t rest ih =>
    obtain ⟨m, ht, hm⟩ := Option.bind_eq_some_iff.mp hr
    refine ih (h.step ht) ?_ hm
    intro hm'
    have hr' := idle_of_rule (rule_of_step ht) hm'
    have hno : ¬r.Overruns t := by
      rintro ⟨-, hstarting, -⟩
      rw [hr'] at hstarting
      cases hstarting
    exact (hkept hr').step h (rule_of_step ht) hno

structure Stopped (r : Race ι D) : Prop where
  place : r.call.execution = .idle ∧ r.call.phase = .canceled ∨ ∃ res, r.call.execution = .done res
  nothing : r.call.sent = []

theorem Stopped.step {client : Client ι τ} {r r' : Race ι D} {t : Turn} (hr : Rule client r t r')
    (h : Stopped r) : Stopped r' := by
  obtain ⟨hplace, hnothing⟩ := h
  cases hr with
  | handOver place =>
    refine ⟨hplace.imp ?_ id, hnothing⟩
    rintro ⟨hx, hp⟩
    have hphase : r.call.lifecycle.phase = .canceled := hp
    refine ⟨hx, ?_⟩
    simp [Call.phase, Call.markAdapted, Lifecycle.advance, hphase]
  | execution hr =>
    have hx := hplace.resolve_right (Call.not_done_of_rule hr)
    cases hr with
    | giveUp => exact ⟨.inr ⟨_, rfl⟩, hnothing⟩
    | goOn _ seen => exact absurd hx.2 seen
    | notice place => simp [hx.1, Call.CanNotice] at place
    | crash place => simp [hx.1, Call.CanCrash] at place
    | enter place | refuse place | send place | choose place | keep place | yield place
    | close place | answer _ place => simp [hx.1] at place
  | newCancel => exact ⟨hplace, hnothing⟩
  | @cancel i c hc =>
    refine ⟨hplace.imp ?_ id, hnothing⟩
    rintro ⟨hx, hp⟩
    refine ⟨hx, ?_⟩
    cases c with
    | taking =>
      simp only [Call.phase, Cancel.step]
      split <;> exact hp
    | entering => rfl
    | signaling | done won => exact hp

/-- An execution that no cancel has met comes to hand over its request by its own steps. -/
theorem reaches_sent {client : Client ι τ} {op : Operation ι D} {turns : List Turn}
    {r : Race ι D} {q : HttpRequest} (h : Sound client op turns r) (hasked : Asked client op r)
    (hnone : r.winners = 0) (hplace : Call.BeforeSending r.call.execution)
    (hq : Exchange.request client op = .ok q) :
    ∃ n r', r.run client (List.replicate n (.execution .next)) = some r' ∧
      r'.call.sent = [q] ∧ r'.call.execution = .awaiting := by
  obtain ⟨⟨id, operation, lifecycle, execution, sent⟩, cancels⟩ := r
  obtain rfl : sent = [] := hasked.before hplace
  obtain rfl : operation = op := h.operation
  have hstage := h.stage
  cases execution with
  | idle =>
    have hphase : lifecycle.phase ≠ .canceled := by
      intro hp
      simp [AtStage, Lifecycle.Within, hp, hnone] at hstage
    exact ⟨3, by simp [List.replicate, step, Call.step, Call.phase, hphase, hq]⟩
  | starting => exact ⟨2, by simp [List.replicate, step, Call.step, hq]⟩
  | sending => exact ⟨1, by simp [List.replicate, step, Call.step, hq]⟩
  | awaiting | choosing | settling | closing | done | crashed => exact hplace.elim

structure SendsOnce (client : Client ι τ) (op : Operation ι D) (r : Race ι D) : Prop where
  at_most_one : r.call.sent = [] ∨ ∃ q, r.call.sent = [q] ∧ Exchange.Asks client op q
  unencodable : ∀ why, client.codec.encodeVariables op.vars = .error why → r.call.sent = []
  -- a cancel that has entered its phase before the execution looks keeps it from sending, for good
  stopped : r.call.execution = .idle → (∃ c ∈ r.cancels, c.hasStored = true) →
    ∀ later r', r.run client later = some r' → r'.call.sent = []
  exactly_one : ∀ vars, client.codec.encodeVariables op.vars = .ok vars →
    (∀ c ∈ r.cancels, c.isWinner = false) → (∃ res, r.call.result? = some res) →
    ∃ q, r.call.sent = [q] ∧ Exchange.Asks client op q
  -- and an execution that has not come so far gets there by itself
  goes_on : ∀ vars, client.codec.encodeVariables op.vars = .ok vars →
    (∀ c ∈ r.cancels, c.isWinner = false) → Call.BeforeSending r.call.execution →
    ∃ n r' q, r.run client (List.replicate n (.execution .next)) = some r' ∧
      r'.call.sent = [q] ∧ Exchange.Asks client op q

/-- In every race, at every moment, the call has sent at most one request, which is the one that the
client makes of the operation; none if the variables do not encode or if the call was canceled
before its execution looked; and exactly one by its end if the variables encode and no cancel
wins. -/
theorem sends_once (client : Client ι τ) (id : Nat) (op : Operation ι D) (turns : List Turn)
    (r : Race ι D) (h : (start (.fresh id op)).run client turns = some r) :
    SendsOnce client op r := by
  have hs := sound_of_run h
  have hasked := (Asked.start client id op).run (Sound.start client id op) h
  constructor
  · refine hasked.once.imp_right ?_
    rintro ⟨q, hq, hsent⟩
    exact ⟨q, hsent, Exchange.asks_of_request hq⟩
  · intro why hv
    rcases hasked.once with hnothing | ⟨q, hq, -⟩
    · exact hnothing
    · rw [Exchange.request_of_error hv] at hq
      cases hq
  · rintro hidle ⟨c, hc, hstored⟩ later r' hr
    have hnew : Kept (start (.fresh id op : Call ι D)) := by
      intro c hc
      cases hc
    have hkept := Kept.of_idle (Sound.start client id op) (fun _ => hnew) h hidle
    have hstopped : Stopped r :=
      ⟨.inl ⟨hidle, hkept c hc hstored⟩, hasked.before (by simp [hidle, Call.BeforeSending])⟩
    exact (run_induction Stopped.step hr hstopped).nothing
  · rintro vars hv hnone ⟨res, hres⟩
    obtain ⟨q, hq⟩ := Exchange.request_of_ok hv
    have hx := Call.execution_of_result hres
    refine ⟨q, hasked.after (r.winners_eq_zero_iff.mpr hnone) ?_ ?_ q hq, Exchange.asks_of_request hq⟩
    · simp [hx, Call.BeforeSending]
    · simp [hx]
  · intro vars hv hnone hplace
    obtain ⟨q, hq⟩ := Exchange.request_of_ok hv
    obtain ⟨n, r', hr, hsent, -⟩ :=
      reaches_sent hs hasked (r.winners_eq_zero_iff.mpr hnone) hplace hq
    exact ⟨n, r', q, hr, hsent, Exchange.asks_of_request hq⟩

/-- A cancel that comes to its end before the execution looks: nothing is sent, however the
execution goes on. -/
theorem sends_once_stopped :
    ∃ r r', (start (.fresh 1 Operation.minimal)).run Client.minimal
        [.handOver, .newCancel, .cancel 0, .cancel 0, .cancel 0] = some r ∧
      r.cancels = [.done true] ∧
      r.run Client.minimal [.execution .next] = some r' ∧
      r'.call.result? = some (.error .canceled) ∧ r'.call.sent = [] ∧
      SendsOnce Client.minimal Operation.minimal r := by
  have hrun : (start (.fresh 1 Operation.minimal)).run Client.minimal
      [.handOver, .newCancel, .cancel 0, .cancel 0, .cancel 0] =
        some ⟨⟨1, Operation.minimal, ⟨.canceled, false, true⟩, .idle, []⟩, [.done true]⟩ := rfl
  have hsends := sends_once Client.minimal 1 Operation.minimal _ _ hrun
  exact ⟨_, _, hrun, rfl, rfl, rfl, rfl, hsends⟩

end Race

end GraphClient
