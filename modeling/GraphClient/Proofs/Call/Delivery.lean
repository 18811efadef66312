import GraphClient.Client.Minimal
import GraphClient.Proofs.Call.Cancellation
import GraphClient.Session

/-!
# Results that come from the background

A task in the background brings the result of its call to the caller. It either ends with the
execution, or dies with the transport or the mapper; then the caller is told so in place of a
result, and the part of the execution that closes the call never runs. A call whose task died is
therefore never finished, and says until it is canceled that it is pending.
-/

namespace GraphClient

variable {ι : Type} [Domains ι] {τ D : Type}

namespace Phase

theorem isTerminal_ofResult (res : CallResult D) : (ofResult res).isTerminal = true := by
  cases res with
  | ok x => rfl
  | error why => cases why <;> rfl

end Phase

namespace Call

structure Finished (res : CallResult D) (c : Call ι D) : Prop where
  phase : c.phase = .ofResult res
  terminal : c.phase.isTerminal = true
  not_pending : c.isPending = false

/-- The caller has the result of a call that runs in the background: by awaiting a call that was
spawned, or by waiting for one that was handed over to another executor. -/
inductive Delivers (c : Call ι D) (res : CallResult D) : Prop where
  | spawned (slot : Slot ι D) (call : slot.call = c) (holding : slot.holding = .spawned)
    (delivered : Session.Slot.taskResult? slot = some (.result res))
  | handedOver (s : Session ι D) (i : Nat) (slot : Slot ι D) (place : s.slot? i = some slot)
    (call : slot.call = c) (sent : slot.channel = some (Channel.empty.send c))
    (delivered : s.blockingResult? i = some res)

/-- What the caller is told is the result of the execution, or that the task died. -/
theorem Delivers.cases {c : Call ι D} {res : CallResult D} (h : Delivers c res) :
    c.execution = .done res ∨
      c.execution = .crashed ∧ ∃ message, res = .error (.task message) := by
  cases h with
  | spawned slot call holding delivered =>
    subst call
    unfold Session.Slot.taskResult? at delivered
    cases hx : slot.call.execution with
    | done r =>
      simp only [hx, Option.some.injEq, Delivered.result.injEq] at delivered
      exact .inl (delivered ▸ rfl)
    | crashed =>
      simp only [hx, holding, Option.some.injEq, Delivered.result.injEq] at delivered
      exact .inr ⟨rfl, _, delivered.symm⟩
    | idle | starting | sending | awaiting | choosing | settling | closing =>
      simp [hx] at delivered
  | handedOver s i slot place call sent delivered =>
    simp only [Session.blockingResult?, place, sent, bind, Option.bind] at delivered
    cases hx : c.execution with
    | done r =>
      simp only [Channel.send, hx, Channel.receive?, Option.some.injEq] at delivered
      exact .inl (delivered ▸ rfl)
    | crashed =>
      simp only [Channel.send, hx, Channel.receive?, Option.some.injEq] at delivered
      exact .inr ⟨rfl, _, delivered.symm⟩
    | idle | starting | sending | awaiting | choosing | settling | closing =>
      simp [Channel.send, hx, Channel.receive?] at delivered

/-- No step follows once the execution is over, with a result or without. -/
theorem not_over_of_rule {client : Client ι τ} {c c' : Call ι D} {e : Event}
    (h : Rule client c e c') : c.isOver = false := by
  unfold isOver
  cases h with
  | notice place | crash place => cases hx : c.execution <;> simp_all [CanNotice, CanCrash]
  | answer outcome place => rw [place]
  | giveUp place | goOn place | enter place | refuse place | send place | choose place
  | keep place | yield place | close place => rw [place]

end Call

namespace Race

/-- An execution that is over stays as it is. -/
theorem execution_rule {client : Client ι τ} {r r' : Race ι D} {t : Turn}
    (hr : Rule client r t r') (h : r.call.isOver = true) :
    r'.call.execution = r.call.execution := by
  cases hr with
  | execution hr => simp [Call.not_over_of_rule hr] at h
  | handOver | newCancel | cancel => rfl

theorem execution_run {client : Client ι τ} {r r' : Race ι D} {later : List Turn}
    (hr : r.run client later = some r') (h : r.call.isOver = true) :
    r'.call.execution = r.call.execution := by
  have step : ∀ {m m' : Race ι D} {t : Turn}, Rule client m t m' →
      m.call.execution = r.call.execution → m'.call.execution = r.call.execution := by
    intro m m' t hm hx
    have hover : m.call.isOver = true := by
      unfold Call.isOver at h ⊢
      rwa [hx]
    exact (execution_rule hm hover).trans hx
  exact run_induction step hr rfl

/-- A cancel that nothing comes between does what cancelling in one go does. -/
theorem run_newCancel (client : Client ι τ) (r : Race ι D) :
    r.run client [.newCancel, .cancel r.cancels.length, .cancel r.cancels.length,
        .cancel r.cancels.length] =
      some ⟨r.call.cancel.2, r.cancels ++ [.done r.call.cancel.1]⟩ := by
  cases ha : r.call.lifecycle.armed <;>
    simp [step, Cancel.step, Call.cancel, Lifecycle.cancel, ha]

/-- From here on the call stays finished, and every cancel that is begun finds it so. -/
structure StaysFinished (client : Client ι τ) (res : CallResult D) (r : Race ι D) : Prop where
  finished : ∀ later r', r.run client later = some r' → r'.call.Finished res
  inVain : ∀ later r', r.run client later = some r' →
    ∀ i c, r.cancels.length ≤ i → r'.cancels[i]? = some c → c = .taking ∨ c = .done false

/-- The task of the call died, and nobody closes the call: only a cancel still takes it out of the
executing phase. -/
structure Abandoned (client : Client ι τ) (r : Race ι D) : Prop where
  phase : ∀ later r', r.run client later = some r' →
    r'.call.phase = .executing ∨ r'.call.phase = .canceled
  pending_iff : r.call.isPending = true ↔ ∀ c ∈ r.cancels, c.isWinner = false
  cancel_eq : r.call.isPending = true →
    r.run client [.newCancel, .cancel r.cancels.length, .cancel r.cancels.length,
      .cancel r.cancels.length] = some ⟨r.call.cancel.2, r.cancels ++ [.done true]⟩

theorem Sound.staysFinished {client : Client ι τ} {op : Operation ι D} {turns : List Turn}
    {r : Race ι D} {res : CallResult D} (h : Sound client op turns r)
    (hx : r.call.execution = .done res) : StaysFinished client res r := by
  have hover : r.call.isOver = true := by
    unfold Call.isOver
    rw [hx]
  constructor
  · intro later r' hr
    have hres : r'.call.result? = some res := by
      unfold Call.result?
      rw [execution_run hr hover, hx]
    obtain ⟨harmed, hphase, -⟩ := (h.run hr).done hres
    exact ⟨hphase, hphase ▸ Phase.isTerminal_ofResult res, harmed⟩
  · intro later r' hr i c hi hc
    have hres : r.call.result? = some res := by
      unfold Call.result?
      rw [hx]
    have hlate := Late.of_disarmed (h.done hres).1
    exact (run_induction Late.step hr hlate).inVain i c hi hc

theorem Sound.abandoned {client : Client ι τ} {op : Operation ι D} {turns : List Turn}
    {r : Race ι D} (h : Sound client op turns r) (hx : r.call.execution = .crashed) :
    Abandoned client r := by
  have hover : r.call.isOver = true := by
    unfold Call.isOver
    rw [hx]
  constructor
  · intro later r' hr
    have hstage := (h.run hr).stage
    rw [execution_run hr hover, hx] at hstage
    exact hstage.2.imp id And.left
  · have hstage := h.stage
    rw [hx] at hstage
    rw [← winners_eq_zero_iff]
    exact hstage.1
  · intro hpending
    have hwon : r.call.cancel.1 = true := by
      have harmed : r.call.lifecycle.armed = true := hpending
      simp [Call.cancel, Lifecycle.cancel, harmed]
    rw [run_newCancel, hwon]

/-- Once the caller has the result of a call in the background, the call is finished for good, and
as what the result says, if and only if the task that drove it did not die. If it died, the result
says so, and the call stays executing and pending until a cancel says that it canceled it. -/
theorem delivered_finished_iff {client : Client ι τ} {id : Nat} {op : Operation ι D}
    {turns : List Turn} {r : Race ι D} {res : CallResult D}
    (h : (start (.fresh id op)).run client turns = some r) (hd : r.call.Delivers res) :
    (StaysFinished client res r ↔ r.call.execution ≠ .crashed) ∧
      (r.call.execution = .crashed →
        (∃ message, res = .error (.task message)) ∧ Abandoned client r) := by
  have hs := sound_of_run h
  rcases hd.cases with hx | ⟨hx, message, hres⟩
  · refine ⟨⟨fun _ => by simp [hx], fun _ => hs.staysFinished hx⟩, ?_⟩
    intro hcrashed
    simp [hx] at hcrashed
  · have habandoned := hs.abandoned hx
    refine ⟨⟨?_, fun hno => absurd hx hno⟩, fun _ => ⟨⟨message, hres⟩, habandoned⟩⟩
    intro hstays
    -- a finished call with this result would have failed, and no abandoned call ever does
    have hphase := (hstays.finished [] r rfl).phase
    rw [hres] at hphase
    rcases habandoned.phase [] r rfl with hp | hp <;> simp [hp, Phase.ofResult] at hphase

/-- The transport comes back, if only with a fault, and the call has failed for good. -/
theorem delivered_finished_iff_timeout :
    let turns : List Turn :=
      [.handOver, .execution .next, .execution .next, .execution .next,
        .execution (.answered (.error .timeout)), .execution .next, .execution .next,
        .execution .next]
    ∃ r, (start (.fresh 1 Operation.minimal)).run Client.minimal turns = some r ∧
      r.call.Delivers (.error (.transport .timeout)) ∧
      StaysFinished Client.minimal (.error (.transport .timeout)) r := by
  intro turns
  have hdone : ∃ r, (start (.fresh 1 Operation.minimal)).run Client.minimal turns = some r ∧
      r.call.execution = .done (.error (.transport .timeout)) := ⟨_, rfl, rfl⟩
  obtain ⟨r, hr, hx⟩ := hdone
  have hd : r.call.Delivers (.error (.transport .timeout)) := by
    refine .spawned { call := r.call, holding := .spawned, hasHandle := true } rfl rfl ?_
    simp [Session.Slot.taskResult?, hx]
  refine ⟨r, hr, hd, (delivered_finished_iff hr hd).1.mpr ?_⟩
  simp [hx]

/-- The transport dies. The caller has the news of it, and the call is still executing and pending;
a cancel says that it canceled the call. -/
theorem delivered_unfinished :
    ∃ r r', (start (.fresh 1 Operation.minimal)).run Client.minimal
        [.handOver, .execution .next, .execution .next, .execution .next, .execution .crashed] =
          some r ∧
      r.call.Delivers (.error (.task "task panicked")) ∧
      r.call.phase = .executing ∧ r.call.isPending = true ∧
      r.run Client.minimal [.newCancel, .cancel 0, .cancel 0, .cancel 0] = some r' ∧
      r'.cancels = [.done true] ∧ r'.call.phase = .canceled ∧
      ¬r.call.Finished (.error (.task "task panicked")) := by
  refine ⟨_, _, rfl, .spawned ⟨_, .spawned, true, true, none, none⟩ rfl rfl rfl, rfl, rfl, rfl, rfl, rfl, ?_⟩
  intro hfinished
  cases hfinished.phase

end Race

end GraphClient
