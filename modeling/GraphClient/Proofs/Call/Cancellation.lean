import GraphClient.Client.Minimal
import GraphClient.Proofs.Call.Sender

/-!
# Cancellation and completion agree

Cancels and the one execution of a call touch the sender, the phase and the signal in different
orders. Whatever the order of their steps, one of them gets the sender, the result of the call
tells which, and the phase tells the result.
-/

namespace GraphClient.Race

variable {ι : Type} [Domains ι] {τ D : Type}

theorem Sound.done {client : Client ι τ} {op : Operation ι D} {turns : List Turn} {r : Race ι D}
    {res : CallResult D} (h : Sound client op turns r) (hres : r.call.result? = some res) :
    r.call.lifecycle.armed = false ∧ r.call.phase = .ofResult res ∧
      Due client op turns r.winners res := by
  have hstage := h.stage
  rw [Call.execution_of_result hres] at hstage
  exact hstage

theorem winners_pos_iff (r : Race ι D) :
    0 < r.winners ↔ ∃ c ∈ r.cancels, c.isWinner = true :=
  List.countP_pos_iff

theorem winners_eq_zero_iff (r : Race ι D) :
    r.winners = 0 ↔ ∀ c ∈ r.cancels, c.isWinner = false := by
  simp [winners, List.countP_eq_zero]

/-- While the sender is in place, the phase is none of the terminal ones. -/
theorem Sound.not_terminal {client : Client ι τ} {op : Operation ι D} {turns : List Turn}
    {r : Race ι D} (h : Sound client op turns r) (ha : r.call.lifecycle.armed = true) :
    r.call.phase.isTerminal = false := by
  have hearly : ∀ own : Phase → Prop, (∀ p, own p → p.isTerminal = false) →
      r.call.lifecycle.Open r.winners → r.call.lifecycle.Within r.winners own →
      r.call.phase.isTerminal = false := by
    intro own hown ho hw
    have hn := ho.mp ha
    rcases hw with hw | ⟨-, hpos⟩
    · exact hown _ hw
    · omega
  have hbefore : ∀ p, p = Phase.created ∨ p = .adapted → p.isTerminal = false := by
    rintro p (rfl | rfl) <;> rfl
  have hduring : ∀ p, p = Phase.executing → p.isTerminal = false := by
    rintro p rfl
    rfl
  have hstage := h.stage
  cases hx : r.call.execution with
  | idle | starting => rw [hx] at hstage; exact hearly _ hbefore hstage.1 hstage.2
  | sending | crashed => rw [hx] at hstage; exact hearly _ hduring hstage.1 hstage.2
  | awaiting | choosing res | settling res =>
    rw [hx] at hstage
    exact hearly _ hduring hstage.1 hstage.2.1
  | closing res | done res =>
    rw [hx] at hstage
    simp [hstage.1] at ha

structure Late (n : Nat) (r : Race ι D) : Prop where
  disarmed : r.call.lifecycle.armed = false
  inVain : ∀ i c, n ≤ i → r.cancels[i]? = some c → c = .taking ∨ c = .done false

theorem armed_rule {client : Client ι τ} {c c' : Call ι D} {e : Event}
    (hr : Call.Rule client c e c') (ha : c.lifecycle.armed = false) :
    c'.lifecycle.armed = false := by
  cases hr with
  | close => exact (Call.armed_close _ _).trans ha
  | keep | yield => rfl
  | giveUp | goOn | enter | refuse | send | choose | answer | notice | crash => exact ha

/-- Nobody puts the sender back. -/
theorem Late.step {client : Client ι τ} {n : Nat} {r r' : Race ι D} {t : Turn}
    (hr : Rule client r t r') (h : Late n r) : Late n r' := by
  cases hr with
  | handOver => exact ⟨by simpa [Call.markAdapted] using h.disarmed, h.inVain⟩
  | execution hr => exact ⟨armed_rule hr h.disarmed, h.inVain⟩
  | newCancel =>
    refine ⟨h.disarmed, ?_⟩
    intro i c hi hc
    rw [List.getElem?_append] at hc
    split at hc
    · exact h.inVain i c hi hc
    · exact .inl (by simpa using List.mem_of_getElem? hc)
  | @cancel j d hd =>
    have hstep : (d.step r.call.lifecycle).2.armed = false := by
      cases d <;> simp [Cancel.step, h.disarmed, Lifecycle.enter, Lifecycle.signal]
    refine ⟨hstep, ?_⟩
    intro i c hi hc
    by_cases hij : j = i
    · subst hij
      obtain ⟨hj, -⟩ := List.getElem?_eq_some_iff.mp hd
      simp only [List.getElem?_set_self hj, Option.some.injEq] at hc
      rcases h.inVain j d hi hd with rfl | rfl
      · simp only [Cancel.step, h.disarmed] at hc
        exact .inr hc.symm
      · exact .inr hc.symm
    · simp only [List.getElem?_set_ne hij] at hc
      exact h.inVain i c hi hc

/-- Once the sender is gone, every cancel that is begun comes too late. -/
theorem Late.of_disarmed {r : Race ι D} (h : r.call.lifecycle.armed = false) :
    Late r.cancels.length r := by
  refine ⟨h, ?_⟩
  intro i c hi hc
  rw [List.getElem?_eq_none hi] at hc
  cases hc

/-- What the agreement of cancellation and completion comes to, after any turns from a new call. -/
structure Agreement (client : Client ι τ) (op : Operation ι D) (turns : List Turn) (r : Race ι D) :
    Prop where
  one_true : r.cancels.countP (· == .done true) ≤ 1
  -- the result is that of a canceled call exactly when a cancel got the sender
  canceled_iff : ∀ res, r.call.result? = some res →
    (res = .error .canceled ↔ ∃ c ∈ r.cancels, c.isWinner = true)
  -- otherwise the result is what the exchange came to
  exchanged : ∀ res, r.call.result? = some res → (∀ c ∈ r.cancels, c.isWinner = false) →
    Exchange.ComesTo client op turns res
  not_pending : r.call.phase.isTerminal = true → r.call.isPending = false
  completed_iff : ∀ res, r.call.result? = some res →
    (r.call.phase = .completed ↔ ∃ x, res = .ok x)
  failed_iff : ∀ res, r.call.result? = some res →
    (r.call.phase = .failed ↔ ∃ why, res = .error why ∧ why ≠ .canceled)
  phase_canceled_iff : ∀ res, r.call.result? = some res →
    (r.call.phase = .canceled ↔ res = .error .canceled)
  -- a cancel begun after the result says that it did not cancel the call, whatever comes
  late : ∀ res, r.call.result? = some res → ∀ later r', r.run client later = some r' →
    ∀ i c, r.cancels.length ≤ i → r'.cancels[i]? = some c → c = .taking ∨ c = .done false

/-- In every race, at every moment, cancellation and completion agree. -/
theorem cancellation_agrees (client : Client ι τ) (id : Nat) (op : Operation ι D)
    (turns : List Turn) (r : Race ι D)
    (h : (start (.fresh id op)).run client turns = some r) : Agreement client op turns r := by
  have hs := sound_of_run h
  constructor
  · refine Nat.le_trans (List.countP_mono_left ?_) hs.atMostOne
    intro c _ hc
    rw [beq_iff_eq.mp hc]
    rfl
  · intro res hres
    obtain ⟨-, -, hcomes, hlost⟩ := hs.done hres
    rw [← winners_pos_iff]
    constructor
    · intro hc
      rcases Nat.eq_zero_or_pos r.winners with hn | hn
      · exact absurd hc (hcomes hn).ne_canceled
      · exact hn
    · exact hlost
  · intro res hres hnone
    obtain ⟨-, -, hcomes, -⟩ := hs.done hres
    exact hcomes (r.winners_eq_zero_iff.mpr hnone)
  · intro hterminal
    cases ha : r.call.lifecycle.armed with
    | true => simp [hs.not_terminal ha] at hterminal
    | false => exact ha
  · intro res hres
    rw [(hs.done hres).2.1]
    exact Phase.ofResult_eq_completed_iff res
  · intro res hres
    rw [(hs.done hres).2.1]
    exact Phase.ofResult_eq_failed_iff res
  · intro res hres
    rw [(hs.done hres).2.1]
    exact Phase.ofResult_eq_canceled_iff res
  · intro res hres later r' hr i c hi hc
    have hlate : Late r.cancels.length r := by
      refine ⟨(hs.done hres).1, ?_⟩
      intro i c hi hc
      rw [List.getElem?_eq_none hi] at hc
      cases hc
    exact (run_induction Late.step hr hlate).inVain i c hi hc

/-- A cancel that takes the sender before the execution enters its phase, and one that comes too
late for it: the first is answered with true, and the call ends as canceled. -/
theorem cancellation_agrees_crossing :
    ∃ r, (start (.fresh 1 Operation.minimal)).run Client.minimal
        [.execution .next, .newCancel, .cancel 0, .execution .next, .newCancel, .cancel 1,
          .cancel 0, .cancel 0, .execution .noticed, .execution .next, .execution .next] = some r ∧
      r.cancels = [.done true, .done false] ∧ r.call.result? = some (.error .canceled) ∧
      Agreement Client.minimal Operation.minimal
        [.execution .next, .newCancel, .cancel 0, .execution .next, .newCancel, .cancel 1,
          .cancel 0, .cancel 0, .execution .noticed, .execution .next, .execution .next] r :=
  ⟨_, rfl, rfl, rfl, cancellation_agrees Client.minimal 1 Operation.minimal _ _ rfl⟩

end GraphClient.Race
