import GraphClient.Client.Minimal
import GraphClient.Proofs.Call.Sender

/-!
# The phase of a call over time

An execution looks at the phase once, and enters its own without looking again. A cancel that comes
between the two enters its phase first and has it overrun: the phase of a call goes back in this way
and in no other.
-/

namespace GraphClient

variable {ι : Type} [Domains ι] {τ D : Type}

namespace Phase

/-- The phase stays, or goes on to one of a higher rank. Nothing follows a terminal phase. -/
def LeadsTo (p q : Phase) : Prop := p = q ∨ p.rank < q.rank

theorem LeadsTo.refl (p : Phase) : p.LeadsTo p := .inl rfl

theorem LeadsTo.trans {p q s : Phase} (h : p.LeadsTo q) (k : q.LeadsTo s) : p.LeadsTo s := by
  rcases h with rfl | h
  · exact k
  · rcases k with rfl | k
    · exact .inr h
    · exact .inr (Nat.lt_trans h k)

theorem rank_le_three (p : Phase) : p.rank ≤ 3 := by cases p <;> simp [rank]

/-- A terminal phase leads to itself alone. -/
theorem LeadsTo.eq_of_isTerminal {p q : Phase} (h : p.LeadsTo q) (hp : p.isTerminal = true) :
    q = p := by
  rcases h with rfl | h
  · rfl
  · have h3 := (rank_eq_three_iff p).mpr hp
    have := rank_le_three q
    omega

theorem not_leadsTo_executing : ¬canceled.LeadsTo executing := by
  simp [LeadsTo, rank]

end Phase

namespace Cancel

def hasStored : Cancel → Bool
  | signaling | done true => true
  | taking | entering | done false => false

end Cancel

namespace Race

/-- By this turn the execution enters its phase over that of a cancel, which it has not seen. -/
def Overruns (r : Race ι D) (t : Turn) : Prop :=
  t = .execution .next ∧ r.call.execution = .starting ∧ r.call.phase = .canceled

/-- The phase at the end of an execution follows the one before. -/
theorem leadsTo_close {client : Client ι τ} {op : Operation ι D} {turns : List Turn}
    {l : Lifecycle} {n : Nat} {res : CallResult D}
    (h : AtStage client op turns l n (.closing res)) :
    l.phase.LeadsTo (Call.close l res).phase := by
  obtain ⟨-, hw, hdue⟩ := h
  rcases hw with hw | ⟨hp, hn⟩
  · rw [phase_close (.inl hw), hw]
    cases res with
    | ok x => simp [Phase.LeadsTo, Phase.ofResult, Phase.rank]
    | error why => cases why <;> simp [Phase.LeadsTo, Phase.ofResult, Phase.rank]
  · rw [phase_close (.inr (hdue.2 hn)), hdue.2 hn, hp]
    exact .inl rfl

/-- A step of the execution leads forward unless it overruns a cancel. -/
theorem leadsTo_rule {client : Client ι τ} {op : Operation ι D} {turns : List Turn} {n : Nat}
    {c c' : Call ι D} {e : Event} (h : AtStage client op turns c.lifecycle n c.execution)
    (hr : Call.Rule client c e c')
    (hno : ¬(e = .next ∧ c.execution = .starting ∧ c.phase = .canceled)) :
    c.phase.LeadsTo c'.phase := by
  cases hr with
  | enter place =>
    have hp : c.phase ≠ .canceled := fun hp => hno ⟨rfl, place, hp⟩
    rw [place] at h
    obtain ⟨-, hw⟩ := h
    rcases hw with (hw | hw) | ⟨hw, -⟩
    · exact .inr (by simp [Call.phase, Lifecycle.enter, hw, Phase.rank])
    · exact .inr (by simp [Call.phase, Lifecycle.enter, hw, Phase.rank])
    · exact absurd hw hp
  | close place =>
    rw [place] at h
    exact leadsTo_close h
  | giveUp | goOn | refuse | send | choose | keep | yield | answer | notice | crash =>
    exact Phase.LeadsTo.refl _

/-- A cancel that has the sender leads forward: no call with a result is without a winner, and one
with a winner has no other result than that of a canceled call. -/
theorem leadsTo_canceled {client : Client ι τ} {op : Operation ι D} {turns : List Turn}
    {l : Lifecycle} {n : Nat} {x : Execution D} (h : AtStage client op turns l n x) (hn : 0 < n) :
    l.phase.LeadsTo .canceled := by
  have hwithin : ∀ own : Phase → Prop, (∀ p, own p → p.rank < 3) → l.Within n own →
      l.phase.LeadsTo .canceled := by
    intro own hown hw
    rcases hw with hw | ⟨hp, -⟩
    · exact .inr (hown _ hw)
    · exact .inl hp
  have hbefore : ∀ p, p = Phase.created ∨ p = .adapted → p.rank < 3 := by
    rintro p (rfl | rfl) <;> simp [Phase.rank]
  have hduring : ∀ p, p = Phase.executing → p.rank < 3 := by
    rintro p rfl
    simp [Phase.rank]
  cases x with
  | idle | starting => exact hwithin _ hbefore h.2
  | sending | crashed => exact hwithin _ hduring h.2
  | awaiting | choosing res | settling res | closing res => exact hwithin _ hduring h.2.1
  | done res =>
    obtain ⟨-, hp, hdue⟩ := h
    rw [hp, hdue.2 hn]
    exact Phase.LeadsTo.refl _

/-- One turn leads the phase forward, unless it overruns a cancel. -/
theorem Sound.leadsTo {client : Client ι τ} {op : Operation ι D} {turns : List Turn}
    {r r' : Race ι D} {t : Turn} (h : Sound client op turns r) (hr : Rule client r t r')
    (hno : ¬r.Overruns t) : r.call.phase.LeadsTo r'.call.phase := by
  cases hr with
  | handOver place =>
    have hstage := h.stage
    rw [place] at hstage
    simp only [Call.phase, Call.markAdapted, Lifecycle.advance]
    split
    · rename_i hp
      simp [Lifecycle.enter, hp, Phase.LeadsTo, Phase.rank]
    · exact Phase.LeadsTo.refl _
  | execution hr =>
    apply leadsTo_rule h.stage hr
    rintro ⟨rfl, hx, hp⟩
    exact hno ⟨rfl, hx, hp⟩
  | newCancel => exact Phase.LeadsTo.refl _
  | @cancel i c hc =>
    cases c with
    | entering =>
      have hn : 0 < r.winners := List.countP_pos_iff.mpr ⟨_, List.mem_of_getElem? hc, rfl⟩
      exact leadsTo_canceled h.stage hn
    | taking =>
      simp only [Call.phase, Cancel.step]
      split <;> exact Phase.LeadsTo.refl _
    | signaling | done won => exact Phase.LeadsTo.refl _

/-- An overrun takes the phase back. -/
theorem phase_of_overruns {client : Client ι τ} {r r' : Race ι D} {t : Turn}
    (h : r.Overruns t) (ht : r.step client t = some r') : r'.call.phase = .executing := by
  obtain ⟨rfl, hx, -⟩ := h
  simp only [step, Call.step, hx, Option.map_some, Option.some.injEq] at ht
  subst ht
  rfl

def RunsClear (client : Client ι τ) (r : Race ι D) (turns : List Turn) : Prop :=
  ∀ before t after m, turns = before ++ t :: after → r.run client before = some m → ¬m.Overruns t

theorem RunsClear.head {client : Client ι τ} {r : Race ι D} {t : Turn} {rest : List Turn}
    (h : RunsClear client r (t :: rest)) : ¬r.Overruns t :=
  h [] t rest r rfl rfl

theorem RunsClear.after {client : Client ι τ} {r m : Race ι D} {before rest : List Turn}
    (h : RunsClear client r (before ++ rest)) (hm : r.run client before = some m) :
    RunsClear client m rest := by
  intro middle t after n hrest hn
  apply h (before ++ middle) t after n
  · rw [hrest, List.append_assoc]
  · rw [run_append, hm]
    exact hn

theorem RunsClear.tail {client : Client ι τ} {r m : Race ι D} {t : Turn} {rest : List Turn}
    (h : RunsClear client r (t :: rest)) (ht : r.step client t = some m) :
    RunsClear client m rest := by
  have hm : r.run client [t] = some m := by simp [ht]
  exact RunsClear.after h hm

theorem RunsClear.upTo {client : Client ι τ} {r : Race ι D} {turns rest : List Turn}
    (h : RunsClear client r (turns ++ rest)) : RunsClear client r turns := by
  intro before t after m hturns hm
  apply h before t (after ++ rest) m ?_ hm
  rw [hturns, List.append_assoc, List.cons_append]

/-- A run without an overrun leads the phase forward. -/
theorem Sound.leadsTo_run {client : Client ι τ} {op : Operation ι D} {turns more : List Turn}
    {r r' : Race ι D} (h : Sound client op turns r) (hr : r.run client more = some r')
    (hclear : RunsClear client r more) : r.call.phase.LeadsTo r'.call.phase := by
  induction more generalizing turns r with
  | nil => exact Option.some.inj hr ▸ Phase.LeadsTo.refl _
  | cons t rest ih =>
    obtain ⟨m, ht, hm⟩ := Option.bind_eq_some_iff.mp hr
    have hfirst := h.leadsTo (rule_of_step ht) hclear.head
    have hrest := ih (h.step ht) hm (hclear.tail ht)
    exact hfirst.trans hrest

/-- Once a cancel has entered its phase, the phase is that of a canceled call. -/
def Kept (r : Race ι D) : Prop :=
  ∀ c ∈ r.cancels, c.hasStored = true → r.call.phase = .canceled

theorem Kept.step {client : Client ι τ} {op : Operation ι D} {turns : List Turn}
    {r r' : Race ι D} {t : Turn} (h : Sound client op turns r) (hr : Rule client r t r')
    (hno : ¬r.Overruns t) (hkept : Kept r) : Kept r' := by
  have hforward := h.leadsTo hr hno
  have hstay : ∀ c ∈ r.cancels, c.hasStored = true → r'.call.phase = .canceled := by
    intro c hc hs
    have hp := hkept c hc hs
    rw [hp] at hforward
    exact hforward.eq_of_isTerminal rfl
  cases hr with
  | handOver | execution => exact hstay
  | newCancel =>
    intro c hc hs
    rcases List.mem_append.mp hc with hc | hc
    · exact hstay c hc hs
    · rw [List.mem_singleton.mp hc] at hs
      cases hs
  | @cancel i d hd =>
    intro c hc hs
    rcases List.mem_or_eq_of_mem_set hc with hc | hc
    · exact hstay c hc hs
    · have hmem := List.mem_of_getElem? hd
      cases d with
      | entering => rfl
      | signaling => exact hstay _ hmem rfl
      | taking =>
        rw [hc] at hs
        simp only [Cancel.step] at hs
        split at hs <;> cases hs
      | done won =>
        rw [hc] at hs
        exact hstay _ hmem hs

theorem Kept.run {client : Client ι τ} {op : Operation ι D} {turns more : List Turn}
    {r r' : Race ι D} (h : Sound client op turns r) (hr : r.run client more = some r')
    (hclear : RunsClear client r more) (hkept : Kept r) : Kept r' := by
  induction more generalizing turns r with
  | nil => exact Option.some.inj hr ▸ hkept
  | cons t rest ih =>
    obtain ⟨m, ht, hm⟩ := Option.bind_eq_some_iff.mp hr
    exact ih (h.step ht) hm (hclear.tail ht) (hkept.step h (rule_of_step ht) hclear.head)

/-- Only cancels and the end of the execution enter the phase of a canceled call. -/
def Explained (r : Race ι D) : Prop :=
  r.call.phase = .canceled →
    (∃ c ∈ r.cancels, c.hasStored = true) ∨ ∃ res, r.call.execution = .done res

theorem Explained.step {client : Client ι τ} {r r' : Race ι D} {t : Turn}
    (hr : Rule client r t r') (h : Explained r) : Explained r' := by
  cases hr with
  | handOver place =>
    intro hp
    apply h
    simp only [Call.phase, Call.markAdapted, Lifecycle.advance] at hp
    split at hp
    · cases hp
    · exact hp
  | execution hr =>
    have hdone := Call.not_done_of_rule hr
    cases hr with
    | giveUp | close => exact fun _ => .inr ⟨_, rfl⟩
    | enter => exact fun hp => by cases hp
    | goOn | refuse | send | choose | keep | yield | answer | notice | crash =>
      exact fun hp => .inl ((h hp).resolve_right hdone)
  | newCancel =>
    intro hp
    refine (h hp).imp ?_ id
    rintro ⟨c, hc, hs⟩
    exact ⟨c, List.mem_append_left _ hc, hs⟩
  | @cancel i d hd =>
    obtain ⟨hi, hget⟩ := List.getElem?_eq_some_iff.mp hd
    have hnew : (d.step r.call.lifecycle).1 ∈
        r.cancels.set i (d.step r.call.lifecycle).1 := List.mem_set hi _
    have hother : d.hasStored = false → (∃ c ∈ r.cancels, c.hasStored = true) →
        ∃ c ∈ r.cancels.set i (d.step r.call.lifecycle).1, c.hasStored = true := by
      rintro hno ⟨c, hc, hs⟩
      obtain ⟨j, hj, rfl⟩ := List.getElem_of_mem hc
      have hij : i ≠ j := by
        rintro rfl
        rw [hget, hno] at hs
        cases hs
      refine ⟨r.cancels[j], ?_, hs⟩
      have := List.getElem?_set_ne (a := (d.step r.call.lifecycle).1) (l := r.cancels) hij
      rw [List.getElem?_eq_getElem hj] at this
      exact List.mem_of_getElem? this
    cases d with
    | entering | signaling => exact fun _ => .inl ⟨_, hnew, rfl⟩
    | taking =>
      intro hp
      have hphase : r.call.phase = .canceled := by
        simp only [Call.phase, Cancel.step] at hp
        split at hp <;> exact hp
      exact (h hphase).imp (hother rfl) id
    | done won =>
      cases won with
      | true => exact fun _ => .inl ⟨_, hnew, rfl⟩
      | false => exact fun hp => (h hp).imp (hother rfl) id

/-- A run up to the end passes through the moment after its first turns. -/
theorem run_split {client : Client ι τ} {r r' : Race ι D} {before after : List Turn}
    (h : r.run client (before ++ after) = some r') :
    ∃ m, r.run client before = some m ∧ m.run client after = some r' := by
  rw [run_append] at h
  exact Option.bind_eq_some_iff.mp h

/-- Between any two moments of the run the phase goes forward. -/
def RunsForward (client : Client ι τ) (r : Race ι D) (turns : List Turn) : Prop :=
  ∀ before middle after m m', turns = before ++ (middle ++ after) →
    r.run client before = some m → m.run client middle = some m' →
    m.call.phase.LeadsTo m'.call.phase

/-- At every moment of the run after a cancel has entered it, the phase is that of a canceled
call. -/
def RunsKept (client : Client ι τ) (r : Race ι D) (turns : List Turn) : Prop :=
  ∀ before after m, turns = before ++ after → r.run client before = some m → Kept m

/-- A run that overruns a cancel, up to the moment behind that. -/
theorem overrun_moments {client : Client ι τ} {r r' : Race ι D} {turns before after : List Turn}
    {t : Turn} {m : Race ι D} (h : r.run client turns = some r')
    (hturns : turns = before ++ t :: after) (hm : r.run client before = some m)
    (hover : m.Overruns t) :
    ∃ m', m.step client t = some m' ∧ m'.call.phase = .executing ∧ m'.cancels = m.cancels := by
  rw [hturns] at h
  obtain ⟨m₁, hm₁, hrest⟩ := run_split h
  obtain rfl := Option.some.inj (hm.symm.trans hm₁)
  obtain ⟨m', ht, -⟩ := Option.bind_eq_some_iff.mp hrest
  refine ⟨m', ht, phase_of_overruns hover ht, ?_⟩
  obtain ⟨rfl, -, -⟩ := hover
  obtain ⟨c, -, rfl⟩ := Option.map_eq_some_iff.mp ht
  rfl

/-- The phase of a call goes forward throughout a run exactly if no turn of the run overruns a
cancel, and exactly then a canceled call stays canceled once a cancel has said so. -/
theorem forward_iff_runsClear (client : Client ι τ) (id : Nat) (op : Operation ι D)
    (turns : List Turn) (r : Race ι D)
    (h : (start (.fresh id op)).run client turns = some r) :
    (RunsForward client (start (.fresh id op)) turns ↔
      RunsClear client (start (.fresh id op)) turns) ∧
    (RunsKept client (start (.fresh id op)) turns ↔
      RunsClear client (start (.fresh id op)) turns) := by
  have hnew : Kept (start (.fresh id op : Call ι D)) := by
    intro c hc
    cases hc
  refine ⟨⟨?_, ?_⟩, ⟨?_, ?_⟩⟩
  · intro hforward before t after m hturns hm hover
    obtain ⟨m', ht, hp, -⟩ := overrun_moments h hturns hm hover
    have hlead := hforward before [t] after m m' hturns hm (by simp [ht])
    rw [hp, hover.2.2] at hlead
    exact Phase.not_leadsTo_executing hlead
  · intro hclear before middle after m m' hturns hm hm'
    rw [hturns] at hclear
    exact (sound_of_run hm).leadsTo_run hm' (hclear.after hm).upTo
  · intro hkept before t after m hturns hm hover
    obtain ⟨m', ht, hp, hcancels⟩ := overrun_moments h hturns hm hover
    have hexplained : Explained m := by
      refine run_induction Explained.step hm ?_
      intro hp
      cases hp
    rcases hexplained hover.2.2 with ⟨c, hc, hs⟩ | ⟨res, hx⟩
    · have hmoment : turns = (before ++ [t]) ++ after := by simp [hturns]
      have hm' : (start (.fresh id op)).run client (before ++ [t]) = some m' := by
        rw [run_append, hm]
        simp [ht]
      have hp' := hkept (before ++ [t]) after m' hmoment hm' c (hcancels ▸ hc) hs
      rw [hp] at hp'
      cases hp'
    · rw [hover.2.1] at hx
      cases hx
  · intro hclear before after m hturns hm
    rw [hturns] at hclear
    exact Kept.run (Sound.start client id op) hm hclear.upTo hnew

/-- A cancel that comes to its end between the look and the entry of the execution. -/
theorem forward_iff_runsClear_overrun :
    ∃ r, (start (.fresh 1 Operation.minimal)).run Client.minimal
        [.execution .next, .newCancel, .cancel 0, .cancel 0, .cancel 0, .execution .next] = some r ∧
      ((RunsForward Client.minimal (start (.fresh 1 Operation.minimal))
          [.execution .next, .newCancel, .cancel 0, .cancel 0, .cancel 0, .execution .next] ↔
        RunsClear Client.minimal (start (.fresh 1 Operation.minimal))
          [.execution .next, .newCancel, .cancel 0, .cancel 0, .cancel 0, .execution .next]) ∧
      (RunsKept Client.minimal (start (.fresh 1 Operation.minimal))
          [.execution .next, .newCancel, .cancel 0, .cancel 0, .cancel 0, .execution .next] ↔
        RunsClear Client.minimal (start (.fresh 1 Operation.minimal))
          [.execution .next, .newCancel, .cancel 0, .cancel 0, .cancel 0, .execution .next])) :=
  ⟨_, rfl, forward_iff_runsClear Client.minimal 1 Operation.minimal _ _ rfl⟩

/-- In that run the phase goes back: a cancel has said that it canceled the call, which then counts
as executing. -/
theorem phase_goes_back :
    ∃ m r, (start (.fresh 1 Operation.minimal)).run Client.minimal
        [.execution .next, .newCancel, .cancel 0, .cancel 0, .cancel 0] = some m ∧
      m.run Client.minimal [.execution .next] = some r ∧
      m.cancels = [.done true] ∧ m.call.phase = .canceled ∧
      r.cancels = [.done true] ∧ r.call.phase = .executing ∧
      ¬m.call.phase.LeadsTo r.call.phase :=
  ⟨_, _, rfl, rfl, rfl, rfl, rfl, rfl, Phase.not_leadsTo_executing⟩

end Race

end GraphClient
