import GraphClient.Proofs.Call.Rules

/-!
# Who has the sender

The sender of the cancel channel goes once, to one cancel or to the execution, and this decides the
result of a call. The invariant below ties the three shared parts together at every place the
execution can stand at: the phase, the sender and the signal. It holds in every run of a race.
-/

namespace GraphClient

variable {ι : Type} [Domains ι] {τ D : Type}

namespace Cancel

def isWinner : Cancel → Bool
  | entering | signaling | done true => true
  | taking | done false => false

end Cancel

namespace Exchange

/-- What an exchange can come to in a run: the fault that kept the request from being made, or the
answer to an outcome with which the transport came back. -/
def ComesTo (client : Client ι τ) (op : Operation ι D) (turns : List Turn) (res : CallResult D) :
    Prop :=
  match request client op with
  | .error why => res = .error (.encode why)
  | .ok _ =>
    ∃ outcome, .execution (.answered outcome) ∈ turns ∧ res = answer client.codec op outcome

theorem ComesTo.mono {client : Client ι τ} {op : Operation ι D} {turns more : List Turn}
    {res : CallResult D} (h : ComesTo client op turns res) (hsub : turns ⊆ more) :
    ComesTo client op more res := by
  unfold ComesTo at h ⊢
  split at h
  · exact h
  · obtain ⟨outcome, hm, hres⟩ := h
    exact ⟨outcome, hsub hm, hres⟩

theorem envelope_ne_canceled (codec : Codec ι) (outcome : Except TransportError HttpResponse) :
    envelope codec outcome ≠ .error .canceled := by
  unfold envelope
  cases outcome with
  | error why => simp
  | ok r =>
    dsimp only
    split
    · split
      · simp
      · rename_i tree _
        intro h
        cases hd : codec.decode Envelope.shape tree with
        | error why =>
          rw [hd] at h
          cases h
        | ok e =>
          rw [hd] at h
          cases h
    · simp

/-- No exchange comes to a canceled call. -/
theorem answer_ne_canceled (codec : Codec ι) (op : Operation ι D)
    (outcome : Except TransportError HttpResponse) :
    answer codec op outcome ≠ .error .canceled := by
  unfold answer
  split
  · rename_i why he
    intro hc
    have hwhy : why = .canceled := Except.error.inj hc
    exact envelope_ne_canceled codec outcome (he.trans (congrArg Except.error hwhy))
  · unfold conclude
    split
    · simp
    · simp
    · split <;> simp

theorem ComesTo.ne_canceled {client : Client ι τ} {op : Operation ι D} {turns : List Turn}
    {res : CallResult D} (h : ComesTo client op turns res) : res ≠ .error .canceled := by
  unfold ComesTo at h
  split at h
  · simp [h]
  · obtain ⟨outcome, -, rfl⟩ := h
    exact answer_ne_canceled client.codec op outcome

end Exchange

def Phase.ofResult : CallResult D → Phase
  | .ok _ => .completed
  | .error .canceled => .canceled
  | .error _ => .failed

namespace Phase

theorem ofResult_eq_completed_iff (res : CallResult D) :
    ofResult res = completed ↔ ∃ x, res = .ok x := by
  cases res with
  | ok x => simp [ofResult]
  | error why => cases why <;> simp [ofResult]

theorem ofResult_eq_failed_iff (res : CallResult D) :
    ofResult res = failed ↔ ∃ why, res = .error why ∧ why ≠ .canceled := by
  cases res with
  | ok x => simp [ofResult]
  | error why => cases why <;> simp [ofResult]

theorem ofResult_eq_canceled_iff (res : CallResult D) :
    ofResult res = canceled ↔ res = .error .canceled := by
  cases res with
  | ok x => simp [ofResult]
  | error why => cases why <;> simp [ofResult]

end Phase

namespace Lifecycle

/-- The execution may be in one of its own phases, or a cancel that won has entered its phase. -/
def Within (l : Lifecycle) (winners : Nat) (own : Phase → Prop) : Prop :=
  own l.phase ∨ (l.phase = .canceled ∧ 0 < winners)

/-- The execution has not taken the sender: it is in place unless a cancel won. -/
def Open (l : Lifecycle) (winners : Nat) : Prop := l.armed = true ↔ winners = 0

end Lifecycle

namespace Race

def winners (r : Race ι D) : Nat := r.cancels.countP Cancel.isWinner

/-- A result that respects the cancels: what the exchange came to, or that the call was canceled. -/
def Due (client : Client ι τ) (op : Operation ι D) (turns : List Turn) (winners : Nat)
    (res : CallResult D) : Prop :=
  (winners = 0 → Exchange.ComesTo client op turns res) ∧
    (0 < winners → res = .error .canceled)

def AtStage (client : Client ι τ) (op : Operation ι D) (turns : List Turn) (l : Lifecycle)
    (winners : Nat) : Execution D → Prop
  | .idle | .starting => l.Open winners ∧ l.Within winners fun p => p = .created ∨ p = .adapted
  | .sending | .crashed => l.Open winners ∧ l.Within winners (· = .executing)
  | .awaiting =>
    l.Open winners ∧ l.Within winners (· = .executing) ∧ ∃ q, Exchange.request client op = .ok q
  | .choosing res =>
    l.Open winners ∧ l.Within winners (· = .executing) ∧ Exchange.ComesTo client op turns res
  | .settling res =>
    l.Open winners ∧ l.Within winners (· = .executing) ∧
      (winners = 0 → Exchange.ComesTo client op turns res)
  | .closing res =>
    l.armed = false ∧ l.Within winners (· = .executing) ∧ Due client op turns winners res
  | .done res =>
    l.armed = false ∧ l.phase = .ofResult res ∧ Due client op turns winners res

structure Stands (client : Client ι τ) (op : Operation ι D) (turns : List Turn) (c : Call ι D)
    (winners : Nat) : Prop where
  operation : c.operation = op
  atMostOne : winners ≤ 1
  signaled : c.lifecycle.signaled = true → 0 < winners
  stage : AtStage client op turns c.lifecycle winners c.execution

/-- The invariant of a race that has come about from a new call of `op` by `turns`. -/
def Sound (client : Client ι τ) (op : Operation ι D) (turns : List Turn) (r : Race ι D) : Prop :=
  Stands client op turns r.call r.winners

theorem Due.mono {client : Client ι τ} {op : Operation ι D} {turns more : List Turn} {n : Nat}
    {res : CallResult D} (h : Due client op turns n res) (hsub : turns ⊆ more) :
    Due client op more n res :=
  ⟨fun hn => (h.1 hn).mono hsub, h.2⟩

theorem AtStage.mono {client : Client ι τ} {op : Operation ι D} {turns more : List Turn}
    {l : Lifecycle} {n : Nat} {x : Execution D} (h : AtStage client op turns l n x)
    (hsub : turns ⊆ more) : AtStage client op more l n x := by
  cases x with
  | choosing res => exact ⟨h.1, h.2.1, h.2.2.mono hsub⟩
  | settling res => exact ⟨h.1, h.2.1, fun hn => (h.2.2 hn).mono hsub⟩
  | closing res | done res => exact ⟨h.1, h.2.1, h.2.2.mono hsub⟩
  | idle | starting | sending | awaiting | crashed => exact h

/-- A cancel takes the sender: from then on it is the one winner. -/
theorem AtStage.take {client : Client ι τ} {op : Operation ι D} {turns : List Turn}
    {l : Lifecycle} {n : Nat} {x : Execution D} (h : AtStage client op turns l n x)
    (ha : l.armed = true) : n = 0 ∧ AtStage client op turns l.disarm 1 x := by
  have hopen : l.disarm.Open 1 := by simp [Lifecycle.Open, Lifecycle.disarm]
  have hwithin : ∀ own : Phase → Prop, n = 0 → l.Within n own → l.disarm.Within 1 own := by
    intro own hn hw
    rcases hw with hw | ⟨-, hpos⟩
    · exact .inl hw
    · omega
  cases x with
  | idle | starting | sending | crashed =>
    have hn : n = 0 := h.1.mp ha
    exact ⟨hn, hopen, hwithin _ hn h.2⟩
  | awaiting | choosing res =>
    have hn : n = 0 := h.1.mp ha
    exact ⟨hn, hopen, hwithin _ hn h.2.1, h.2.2⟩
  | settling res =>
    have hn : n = 0 := h.1.mp ha
    exact ⟨hn, hopen, hwithin _ hn h.2.1, by simp⟩
  | closing res => simp [h.1] at ha
  | done res => simp [h.1] at ha

/-- The winner enters its phase, which is where a finished call stands already. -/
theorem AtStage.block {client : Client ι τ} {op : Operation ι D} {turns : List Turn}
    {l : Lifecycle} {n : Nat} {x : Execution D} (h : AtStage client op turns l n x)
    (hn : 0 < n) : AtStage client op turns (l.enter .canceled) n x := by
  have hwithin : ∀ own : Phase → Prop, (l.enter .canceled).Within n own := fun _ => .inr ⟨rfl, hn⟩
  cases x with
  | idle | starting | sending | crashed => exact ⟨h.1, hwithin _⟩
  | awaiting | choosing res | settling res | closing res => exact ⟨h.1, hwithin _, h.2.2⟩
  | done res =>
    obtain ⟨ha, -, hdue⟩ := h
    refine ⟨ha, ?_, hdue⟩
    simp [hdue.2 hn, Lifecycle.enter, Phase.ofResult]

/-- The signal is no part of what the stages speak of. -/
theorem AtStage.signal {client : Client ι τ} {op : Operation ι D} {turns : List Turn}
    {l : Lifecycle} {n : Nat} {x : Execution D} (h : AtStage client op turns l n x) :
    AtStage client op turns l.signal n x := by
  cases x <;> exact h

/-- The call is handed over before the execution begins. -/
theorem AtStage.handOver {client : Client ι τ} {op : Operation ι D} {turns : List Turn}
    {l : Lifecycle} {n : Nat} (h : AtStage client op turns l n .idle) :
    AtStage client op turns (l.advance .created .adapted) n .idle := by
  unfold Lifecycle.advance
  split
  · exact ⟨h.1, .inl (.inr rfl)⟩
  · exact h

/-- The end of an execution: the phase is that of its result. -/
theorem phase_close {l : Lifecycle} {res : CallResult D}
    (h : l.phase = .executing ∨ res = .error .canceled) :
    (Call.close l res).phase = .ofResult res := by
  cases res with
  | ok x =>
    have hp : l.phase = .executing := by simpa using h
    simp [Call.close, Lifecycle.advance, Lifecycle.enter, hp, Phase.ofResult]
  | error why =>
    cases why with
    | canceled => rfl
    | transport | httpStatus | encode | decode | graphql | task =>
      have hp : l.phase = .executing := by simpa using h
      simp [Call.close, Lifecycle.advance, Lifecycle.enter, hp, Phase.ofResult]

/-- A step of the execution leads from stage to stage. -/
theorem AtStage.rule {client : Client ι τ} {op : Operation ι D} {turns : List Turn} {n : Nat}
    {c c' : Call ι D} {e : Event} (h : AtStage client op turns c.lifecycle n c.execution)
    (hop : c.operation = op) (hs : c.lifecycle.signaled = true → 0 < n)
    (hr : Call.Rule client c e c') :
    AtStage client op (turns ++ [.execution e]) c'.lifecycle n c'.execution := by
  have hlost : c.lifecycle.Open n → c.lifecycle.armed = false → 0 < n := by
    intro ho ha
    have hn : n ≠ 0 := fun hn => by simp [ho.mpr hn] at ha
    omega
  have hgone : c.lifecycle.Open n → 0 < n → c.lifecycle.armed = false := by
    intro ho hn
    have ha : ¬c.lifecycle.armed = true := fun ha => by have := ho.mp ha; omega
    simpa using ha
  have hsub : turns ⊆ turns ++ [.execution e] := by simp
  subst hop
  cases hr with
  | giveUp place seen =>
    rw [place] at h
    obtain ⟨ho, hw⟩ := h
    have hseen : c.lifecycle.phase = .canceled := seen
    have hn : 0 < n := by simpa [Lifecycle.Within, hseen] using hw
    exact ⟨hgone ho hn, hseen, by omega, fun _ => rfl⟩
  | goOn place seen =>
    rw [place] at h
    exact h
  | enter place =>
    rw [place] at h
    exact ⟨h.1, .inl rfl⟩
  | refuse place request =>
    rw [place] at h
    exact ⟨h.1, h.2, by simp [Exchange.ComesTo, request]⟩
  | send place request =>
    rw [place] at h
    exact ⟨h.1, h.2, _, request⟩
  | choose place =>
    rw [place] at h
    exact ⟨h.1, h.2.1, fun _ => h.2.2.mono hsub⟩
  | keep place armed =>
    rw [place] at h
    obtain ⟨ho, hw, hcomes⟩ := h
    have hn : n = 0 := ho.mp armed
    exact ⟨rfl, hw, fun hn => (hcomes hn).mono hsub, by omega⟩
  | yield place armed =>
    rw [place] at h
    obtain ⟨ho, hw, -⟩ := h
    have hn : 0 < n := hlost ho armed
    exact ⟨rfl, hw, by omega, fun _ => rfl⟩
  | @close res place =>
    rw [place] at h
    obtain ⟨ha, hw, hdue⟩ := h
    refine ⟨(Call.armed_close _ _).trans ha, phase_close ?_, hdue.mono hsub⟩
    rcases hw with hw | ⟨-, hn⟩
    · exact .inl hw
    · exact .inr (hdue.2 hn)
  | answer outcome place =>
    rw [place] at h
    obtain ⟨ho, hw, q, hq⟩ := h
    refine ⟨ho, hw, ?_⟩
    simp only [Exchange.ComesTo, hq]
    exact ⟨outcome, by simp, rfl⟩
  | notice place signaled =>
    have hn := hs signaled
    have hopen : c.lifecycle.Open n ∧ c.lifecycle.Within n (· = .executing) := by
      cases hx : c.execution with
      | sending => rw [hx] at h; exact h
      | awaiting | choosing res => rw [hx] at h; exact ⟨h.1, h.2.1⟩
      | idle | starting | settling res | closing res | done res | crashed =>
        simp [hx, Call.CanNotice] at place
    exact ⟨hopen.1, hopen.2, by omega⟩
  | crash place =>
    cases hx : c.execution with
    | sending => rw [hx] at h; exact h
    | awaiting => rw [hx] at h; exact ⟨h.1, h.2.1⟩
    | idle | starting | choosing res | settling res | closing res | done res | crashed =>
      simp [hx, Call.CanCrash] at place

theorem winners_set {r : Race ι D} {i : Nat} {c d : Cancel} (hc : r.cancels[i]? = some c) :
    (r.cancels.set i d).countP Cancel.isWinner + (if c.isWinner then 1 else 0) =
      r.winners + (if d.isWinner then 1 else 0) := by
  obtain ⟨hi, rfl⟩ := List.getElem?_eq_some_iff.mp hc
  have hle : (if r.cancels[i].isWinner then 1 else 0) ≤ r.cancels.countP Cancel.isWinner := by
    split
    · exact List.countP_pos_iff.mpr ⟨_, List.getElem_mem hi, by assumption⟩
    · omega
  rw [List.countP_set hi]
  unfold winners
  omega

theorem Sound.start (client : Client ι τ) (id : Nat) (op : Operation ι D) :
    Sound client op [] (start (.fresh id op)) where
  operation := rfl
  atMostOne := by simp [winners, Race.start]
  signaled := by simp [Race.start, Call.fresh, Lifecycle.fresh]
  stage := ⟨by simp [Lifecycle.Open, winners, Race.start, Call.fresh, Lifecycle.fresh],
    .inl (.inl rfl)⟩

/-- One step of a cancel keeps the invariant, whichever step it is. -/
theorem Sound.cancel {client : Client ι τ} {op : Operation ι D} {turns : List Turn}
    {r : Race ι D} (h : Sound client op turns r) {i : Nat} {c : Cancel}
    (hc : r.cancels[i]? = some c) :
    Sound client op turns
      { call := { r.call with lifecycle := (c.step r.call.lifecycle).2 }
        cancels := r.cancels.set i (c.step r.call.lifecycle).1 } := by
  have hcount := winners_set (d := (c.step r.call.lifecycle).1) hc
  have hpos : c.isWinner = true → 0 < r.winners := fun hw =>
    List.countP_pos_iff.mpr ⟨c, List.mem_of_getElem? hc, hw⟩
  unfold Sound winners
  obtain ⟨hop, hone, hsignal, hstage⟩ := h
  cases c with
  | taking =>
    cases ha : r.call.lifecycle.armed with
    | true =>
      obtain ⟨hn, htake⟩ := hstage.take ha
      simp only [Cancel.step, ha, if_true, Cancel.isWinner, hn] at hcount ⊢
      simp only [Bool.false_eq_true, if_false, Nat.add_zero, Nat.zero_add] at hcount
      rw [hcount]
      exact ⟨hop, Nat.le_refl 1, fun _ => Nat.one_pos, htake⟩
    | false =>
      simp only [Cancel.step, ha, Bool.false_eq_true, if_false, Cancel.isWinner, Nat.add_zero]
        at hcount ⊢
      rw [hcount]
      exact ⟨hop, hone, hsignal, hstage⟩
  | entering =>
    simp only [Cancel.step, Cancel.isWinner, if_true, Nat.add_right_cancel_iff] at hcount ⊢
    rw [hcount]
    exact ⟨hop, hone, hsignal, hstage.block (hpos rfl)⟩
  | signaling =>
    simp only [Cancel.step, Cancel.isWinner, if_true, Nat.add_right_cancel_iff] at hcount ⊢
    rw [hcount]
    exact ⟨hop, hone, fun _ => hpos rfl, hstage.signal⟩
  | done won =>
    simp only [Cancel.step] at hcount ⊢
    rw [Nat.add_right_cancel hcount]
    exact ⟨hop, hone, hsignal, hstage⟩

/-- Steps of the execution leave the operation and the signal as they are. -/
theorem rule_frame {client : Client ι τ} {c c' : Call ι D} {e : Event}
    (hr : Call.Rule client c e c') :
    c'.operation = c.operation ∧ c'.lifecycle.signaled = c.lifecycle.signaled := by
  cases hr with
  | close => exact ⟨rfl, Call.signaled_close _ _⟩
  | giveUp | goOn | enter | refuse | send | choose | keep | yield | answer | notice | crash =>
    exact ⟨rfl, rfl⟩

theorem Stands.mono {client : Client ι τ} {op : Operation ι D} {turns more : List Turn}
    {c : Call ι D} {n : Nat} (h : Stands client op turns c n) (hsub : turns ⊆ more) :
    Stands client op more c n :=
  ⟨h.operation, h.atMostOne, h.signaled, h.stage.mono hsub⟩

/-- Every turn keeps the invariant. -/
theorem Sound.step {client : Client ι τ} {op : Operation ι D} {turns : List Turn}
    {r r' : Race ι D} {t : Turn} (h : Sound client op turns r) (ht : r.step client t = some r') :
    Sound client op (turns ++ [t]) r' := by
  have hsub : turns ⊆ turns ++ [t] := by simp
  cases rule_of_step ht with
  | handOver place =>
    obtain ⟨hop, hone, hsignal, hstage⟩ := Stands.mono h hsub
    rw [place] at hstage
    refine ⟨hop, hone, ?_, ?_⟩
    · simpa [Call.markAdapted, winners] using hsignal
    · simp only [Call.markAdapted, place]
      exact hstage.handOver
  | execution hr =>
    obtain ⟨hop, hs⟩ := rule_frame hr
    exact ⟨hop.trans h.operation, h.atMostOne, fun hs' => h.signaled (hs ▸ hs'),
      h.stage.rule h.operation h.signaled hr⟩
  | newCancel =>
    have hw : (r.cancels ++ [Cancel.taking]).countP Cancel.isWinner = r.winners := by
      simp [winners, Cancel.isWinner]
    unfold Sound winners
    rw [hw]
    exact Stands.mono h hsub
  | cancel hc => exact Stands.mono (h.cancel hc) hsub

theorem Sound.run {client : Client ι τ} {op : Operation ι D} {turns more : List Turn}
    {r r' : Race ι D} (h : Sound client op turns r) (hr : r.run client more = some r') :
    Sound client op (turns ++ more) r' := by
  induction more generalizing turns r with
  | nil =>
    obtain rfl := Option.some.inj hr
    simpa using h
  | cons t rest ih =>
    obtain ⟨m, ht, hm⟩ := Option.bind_eq_some_iff.mp hr
    simpa using ih (h.step ht) hm

/-- The invariant of every run from a new call. -/
theorem sound_of_run {client : Client ι τ} {id : Nat} {op : Operation ι D} {turns : List Turn}
    {r : Race ι D} (h : (Race.start (.fresh id op)).run client turns = some r) :
    Sound client op turns r := by
  simpa using (Sound.start client id op).run h

end Race

end GraphClient
