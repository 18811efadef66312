import GraphClient.Proofs.Call.Rules

/-!
# Executions that go on by themselves

While nothing comes from outside, an execution goes on until it waits for the transport or has a
result; past the transport nothing holds it up. Going on as far as it can is a chain of single
steps, so that what holds of steps holds of it.
-/

namespace GraphClient

variable {ι : Type} [Domains ι] {τ D : Type}

namespace Call

/-- How many steps an execution can take at most with nothing from outside. -/
def stepsLeft : Execution D → Nat
  | .idle => 6
  | .starting => 5
  | .sending => 4
  | .choosing _ => 3
  | .settling _ => 2
  | .closing _ => 1
  | .awaiting | .done _ | .crashed => 0

def PastExchange : Execution D → Prop
  | .choosing _ | .settling _ | .closing _ | .done _ => True
  | .idle | .starting | .sending | .awaiting | .crashed => False

def Rests (x : Execution D) : Prop := x = .awaiting ∨ ∃ res, x = .done res

theorem rests_of_stepsLeft {x : Execution D} (h : stepsLeft x = 0) (halive : x ≠ .crashed) :
    Rests x := by
  cases x with
  | awaiting => exact .inl rfl
  | done res => exact .inr ⟨res, rfl⟩
  | crashed => exact absurd rfl halive
  | idle | starting | sending | choosing | settling | closing => cases h

theorem Rests.done_of_past {x : Execution D} (h : Rests x) (hpast : PastExchange x) :
    ∃ res, x = .done res := by
  rcases h with rfl | hdone
  · exact hpast.elim
  · exact hdone

/-- Nothing but a crash kills an execution. -/
theorem alive_rule {client : Client ι τ} {c c' : Call ι D} {e : Event} (h : Rule client c e c')
    (he : e ≠ .crashed) : c'.execution ≠ .crashed := by
  cases h with
  | crash => exact absurd rfl he
  | giveUp | goOn | enter | refuse | send | choose | keep | yield | close | answer | notice => simp

theorem past_rule {client : Client ι τ} {c c' : Call ι D} (h : Rule client c .next c')
    (hpast : PastExchange c.execution) : PastExchange c'.execution := by
  cases h with
  | giveUp place | goOn place | enter place | refuse place | send place =>
    simp [place, PastExchange] at hpast
  | choose | keep | yield | close => trivial

theorem stepsLeft_rule {client : Client ι τ} {c c' : Call ι D} (h : Rule client c .next c') :
    stepsLeft c'.execution < stepsLeft c.execution := by
  cases h with
  | giveUp place | goOn place | enter place | refuse place | send place | choose place
  | keep place | yield place | close place => simp [stepsLeft, place]

/-- Where there are steps left, one can be taken. -/
theorem step_isSome (client : Client ι τ) {c : Call ι D} (h : stepsLeft c.execution ≠ 0) :
    (c.step client .next).isSome = true := by
  cases hx : c.execution with
  | idle =>
    simp only [step, hx]
    split <;> rfl
  | sending =>
    simp only [step, hx]
    split <;> rfl
  | starting | choosing | settling | closing => simp [step, hx]
  | awaiting | done | crashed => simp [stepsLeft, hx] at h

/-- An event that cannot meet the execution changes nothing. -/
theorem meet_cases (client : Client ι τ) (c : Call ι D) (e : Event) :
    (c.step client e = none ∧ c.meet client e = c) ∨ c.step client e = some (c.meet client e) := by
  unfold meet
  cases c.step client e with
  | none => exact .inl ⟨rfl, rfl⟩
  | some c' => exact .inr rfl

theorem stepsLeft_meet (client : Client ι τ) (c : Call ι D) :
    stepsLeft (c.meet client .next).execution ≤ stepsLeft c.execution - 1 := by
  rcases meet_cases client c .next with ⟨hnone, hmeet⟩ | hstep
  · by_cases hleft : stepsLeft c.execution = 0
    · have hzero : stepsLeft (c.meet client .next).execution = 0 := by rw [hmeet, hleft]
      omega
    · have hsome := step_isSome client hleft
      simp [hnone] at hsome
  · have hless := stepsLeft_rule (rule_of_step hstep)
    omega

theorem stepsLeft_repeat (client : Client ι τ) (n : Nat) (c : Call ι D) :
    stepsLeft (Nat.repeat (meet client .next) n c).execution ≤ stepsLeft c.execution - n := by
  induction n with
  | zero => exact Nat.le_refl _
  | succ n ih =>
    have hstep := stepsLeft_meet client (Nat.repeat (meet client .next) n c)
    unfold Nat.repeat
    omega

/-- Six steps are always enough. -/
theorem stepsLeft_advance (client : Client ι τ) (c : Call ι D) :
    stepsLeft (c.advance client).execution = 0 := by
  have hrepeat := stepsLeft_repeat client 6 c
  have hbound : stepsLeft c.execution ≤ 6 := by cases c.execution <;> simp [stepsLeft]
  unfold advance
  omega

/-- The call becomes another one by steps of its execution, in which it meets these events. -/
inductive Runs (client : Client ι τ) : Call ι D → List Event → Call ι D → Prop where
  | nil (c : Call ι D) : Runs client c [] c
  | cons {c m c' : Call ι D} {e : Event} {es : List Event} (step : c.step client e = some m)
    (rest : Runs client m es c') : Runs client c (e :: es) c'

namespace Runs

variable {client : Client ι τ} {c c' c'' : Call ι D} {es fs : List Event}

theorem append (h : Runs client c es c') (h' : Runs client c' fs c'') :
    Runs client c (es ++ fs) c'' := by
  induction h with
  | nil => exact h'
  | cons step _ ih => exact .cons step (ih h')

theorem alive (h : Runs client c es c') (hes : ∀ e ∈ es, e ≠ .crashed)
    (hc : c.execution ≠ .crashed) : c'.execution ≠ .crashed := by
  induction h with
  | nil => exact hc
  | cons step _ ih =>
    have hm := alive_rule (rule_of_step step) (hes _ List.mem_cons_self)
    exact ih (fun e he => hes e (List.mem_cons_of_mem _ he)) hm

theorem past (h : Runs client c es c') (hes : ∀ e ∈ es, e = .next)
    (hc : PastExchange c.execution) : PastExchange c'.execution := by
  induction h with
  | nil => exact hc
  | cons step _ ih =>
    obtain rfl := hes _ List.mem_cons_self
    exact ih (fun e he => hes e (List.mem_cons_of_mem _ he)) (past_rule (rule_of_step step) hc)

/-- An execution that is done goes on no more. -/
theorem of_done (h : Runs client c es c') (hdone : ∃ res, c.execution = .done res) : c' = c := by
  cases h with
  | nil => rfl
  | cons step => exact absurd hdone (not_done_of_rule (rule_of_step step))

end Runs

theorem runs_repeat (client : Client ι τ) (n : Nat) (c : Call ι D) :
    ∃ es, (∀ e ∈ es, e = .next) ∧ Runs client c es (Nat.repeat (meet client .next) n c) := by
  induction n with
  | zero => exact ⟨[], by simp, .nil c⟩
  | succ n ih =>
    obtain ⟨es, hes, hruns⟩ := ih
    unfold Nat.repeat
    rcases meet_cases client (Nat.repeat (meet client .next) n c) .next with ⟨-, hmeet⟩ | hstep
    · rw [hmeet]
      exact ⟨es, hes, hruns⟩
    · refine ⟨es ++ [.next], ?_, hruns.append (.cons hstep (.nil _))⟩
      intro e he
      exact (List.mem_append.mp he).elim (hes e) List.mem_singleton.mp

/-- Going on as far as possible is a run of steps, and ends where the execution rests. -/
theorem runs_advance (client : Client ι τ) {c : Call ι D} (halive : c.execution ≠ .crashed) :
    ∃ es, (∀ e ∈ es, e = .next) ∧ Runs client c es (c.advance client) ∧
      Rests (c.advance client).execution := by
  obtain ⟨es, hes, hruns⟩ := runs_repeat client 6 c
  have hnoCrash : ∀ e ∈ es, e ≠ Event.crashed := fun e he => by simp [hes e he]
  exact ⟨es, hes, hruns,
    rests_of_stepsLeft (stepsLeft_advance client c) (hruns.alive hnoCrash halive)⟩

/-- So is meeting an event and then going on. -/
theorem runs_meet_advance (client : Client ι τ) {c : Call ι D} {e : Event} (he : e ≠ .crashed)
    (halive : c.execution ≠ .crashed) :
    ∃ es, (∀ e ∈ es, e ≠ .crashed) ∧ Runs client c es ((c.meet client e).advance client) ∧
      Rests ((c.meet client e).advance client).execution := by
  have hmeet : ∃ es, (∀ e ∈ es, e ≠ .crashed) ∧ Runs client c es (c.meet client e) := by
    rcases meet_cases client c e with ⟨-, hsame⟩ | hstep
    · rw [hsame]
      exact ⟨[], by simp, .nil c⟩
    · exact ⟨[e], by simpa using he, .cons hstep (.nil _)⟩
  obtain ⟨es, hes, hruns⟩ := hmeet
  obtain ⟨fs, hfs, hruns', hrests⟩ := runs_advance client (hruns.alive hes halive)
  refine ⟨es ++ fs, ?_, hruns.append hruns', hrests⟩
  intro e he
  rcases List.mem_append.mp he with he | he
  · exact hes e he
  · simp [hfs e he]

theorem step_answered (client : Client ι τ) {c : Call ι D} (hx : c.execution = .awaiting)
    (outcome : Except TransportError HttpResponse) :
    c.step client (.answered outcome) =
      some { c with
        execution := .choosing (Exchange.answer client.codec c.operation outcome) } := by
  simp [step, hx]

theorem step_noticed (client : Client ι τ) {c : Call ι D} (hx : c.execution = .awaiting)
    (hs : c.lifecycle.signaled = true) :
    c.step client .noticed = some { c with execution := .settling (.error .canceled) } := by
  simp [step, hx, hs]

/-- An execution that does not wait any more comes to its result. -/
theorem done_of_past (client : Client ι τ) {c c' : Call ι D} {e : Event}
    (he : c.step client e = some c') (hpast : PastExchange c'.execution) :
    ∃ res, ((c.meet client e).advance client).execution = .done res := by
  have hmeet : c.meet client e = c' := by simp [meet, he]
  have halive : c'.execution ≠ .crashed := by
    intro hx
    simp [hx, PastExchange] at hpast
  obtain ⟨es, hes, hruns, hrests⟩ := runs_advance client halive
  rw [hmeet]
  exact hrests.done_of_past (hruns.past hes hpast)

/-- With the transport's help, every execution that is alive comes to a result. -/
theorem runs_to_done (client : Client ι τ) {c : Call ι D} (halive : c.execution ≠ .crashed)
    (outcome : Except TransportError HttpResponse) :
    ∃ es c' res, (∀ e ∈ es, e = .next ∨ e = .answered outcome) ∧ Runs client c es c' ∧
      c'.execution = .done res := by
  obtain ⟨es, hes, hruns, hrests⟩ := runs_advance client halive
  rcases hrests with hawaiting | ⟨res, hdone⟩
  · have hanswered := step_answered client hawaiting outcome
    have halive' := alive_rule (rule_of_step hanswered) (by simp)
    obtain ⟨fs, hfs, hruns', hrests'⟩ := runs_advance client halive'
    obtain ⟨res, hdone⟩ := hrests'.done_of_past (hruns'.past hfs trivial)
    refine ⟨es ++ .answered outcome :: fs, _, res, ?_, hruns.append (.cons hanswered hruns'), hdone⟩
    intro e he
    rcases List.mem_append.mp he with he | he
    · exact .inl (hes e he)
    · exact (List.mem_cons.mp he).symm.imp_left (hfs e)
  · exact ⟨es, _, res, fun e he => .inl (hes e he), hruns, hdone⟩

end Call

end GraphClient
