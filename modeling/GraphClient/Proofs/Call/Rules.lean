import GraphClient.Call.Race

/-!
# The rules of executions and races

Each place an execution can stand at has its own rules: what must hold for a step, and everything
the step changes. The turns of a race have rules of the same kind. Proofs about runs go through the
rules and leave the step functions closed.
-/

namespace GraphClient

variable {ι : Type} [Domains ι] {τ D : Type}

namespace Lifecycle

@[simp] theorem armed_advance (l : Lifecycle) (p q : Phase) : (l.advance p q).armed = l.armed := by
  unfold advance
  split <;> rfl

@[simp] theorem signaled_advance (l : Lifecycle) (p q : Phase) :
    (l.advance p q).signaled = l.signaled := by
  unfold advance
  split <;> rfl

end Lifecycle

namespace Call

@[simp] theorem armed_close (l : Lifecycle) (res : CallResult D) :
    (close l res).armed = l.armed := by
  unfold close
  split <;> first | rfl | exact l.armed_advance _ _

@[simp] theorem signaled_close (l : Lifecycle) (res : CallResult D) :
    (close l res).signaled = l.signaled := by
  unfold close
  split <;> first | rfl | exact l.signaled_advance _ _

/-- The exchange is under way, or over and not yet chosen: a cancel can still be noticed. -/
def CanNotice : Execution D → Prop
  | .sending | .awaiting | .choosing _ => True
  | _ => False

/-- The transport or the mapper is at work, or about to be. -/
def CanCrash : Execution D → Prop
  | .sending | .awaiting => True
  | _ => False

/-- What one step does to a call, by what the execution meets. -/
inductive Rule (client : Client ι τ) (c : Call ι D) : Event → Call ι D → Prop
  | giveUp (place : c.execution = .idle) (seen : c.phase = .canceled) :
    Rule client c .next { c with execution := .done (.error .canceled) }
  | goOn (place : c.execution = .idle) (seen : c.phase ≠ .canceled) :
    Rule client c .next { c with execution := .starting }
  | enter (place : c.execution = .starting) :
    Rule client c .next
      { c with lifecycle := c.lifecycle.enter .executing, execution := .sending }
  | refuse {why : EncodeError} (place : c.execution = .sending)
    (request : Exchange.request client c.operation = .error why) :
    Rule client c .next { c with execution := .choosing (.error (.encode why)) }
  | send {q : HttpRequest} (place : c.execution = .sending)
    (request : Exchange.request client c.operation = .ok q) :
    Rule client c .next { c with execution := .awaiting, sent := c.sent ++ [q] }
  | choose {res : CallResult D} (place : c.execution = .choosing res) :
    Rule client c .next { c with execution := .settling res }
  | keep {res : CallResult D} (place : c.execution = .settling res)
    (armed : c.lifecycle.armed = true) :
    Rule client c .next { c with lifecycle := c.lifecycle.disarm, execution := .closing res }
  | yield {res : CallResult D} (place : c.execution = .settling res)
    (armed : c.lifecycle.armed = false) :
    Rule client c .next
      { c with lifecycle := c.lifecycle.disarm, execution := .closing (.error .canceled) }
  | close {res : CallResult D} (place : c.execution = .closing res) :
    Rule client c .next { c with lifecycle := Call.close c.lifecycle res, execution := .done res }
  | answer (outcome : Except TransportError HttpResponse) (place : c.execution = .awaiting) :
    Rule client c (.answered outcome)
      { c with execution := .choosing (Exchange.answer client.codec c.operation outcome) }
  | notice (place : CanNotice c.execution) (signaled : c.lifecycle.signaled = true) :
    Rule client c .noticed { c with execution := .settling (.error .canceled) }
  | crash (place : CanCrash c.execution) : Rule client c .crashed { c with execution := .crashed }

/-- Every step of the execution is an instance of a rule. -/
theorem rule_of_step {client : Client ι τ} {c c' : Call ι D} {e : Event}
    (h : c.step client e = some c') : Rule client c e c' := by
  cases e with
  | next =>
    cases hx : c.execution with
    | idle =>
      simp only [step, hx] at h
      by_cases hp : c.phase = .canceled
      · simp only [hp, if_true, Option.some.injEq] at h
        exact h ▸ .giveUp hx hp
      · simp only [hp, if_false, Option.some.injEq] at h
        exact h ▸ .goOn hx hp
    | starting =>
      simp only [step, hx, Option.some.injEq] at h
      exact h ▸ .enter hx
    | sending =>
      simp only [step, hx] at h
      cases hq : Exchange.request client c.operation with
      | error why =>
        simp only [hq, Option.some.injEq] at h
        exact h ▸ .refuse hx hq
      | ok q =>
        simp only [hq, Option.some.injEq] at h
        exact h ▸ .send hx hq
    | choosing res =>
      simp only [step, hx, Option.some.injEq] at h
      exact h ▸ .choose hx
    | settling res =>
      simp only [step, hx, Option.some.injEq] at h
      cases ha : c.lifecycle.armed with
      | true =>
        simp only [ha, if_true] at h
        exact h ▸ .keep hx ha
      | false =>
        simp only [ha, Bool.false_eq_true, if_false] at h
        exact h ▸ .yield hx ha
    | closing res =>
      simp only [step, hx, Option.some.injEq] at h
      exact h ▸ .close hx
    | awaiting => simp [step, hx] at h
    | done res => simp [step, hx] at h
    | crashed => simp [step, hx] at h
  | answered outcome =>
    cases hx : c.execution <;> simp only [step, hx, reduceCtorEq, Option.some.injEq] at h
    exact h ▸ .answer outcome hx
  | noticed =>
    by_cases hs : c.lifecycle.signaled = true
    · cases hx : c.execution <;>
        simp only [step, hx, hs, if_true, reduceCtorEq, Option.some.injEq] at h <;>
        exact h ▸ .notice (by simp [hx, CanNotice]) hs
    · cases hx : c.execution <;> simp [step, hx, hs] at h
  | crashed =>
    cases hx : c.execution <;> simp only [step, hx, reduceCtorEq, Option.some.injEq] at h <;>
      exact h ▸ .crash (by simp [hx, CanCrash])

/-- Nothing follows the end of an execution. -/
theorem not_done_of_rule {client : Client ι τ} {c c' : Call ι D} {e : Event}
    (h : Rule client c e c') : ¬∃ res, c.execution = .done res := by
  rintro ⟨res, hx⟩
  cases h with
  | answer outcome place => simp [hx] at place
  | notice place => simp [hx, CanNotice] at place
  | crash place => simp [hx, CanCrash] at place
  | enter place | choose place | close place => simp [hx] at place
  | giveUp place | goOn place | refuse place | send place | keep place | yield place =>
    simp [hx] at place

/-- A result is that of the last place an execution can stand at. -/
theorem execution_of_result {c : Call ι D} {res : CallResult D} (h : c.result? = some res) :
    c.execution = .done res := by
  unfold result? at h
  split at h
  · rename_i hx
    rw [hx, Option.some.inj h]
  · cases h

end Call

namespace Race

inductive Rule (client : Client ι τ) (r : Race ι D) : Turn → Race ι D → Prop
  | handOver (place : r.call.execution = .idle) :
    Rule client r .handOver { r with call := r.call.markAdapted }
  | execution {e : Event} {c : Call ι D} (rule : Call.Rule client r.call e c) :
    Rule client r (.execution e) { r with call := c }
  | newCancel : Rule client r .newCancel { r with cancels := r.cancels ++ [.taking] }
  | cancel {i : Nat} {c : Cancel} (place : r.cancels[i]? = some c) :
    Rule client r (.cancel i)
      { call := { r.call with lifecycle := (c.step r.call.lifecycle).2 }
        cancels := r.cancels.set i (c.step r.call.lifecycle).1 }

/-- Every turn is an instance of a rule. -/
theorem rule_of_step {client : Client ι τ} {r r' : Race ι D} {t : Turn}
    (h : r.step client t = some r') : Rule client r t r' := by
  cases t with
  | handOver =>
    cases hx : r.call.execution <;> simp only [step, hx, reduceCtorEq, Option.some.injEq] at h
    exact h ▸ .handOver hx
  | execution e =>
    obtain ⟨c, hc, rfl⟩ := Option.map_eq_some_iff.mp h
    exact .execution (Call.rule_of_step hc)
  | newCancel =>
    obtain rfl := Option.some.inj h
    exact .newCancel
  | cancel i =>
    obtain ⟨c, hc, rfl⟩ := Option.map_eq_some_iff.mp h
    exact .cancel hc

/-- What every turn keeps, a whole run keeps. -/
theorem run_induction {client : Client ι τ} {P : Race ι D → Prop}
    (step : ∀ {r r' : Race ι D} {t : Turn}, Rule client r t r' → P r → P r')
    {r r' : Race ι D} {turns : List Turn} (hr : r.run client turns = some r') (h : P r) : P r' := by
  induction turns generalizing r with
  | nil => exact Option.some.inj hr ▸ h
  | cons t rest ih =>
    obtain ⟨m, ht, hm⟩ := Option.bind_eq_some_iff.mp hr
    exact ih hm (step (rule_of_step ht) h)

end Race

end GraphClient
