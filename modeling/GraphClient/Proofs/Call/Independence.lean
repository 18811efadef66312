import GraphClient.Call.Program
import GraphClient.Client.Minimal
import GraphClient.Proofs.Call.Rules
import Mathlib.Data.List.Induction
import Mathlib.Data.List.Nodup

/-!
# Calls are independent

A call of a program is compared with the only call of another program, which is made of the same
operation and takes the same steps while nothing else happens. The two differ in their numbers, and
nothing that a call does looks at its number. The deeds of all other calls are left out one by one.
-/

namespace GraphClient

variable {ι : Type} [Domains ι] {τ D : Type}

/-! What a call does never depends on its number. -/

def Call.withId (c : Call ι D) (id : Nat) : Call ι D := { c with id }

def Race.withId (r : Race ι D) (id : Nat) : Race ι D := { r with call := r.call.withId id }

def Issued.withId (c : Issued ι) (id : Nat) : Issued ι := { c with race := c.race.withId id }

theorem Call.step_withId (client : Client ι τ) (c : Call ι D) (id : Nat) (e : Event) :
    (c.withId id).step client e = (c.step client e).map fun c => c.withId id := by
  obtain ⟨old, op, lifecycle, execution, sent⟩ := c
  cases e with
  | next =>
    cases execution with
    | idle => by_cases h : lifecycle.phase = .canceled <;> simp [step, withId, phase, h]
    | sending => cases h : Exchange.request client op <;> simp [step, withId, h]
    | starting | awaiting | choosing | settling | closing | done | crashed => rfl
  | answered outcome => cases execution <;> simp [step, withId]
  | noticed => cases execution <;> cases h : lifecycle.signaled <;> simp [step, withId, h]
  | crashed => cases execution <;> simp [step, withId]

theorem Race.step_withId (client : Client ι τ) (r : Race ι D) (id : Nat) (t : Turn) :
    (r.withId id).step client t = (r.step client t).map fun r => r.withId id := by
  obtain ⟨c, cancels⟩ := r
  cases t with
  | handOver => cases h : c.execution <;> simp [step, withId, Call.withId, h, Call.markAdapted]
  | execution e =>
    simp only [step, withId, Call.step_withId, Option.map_map]
    rfl
  | newCancel => rfl
  | cancel i => cases h : cancels[i]? <;> simp [step, withId, h, Call.withId]

theorem Race.operation_of_rule {client : Client ι τ} {r r' : Race ι D} {t : Turn}
    (h : Rule client r t r') : r'.call.operation = r.call.operation := by
  cases h with
  | execution h => cases h <;> rfl
  | handOver | newCancel | cancel => rfl

theorem Race.id_of_rule {client : Client ι τ} {r r' : Race ι D} {t : Turn}
    (h : Rule client r t r') : r'.call.id = r.call.id := by
  cases h with
  | execution h => cases h <;> rfl
  | handOver | newCancel | cancel => rfl

namespace Issued

theorem step_withId (c : Issued ι) (id : Nat) (d : Deed) :
    (c.withId id).step d = (c.step d).map fun c => c.withId id := by
  obtain ⟨client, race⟩ := c
  have hturn : (withId ⟨client, race⟩ id).turn? d = turn? ⟨client, race⟩ d := by cases d <;> rfl
  simp only [step, hturn]
  cases h : turn? ⟨client, race⟩ d with
  | none => rfl
  | some t =>
    simp only [withId, Option.bind_some, Race.step_withId, Option.map_map]
    rfl

def making (c : Issued ι) : Making ι := ⟨c.client, c.race.call.operation, false⟩

/-- A duplicate is a new call of the operation. -/
theorem duplicate_eq (c : Issued ι) : c.duplicate = c.making.issue := rfl

/-- Whatever happens to a call, it keeps its operation and its number. -/
theorem kept_of_step {c c' : Issued ι} {d : Deed} (h : c.step d = some c') :
    c'.making = c.making ∧ c'.id = c.id := by
  obtain ⟨t, -, ht⟩ := Option.bind_eq_some_iff.mp h
  obtain ⟨race, hrace, rfl⟩ := Option.map_eq_some_iff.mp ht
  have hrule := Race.rule_of_step hrace
  exact ⟨by simp only [making, Race.operation_of_rule hrule], Race.id_of_rule hrule⟩

end Issued

namespace Making

def again (m : Making ι) : Making ι := { m with adapted := false }

theorem issue_withId (m : Making ι) (id id' : Nat) : (m.issue id).withId id' = m.issue id' := by
  obtain ⟨client, op, adapted⟩ := m
  cases adapted <;> rfl

theorem making_issue (m : Making ι) (id : Nat) : (m.issue id).making = m.again := by
  obtain ⟨client, op, adapted⟩ := m
  cases adapted <;> rfl

theorem id_issue (m : Making ι) (id : Nat) : (m.issue id).id = id := by
  obtain ⟨client, op, adapted⟩ := m
  cases adapted <;> rfl

end Making

namespace Program

/-- What the calls are made of after another act. A duplicate is made of the same as the call
duplicated, and is not handed over. -/
def extend (ms : List (Making ι)) : Act ι → List (Making ι)
  | .create m => ms ++ [m]
  | .duplicate i => ms ++ (ms[i]?.map Making.again).toList
  | .step _ _ => ms

def made (acts : List (Act ι)) : List (Making ι) := acts.foldl extend []

def own (i : Nat) : List (Act ι) → List Deed :=
  List.filterMap fun
    | .step j d => if j = i then some d else none
    | _ => none

theorem made_concat (acts : List (Act ι)) (a : Act ι) :
    made (acts ++ [a]) = extend (made acts) a := by
  simp [made]

theorem own_concat_step (acts : List (Act ι)) (i j : Nat) (d : Deed) :
    own i (acts ++ [.step j d]) = own i acts ++ if j = i then [d] else [] := by
  by_cases h : j = i <;> simp [own, h]

theorem own_concat_create (acts : List (Act ι)) (i : Nat) (m : Making ι) :
    own i (acts ++ [.create m]) = own i acts := by
  simp [own]

theorem own_concat_duplicate (acts : List (Act ι)) (i j : Nat) :
    own i (acts ++ [.duplicate j]) = own i acts := by
  simp [own]

theorem run_concat {p p' : Program ι} {acts : List (Act ι)} {a : Act ι}
    (h : p.run (acts ++ [a]) = some p') : ∃ q, p.run acts = some q ∧ q.step a = some p' := by
  rw [run_append] at h
  obtain ⟨q, hq, hp⟩ := Option.bind_eq_some_iff.mp h
  obtain ⟨p'', hp'', hrest⟩ := Option.bind_eq_some_iff.mp hp
  exact ⟨q, hq, Option.some.inj hrest ▸ hp''⟩

/-- A duplicate is a new call of what the call duplicated was made of. -/
theorem step_duplicate {p p' : Program ι} {i : Nat} (h : p.step (.duplicate i) = some p') :
    ∃ c, p.calls[i]? = some c ∧ p' = p.add c.making.issue := by
  obtain ⟨c, hc, hidle⟩ := Option.bind_eq_some_iff.mp h
  refine ⟨c, hc, ?_⟩
  rw [← c.duplicate_eq]
  cases hx : c.race.call.execution <;> simp only [hx, reduceCtorEq, Option.some.injEq] at hidle
  exact hidle.symm

structure Apart (acts : List (Act ι)) (p : Program ι) : Prop where
  length : p.calls.length = (made acts).length
  quiet : ∀ i, p.calls.length ≤ i → own i acts = []
  alone : ∀ (i : Nat) (c : Issued ι), p.calls[i]? = some c → ∃ m, (made acts)[i]? = some m ∧
    c.making = m.again ∧ ∀ id, (m.issue id).run (own i acts) = some (c.withId id)

theorem Apart.start (n : UInt64) : Apart [] (start n : Program ι) where
  length := rfl
  quiet _ _ := rfl
  alone i c h := by simp [Program.start] at h

/-- A new call stands where it stands alone, and the others do not notice. -/
theorem Apart.add {acts : List (Act ι)} {p : Program ι} (h : Apart acts p) {a : Act ι}
    (m : Making ι) (hmade : made (acts ++ [a]) = made acts ++ [m])
    (hown : ∀ i, own i (acts ++ [a]) = own i acts) : Apart (acts ++ [a]) (p.add m.issue) := by
  have hcalls : (p.add m.issue).calls = p.calls ++ [m.issue p.nextId.toNat] := rfl
  constructor
  · simp [hmade, hcalls, h.length]
  · intro i hi
    rw [hown]
    rw [hcalls, List.length_append] at hi
    exact h.quiet i (by omega)
  · intro i c hc
    rw [hown, hmade]
    rw [hcalls] at hc
    by_cases hi : i < p.calls.length
    · rw [List.getElem?_append_left hi] at hc
      rw [List.getElem?_append_left (h.length ▸ hi)]
      exact h.alone i c hc
    · obtain ⟨rfl⟩ : i = p.calls.length := by
        have := (List.getElem?_eq_some_iff.mp hc).1
        simp at this
        omega
      obtain rfl : m.issue p.nextId.toNat = c := by simpa using hc
      refine ⟨m, by simp [h.length], m.making_issue _, fun id => ?_⟩
      -- nothing can have happened to it yet, so it stands where it was issued
      rw [h.quiet _ (Nat.le_refl _), m.issue_withId]
      rfl

/-- What happens to one call happens to it alone, and to no other. -/
theorem Apart.step {acts : List (Act ι)} {p p' : Program ι} (h : Apart acts p) {a : Act ι}
    (hp : p.step a = some p') : Apart (acts ++ [a]) p' := by
  cases a with
  | create m =>
    obtain rfl := Option.some.inj hp
    exact h.add m (made_concat acts _) fun i => own_concat_create acts i m
  | duplicate j =>
    obtain ⟨c, hc, rfl⟩ := step_duplicate hp
    obtain ⟨m, hm, hmaking, -⟩ := h.alone j c hc
    rw [hmaking]
    refine h.add m.again ?_ fun i => own_concat_duplicate acts i j
    simp [made_concat, extend, hm]
  | step j d =>
    obtain ⟨c, hc, hstep⟩ := Option.bind_eq_some_iff.mp hp
    obtain ⟨c', hc', rfl⟩ := Option.map_eq_some_iff.mp hstep
    have hj : j < p.calls.length := (List.getElem?_eq_some_iff.mp hc).1
    have hmade : made (acts ++ [.step j d]) = made acts := made_concat acts _
    constructor
    · simp [hmade, h.length]
    · intro i hi
      have hne : j ≠ i := by
        simp at hi
        omega
      rw [own_concat_step, if_neg hne, List.append_nil]
      exact h.quiet i (by simpa using hi)
    · intro i x hx
      rw [hmade, own_concat_step]
      by_cases hij : j = i
      · subst hij
        obtain rfl : c' = x := by simpa [hj] using hx
        obtain ⟨m, hm, hmaking, halone⟩ := h.alone j c hc
        refine ⟨m, hm, (Issued.kept_of_step hc').1.trans hmaking, fun id => ?_⟩
        rw [if_pos rfl, Issued.run_append, halone id]
        simp [Issued.run, Issued.step_withId, hc']
      · rw [if_neg hij, List.append_nil]
        exact h.alone i x (by simpa [hij] using hx)

theorem apart_of_run {n : UInt64} {acts : List (Act ι)} {p : Program ι}
    (h : (start n).run acts = some p) : Apart acts p := by
  -- from the last act on, as `made` and `own` speak of all acts so far
  induction acts using List.reverseRecOn generalizing p with
  | nil => exact Option.some.inj h ▸ .start n
  | append_singleton acts a ih =>
    obtain ⟨q, hq, hp⟩ := run_concat h
    exact (ih hq).step hp

/-- A program of one call is the call. -/
theorem run_alone (c : Issued ι) (nextId : UInt64) (ds : List Deed) :
    (⟨[c], nextId⟩ : Program ι).run (ds.map (.step 0)) = (c.run ds).map fun c => ⟨[c], nextId⟩ := by
  induction ds generalizing c with
  | nil => rfl
  | cons d ds ih =>
    cases h : c.step d with
    | none => simp [run, step, Issued.run, h]
    | some c' => simp [run, step, Issued.run, h, ih]

structure Numbered (n : UInt64) (p : Program ι) : Prop where
  next : p.nextId = n + .ofNat p.calls.length
  given : p.calls.map Issued.id = (List.range p.calls.length).map fun i => (n + .ofNat i).toNat

theorem Numbered.start (n : UInt64) : Numbered n (start n : Program ι) where
  next := by simp [Program.start]
  given := rfl

theorem Numbered.add {n : UInt64} {p : Program ι} (h : Numbered n p) (m : Making ι) :
    Numbered n (p.add m.issue) where
  next := by
    have hnext := h.next
    simp [Program.add, hnext, UInt64.ofNat_add, UInt64.add_assoc]
  given := by
    have hid : (m.issue p.nextId.toNat).id = (n + .ofNat p.calls.length).toNat := by
      rw [m.id_issue, h.next]
    simp only [Program.add, List.map_append, List.length_append, List.map_cons, List.map_nil,
      List.length_cons, List.length_nil, List.range_succ, h.given, hid]

theorem Numbered.step {n : UInt64} {p p' : Program ι} (h : Numbered n p) {a : Act ι}
    (hp : p.step a = some p') : Numbered n p' := by
  cases a with
  | create m => exact Option.some.inj hp ▸ h.add m
  | duplicate j =>
    obtain ⟨c, -, rfl⟩ := step_duplicate hp
    exact h.add c.making
  | step j d =>
    obtain ⟨c, hc, hstep⟩ := Option.bind_eq_some_iff.mp hp
    obtain ⟨c', hc', rfl⟩ := Option.map_eq_some_iff.mp hstep
    have hids : (p.calls.set j c').map Issued.id = p.calls.map Issued.id := by
      obtain ⟨hj, rfl⟩ := List.getElem?_eq_some_iff.mp hc
      rw [List.map_set, (Issued.kept_of_step hc').2]
      simp [← List.map_set]
    exact ⟨by simpa using h.next, by simpa [hids] using h.given⟩

theorem numbered_of_run {n : UInt64} {p p' : Program ι} {acts : List (Act ι)} (h : Numbered n p)
    (hp : p.run acts = some p') : Numbered n p' := by
  induction acts generalizing p with
  | nil => exact Option.some.inj hp ▸ h
  | cons a acts ih =>
    obtain ⟨q, hq, hp'⟩ := Option.bind_eq_some_iff.mp hp
    exact ih (h.step hq) hp'

/-- As long as the counter has not run through, no number is given out twice. -/
theorem Numbered.nodup {n : UInt64} {p : Program ι} (h : Numbered n p)
    (hlength : p.calls.length < 18446744073709551616) : (p.calls.map Issued.id).Nodup := by
  rw [h.given]
  refine List.nodup_range.map_on ?_
  intro i hi j hj hij
  rw [List.mem_range] at hi hj
  simp only [UInt64.toNat_add, UInt64.toNat_ofNat'] at hij
  omega

/-- What a call comes to by what happens to it, under any number, when there is no other call. -/
def AsAlone (acts : List (Act ι)) (i : Nat) (c : Issued ι) : Prop :=
  ∃ m, (made acts)[i]? = some m ∧ ∀ id : UInt64, ∃ p,
    (start id).run (.create m :: (own i acts).map (.step 0)) = some p ∧
      p.calls = [c.withId id.toNat]

theorem Apart.asAlone {acts : List (Act ι)} {p : Program ι} (h : Apart acts p) {i : Nat}
    {c : Issued ι} (hc : p.calls[i]? = some c) : AsAlone acts i c := by
  obtain ⟨m, hm, -, halone⟩ := h.alone i c hc
  refine ⟨m, hm, fun id => ?_⟩
  have hrun := run_alone (m.issue id.toNat) (id + 1) (own i acts)
  rw [halone] at hrun
  exact ⟨_, hrun, rfl⟩

/-- The calls of a program are independent. At every moment of a run each of them is, up to its
number, what it is in a program that makes no other call and in which the same happens to it: in its
phase, in what its cancels answered, in the requests it sent and in its result. A duplicate can be
replaced by a new call of what the call duplicated was made of, whatever happens to either. As long
as the counter has not run through, the calls have different numbers. -/
theorem calls_independent (n : UInt64) (acts : List (Act ι)) (p : Program ι)
    (h : (start n).run acts = some p) :
    (∀ before after, acts = before ++ after → ∃ q, (start n).run before = some q ∧
      q.calls.length = (made before).length ∧
      ∀ i c, q.calls[i]? = some c → AsAlone before i c) ∧
    (∀ before i after, acts = before ++ .duplicate i :: after → ∃ m, (made before)[i]? = some m ∧
      (start n).run (before ++ .create m.again :: after) = some p) ∧
    (p.calls.length < 18446744073709551616 → (p.calls.map Issued.id).Nodup) := by
  refine ⟨?_, ?_, (numbered_of_run (.start n) h).nodup⟩
  · rintro before after rfl
    rw [run_append] at h
    obtain ⟨q, hq, -⟩ := Option.bind_eq_some_iff.mp h
    have hapart := apart_of_run hq
    exact ⟨q, hq, hapart.length, fun i c hc => hapart.asAlone hc⟩
  · rintro before i after rfl
    rw [run_append] at h
    obtain ⟨q, hq, hafter⟩ := Option.bind_eq_some_iff.mp h
    obtain ⟨q', hq', hafter'⟩ := Option.bind_eq_some_iff.mp hafter
    obtain ⟨c, hc, rfl⟩ := step_duplicate hq'
    obtain ⟨m, hm, hmaking, -⟩ := (apart_of_run hq).alone i c hc
    refine ⟨m, hm, ?_⟩
    rw [run_append, hq, ← hmaking]
    exact hafter'

/-- A call is canceled while its duplicate waits for the transport, which then gives up. -/
theorem calls_independent_duplicate :
    let m : Making TextDomain :=
      ⟨{ Client.minimal with transport := fun _ => .error .timeout }, .minimal, true⟩
    let acts : List (Act TextDomain) :=
      [.create m, .duplicate 0, .step 1 .next, .step 0 .newCancel, .step 1 .next, .step 1 .next,
        .step 0 (.cancel 0), .step 0 (.cancel 0), .step 0 (.cancel 0), .step 1 .answered,
        .step 1 .next, .step 1 .next, .step 1 .next]
    ∃ p, (start 1).run acts = some p ∧
      p.calls.map (fun c => (c.id, c.race.call.phase, c.race.cancels)) =
        [(1, .canceled, [.done true]), (2, .failed, [])] ∧
      (p.calls.map Issued.id).Nodup ∧
      ∀ c, p.calls[1]? = some c → AsAlone acts 1 c := by
  intro m acts
  obtain ⟨p, hp, hcalls⟩ : ∃ p, (start 1).run acts = some p ∧
      p.calls.map (fun c => (c.id, c.race.call.phase, c.race.cancels)) =
        [(1, .canceled, [.done true]), (2, .failed, [])] := ⟨_, rfl, rfl⟩
  obtain ⟨hmoments, -, hnumbers⟩ := calls_independent 1 acts p hp
  obtain ⟨q, hq, -, halone⟩ := hmoments acts [] (by simp)
  obtain rfl := Option.some.inj (hp.symm.trans hq)
  have hlength : p.calls.length = 2 := by simpa using congrArg List.length hcalls
  exact ⟨p, hp, hcalls, hnumbers (by omega), fun c hc => halone 1 c hc⟩

end Program

end GraphClient
