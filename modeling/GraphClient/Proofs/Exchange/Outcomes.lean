import GraphClient.Proofs.Exchange.Accounting

/-!
# The two routes of server errors

Errors of the server reach a caller in one of two ways: the call fails with them where its data does
not fit, or it succeeds and the response keeps them, so that asking for the data fails. Whoever asks
for the data cannot tell which way they came.
-/

namespace GraphClient

variable {ι : Type} [Domains ι] {τ D E : Type}

namespace Response

theorem toData_of_errors {r : Response D} (h : r.errors ≠ []) :
    r.toData = .error (.graphql r.errors) := by
  have herrors : r.errors.isEmpty = false := by simpa using h
  simp [toData, toResult, herrors, bind, Except.bind]

theorem toData_of_data {r : Response D} {d : D} (h : r.errors = []) (hd : r.data = some d) :
    r.toData = .ok d := by
  have herrors : r.errors.isEmpty = true := by simpa using h
  simp [toData, toResult, herrors, hd, bind, Except.bind]

theorem toData_of_no_data {r : Response D} (h : r.errors = []) (hd : r.data = none) :
    r.toData = .error (.decode (.missingField "data")) := by
  have herrors : r.errors.isEmpty = true := by simpa using h
  simp [toData, toResult, herrors, hd, bind, Except.bind]

/-- A response is one of success exactly if its data can be taken. -/
theorem isSuccess_iff_toData (r : Response D) : r.isSuccess = true ↔ ∃ d, r.toData = .ok d := by
  by_cases h : r.errors = []
  · cases hd : r.data with
    | some d => simp [toData_of_data h hd, isSuccess, h, hd]
    | none => simp [toData_of_no_data h hd, isSuccess, hd]
  · have herrors : r.errors.isEmpty = false := by simpa using h
    simp [toData_of_errors h, isSuccess, herrors]

/-- Transforming the data keeps the errors, and with them what taking the data fails with. -/
theorem toData_map (f : D → E) (r : Response D) : (r.map f).toData = r.toData.map f := by
  by_cases h : r.errors = []
  · have hmap : (r.map f).errors = [] := h
    cases hd : r.data with
    | some d =>
      have hdmap : (r.map f).data = some (f d) := by simp [map, hd]
      rw [toData_of_data h hd, toData_of_data hmap hdmap]
      rfl
    | none =>
      have hdmap : (r.map f).data = none := by simp [map, hd]
      rw [toData_of_no_data h hd, toData_of_no_data hmap hdmap]
      rfl
  · have hmap : (r.map f).errors ≠ [] := h
    rw [toData_of_errors h, toData_of_errors hmap]
    rfl

structure KeepsRest (f : D → E) (r : Response D) : Prop where
  data : (r.map f).data = r.data.map f
  toData : (r.map f).toData = r.toData.map f
  toResult : (r.map f).toResult = r.toResult.map (map f)
  isSuccess : (r.map f).isSuccess = r.isSuccess
  hasErrors : (r.map f).hasErrors = r.hasErrors
  errorMessage : (r.map f).errorMessage? = r.errorMessage?
  operationName : (r.map f).operationName = r.operationName
  errors : (r.map f).errors = r.errors
  extensions : (r.map f).extensions = r.extensions

theorem keepsRest (f : D → E) (r : Response D) : r.KeepsRest f where
  data := rfl
  toData := toData_map f r
  toResult := by
    by_cases h : r.errors.isEmpty = true <;> simp [Response.toResult, map, h, Except.map]
  isSuccess := by simp [Response.isSuccess, map]
  hasErrors := rfl
  errorMessage := rfl
  operationName := rfl
  errors := rfl
  extensions := rfl

/-- The message of a response with errors joins their messages, and so does the text of the error
that taking its data fails with. -/
theorem errorMessage?_of_errors {r : Response D} (h : r.errors ≠ []) :
    r.errorMessage? = some ("; ".intercalate (r.errors.map (·.message))) ∧
      (CallError.graphql r.errors).message =
        "GraphQL error: " ++ "; ".intercalate (r.errors.map (·.message)) := by
  have herrors : r.errors.isEmpty = false := by simpa using h
  exact ⟨by simp [errorMessage?, herrors, ServerError.joinMessages], rfl⟩

end Response

namespace Exchange

/-- The result of every execution of an operation that gets this outcome and loses the sender to no
cancel. -/
structure Returns (client : Client ι τ) (op : Operation ι D)
    (outcome : Except TransportError HttpResponse) (res : CallResult D) : Prop where
  undisturbed : ∀ c : Call ι D, c.operation = op → c.execution = .idle → c.isPending = true →
    c.phase ≠ .canceled → (c.carryOut client outcome).result? = some res
  raced : ∀ id turns r res', (Race.start (.fresh id op)).run client turns = some r →
    r.call.result? = some res' → (∀ c ∈ r.cancels, c.isWinner = false) →
    (∀ o, .execution (.answered o) ∈ turns → o = outcome) → res' = res

/-- Executions that are not canceled return what the exchange comes to. -/
theorem returns_run (client : Client ι τ) (op : Operation ι D)
    (outcome : Except TransportError HttpResponse) :
    Returns client op outcome (run client op fun _ => outcome) := by
  constructor
  · rintro c rfl hx ha hp
    exact Call.result_carryOut hx ha hp outcome
  · intro id turns r res' hturns hres hnone honly
    have hdue := ((Race.sound_of_run hturns).done hres).2.2
    have hcomes := hdue.1 (r.winners_eq_zero_iff.mpr hnone)
    exact hcomes.eq_run honly

def Yields (client : Client ι τ) (op : Operation ι D) (e : Envelope) (d : D) : Prop :=
  ∃ v, e.data = some v ∧ v ≠ .null ∧ op.mapper.map (.root client.codec v) = .ok d

inductive Lacks (client : Client ι τ) (op : Operation ι D) (e : Envelope) : DecodeError → Prop
  | dataless (absent : e.data = none ∨ e.data = some .null) :
    Lacks client op e (.missingField "data")
  | unmapped {v : Json} {why : DecodeError} (data : e.data = some v) (present : v ≠ .null)
    (map : op.mapper.map (.root client.codec v) = .error why) : Lacks client op e why

/-- What a caller comes to who takes the data of the response. -/
abbrev dataOf (res : CallResult D) : Except CallError D := res.bind Response.toData

/-- With errors of the server, both routes end with all of them. -/
theorem dataOf_of_errors {client : Client ι τ} {op : Operation ι D} {r : HttpResponse}
    {e : Envelope} {vars : Entries Json} (hv : client.codec.encodeVariables op.vars = .ok vars)
    (hb : Brings r e) (h : e.errors ≠ []) :
    dataOf (run client op fun _ => .ok r) = .error (.graphql e.errors) := by
  obtain ⟨ending, hends⟩ := exists_ends client op (.ok r)
  rw [run_of_ends hends]
  have hkept : ∀ data : Option D, Response.toData ⟨op.name, data, e.errors, e.extensions⟩ =
      .error (.graphql e.errors) := fun _ => Response.toData_of_errors h
  rcases hends.of_brings hv hb with ⟨rfl, -⟩ | ⟨v, -, -, ⟨d, -, rfl⟩ | ⟨why, -, rfl⟩⟩
  · exact hkept none
  · exact hkept (some d)
  · simp only [Ending.result, h, if_false]
    rfl

/-- Without errors of the server, the data and the mapper tell what the caller comes to. -/
theorem dataOf_of_no_errors {client : Client ι τ} {op : Operation ι D} {r : HttpResponse}
    {e : Envelope} {vars : Entries Json} (hv : client.codec.encodeVariables op.vars = .ok vars)
    (hb : Brings r e) (h : e.errors = []) :
    (∃ d, Yields client op e d ∧ dataOf (run client op fun _ => .ok r) = .ok d) ∨
      ∃ why, Lacks client op e why ∧
        dataOf (run client op fun _ => .ok r) = .error (.decode why) := by
  obtain ⟨ending, hends⟩ := exists_ends client op (.ok r)
  rw [run_of_ends hends]
  rcases hends.of_brings hv hb with ⟨rfl, habsent⟩ | ⟨v, hd, hn, ⟨d, hm, rfl⟩ | ⟨why, hm, rfl⟩⟩
  · exact .inr ⟨_, .dataless habsent, Response.toData_of_no_data h rfl⟩
  · exact .inl ⟨d, ⟨v, hd, hn, hm⟩, Response.toData_of_data h rfl⟩
  · refine .inr ⟨why, .unmapped hd hn hm, ?_⟩
    simp only [Ending.result, h, if_true]
    rfl

/-- An envelope yields one value at most, or lacks it for one reason. -/
theorem Yields.unique {client : Client ι τ} {op : Operation ι D} {e : Envelope} {d d' : D}
    (h : Yields client op e d) (k : Yields client op e d') : d = d' := by
  obtain ⟨v, hd, -, hm⟩ := h
  obtain ⟨v', hd', -, hm'⟩ := k
  obtain rfl := Option.some.inj (hd.symm.trans hd')
  exact Except.ok.inj (hm.symm.trans hm')

theorem Yields.not_lacks {client : Client ι τ} {op : Operation ι D} {e : Envelope} {d : D}
    {why : DecodeError} (h : Yields client op e d) : ¬Lacks client op e why := by
  obtain ⟨v, hd, hn, hm⟩ := h
  rintro (habsent | ⟨hd', -, hm'⟩)
  · rcases habsent with habsent | habsent <;> simp [hd, hn] at habsent
  · obtain rfl := Option.some.inj (hd.symm.trans hd')
    simp [hm] at hm'

theorem Lacks.unique {client : Client ι τ} {op : Operation ι D} {e : Envelope}
    {why why' : DecodeError} (h : Lacks client op e why) (k : Lacks client op e why') :
    why = why' := by
  cases h with
  | dataless habsent =>
    cases k with
    | dataless => rfl
    | unmapped hd hn => rcases habsent with habsent | habsent <;> simp [hd, hn] at habsent
  | unmapped hd hn hm =>
    cases k with
    | dataless habsent => rcases habsent with habsent | habsent <;> simp [hd, hn] at habsent
    | unmapped hd' _ hm' =>
      obtain rfl := Option.some.inj (hd.symm.trans hd')
      exact Except.error.inj (hm.symm.trans hm')

/-- The two routes of server errors agree. Of a response whose body is an envelope, every execution
that is not canceled returns one result. Taking the data fails with all errors of the server where
there are any, whatever the data and the mapper are, and the text of that failure is the message of
any response that keeps these errors: all of their messages, joined. Where there are none, it gives
what the mapper makes of the data, or fails for want of it. -/
theorem server_errors_agree (client : Client ι τ) (op : Operation ι D) (r : HttpResponse)
    (e : Envelope) (vars : Entries Json) (hv : client.codec.encodeVariables op.vars = .ok vars)
    (hb : Brings r e) :
    ∃ res : CallResult D, Returns client op (.ok r) res ∧
      (e.errors ≠ [] →
        dataOf res = .error (.graphql e.errors) ∧
          ∀ kept : Response D, kept.errors = e.errors →
            kept.errorMessage? = some ("; ".intercalate (e.errors.map (·.message))) ∧
              (CallError.graphql e.errors).message =
                "GraphQL error: " ++ "; ".intercalate (e.errors.map (·.message))) ∧
      (e.errors = [] →
        (∀ d, dataOf res = .ok d ↔ Yields client op e d) ∧
          (∀ why, dataOf res = .error why ↔ ∃ cause, Lacks client op e cause ∧
            why = .decode cause)) ∧
      (∀ response, res = .ok response →
        (response.isSuccess = true ↔ ∃ d, response.toData = .ok d) ∧
          ∀ (E : Type) (f : D → E), response.KeepsRest f) := by
  refine ⟨_, returns_run client op (.ok r), ?_, ?_, ?_⟩
  · intro h
    refine ⟨dataOf_of_errors hv hb h, ?_⟩
    intro kept hkept
    rw [← hkept]
    exact Response.errorMessage?_of_errors (hkept ▸ h)
  · intro h
    rcases dataOf_of_no_errors hv hb h with ⟨d, hd, hdata⟩ | ⟨cause, hcause, hdata⟩
    · rw [hdata]
      refine ⟨fun d' => ⟨?_, ?_⟩, fun why => ⟨?_, ?_⟩⟩
      · intro hd'
        exact Except.ok.inj hd' ▸ hd
      · intro hd'
        rw [hd.unique hd']
      · intro hwhy
        cases hwhy
      · rintro ⟨cause, hcause, -⟩
        exact absurd hcause hd.not_lacks
    · rw [hdata]
      refine ⟨fun d => ⟨?_, ?_⟩, fun why => ⟨?_, ?_⟩⟩
      · intro hd
        cases hd
      · intro hd
        exact absurd hcause hd.not_lacks
      · intro hwhy
        exact ⟨cause, hcause, (Except.error.inj hwhy).symm⟩
      · rintro ⟨cause', hcause', rfl⟩
        rw [hcause.unique hcause']
  · intro response _
    exact ⟨response.isSuccess_iff_toData, fun E f => response.keepsRest f⟩

/-- Data that the mapper does not take beside an error of the server: the caller hears of the error,
not of the mapper. -/
theorem server_errors_agree_unfit :
    let tree : Json := .object
      [("data", .object [("ping", .null)]),
        ("errors", .array [.object [("message", .string "no ping")]])]
    let e : Envelope :=
      { data := some (.object [("ping", .null)]), errors := [{ message := "no ping" }] }
    let op : Operation TextDomain String :=
      { document := "", name := "", mapper := { map := fun r => (r.field "ping").string } }
    Client.minimal.codec.encodeVariables op.vars = .ok [] ∧
      Brings ⟨200, .empty, tree.bytes⟩ e ∧
      ∃ res, Returns Client.minimal op (.ok ⟨200, .empty, tree.bytes⟩) res ∧
        dataOf res = .error (.graphql [{ message := "no ping" }]) := by
  intro tree e op
  have hints : tree.IsIntegral := by
    simp [tree, Json.IsIntegral, Json.HasIntegralMembers, Json.AreIntegral]
  have hb : Brings ⟨200, .empty, tree.bytes⟩ e :=
    .of_bytes hints (by decide) rfl
  obtain ⟨res, hreturns, herrors, -⟩ := server_errors_agree Client.minimal op _ e [] rfl hb
  exact ⟨rfl, hb, res, hreturns, (herrors (by simp [e])).1⟩

end Exchange

end GraphClient
