import GraphClient.Client.Minimal
import GraphClient.Proofs.Call.Cancellation
import GraphClient.Proofs.Json.Values
import GraphClient.Proofs.Response.Meaning

/-!
# What becomes of an exchange

The ways in which an exchange can end are listed with the conditions of each, in the order in which
they are looked at, and the conditions exclude each other. What a body brings is read off its JSON
value member by member, without the reader of responses. The errors of the server are all that a
call reports besides its own, each of them and in their order.
-/

namespace GraphClient

variable {ι : Type} [Domains ι] {τ D : Type}

namespace Exchange

inductive Ending (D : Type) where
  | unencodable (why : EncodeError)
  | failed (why : TransportError)
  | refused (status : Nat) (body : Option String)
  | unparsable (why : JsonError)
  | misshapen (why : Mismatch)
  | dataless (e : Envelope)
  | mapped (e : Envelope) (d : D)
  | unmapped (e : Envelope) (why : DecodeError)

namespace Ending

def result (name : String) : Ending D → CallResult D
  | unencodable why => .error (.encode why)
  | failed why => .error (.transport why)
  | refused status body => .error (.httpStatus status body)
  | unparsable why => .error (.decode (.json "" why))
  | misshapen why => .error (.decode (.json "" (.ofMismatch why)))
  | dataless e => .ok ⟨name, none, e.errors, e.extensions⟩
  | mapped e d => .ok ⟨name, some d, e.errors, e.extensions⟩
  | unmapped e why => if e.errors = [] then .error (.decode why) else .error (.graphql e.errors)

def serverErrors : Ending D → List ServerError
  | dataless e | mapped e _ | unmapped e _ => e.errors
  | unencodable _ | failed _ | refused _ _ | unparsable _ | misshapen _ => []

end Ending

def passedOn : CallResult D → List ServerError
  | .ok r => r.errors
  | .error (.graphql errors) => errors
  | .error _ => []

def Accepted (r : HttpResponse) : Prop := 200 ≤ r.status ∧ r.status ≤ 299

structure Brings (r : HttpResponse) (e : Envelope) : Prop where
  accepted : Accepted r
  body : ∃ tree, Json.parse r.body = .ok tree ∧ tree.SaysEnvelope e

/-- The endings that apply where the transport comes back with an outcome. -/
inductive Ends (client : Client ι τ) (op : Operation ι D) :
    Except TransportError HttpResponse → Ending D → Prop
  | unencodable {outcome : Except TransportError HttpResponse} {why : EncodeError}
    (encode : client.codec.encodeVariables op.vars = .error why) :
    Ends client op outcome (.unencodable why)
  | failed {vars : Entries Json} {why : TransportError}
    (encode : client.codec.encodeVariables op.vars = .ok vars) :
    Ends client op (.error why) (.failed why)
  | refused {vars : Entries Json} {r : HttpResponse} {body : Option String}
    (encode : client.codec.encodeVariables op.vars = .ok vars) (status : ¬Accepted r)
    (text : ∀ s, body = some s ↔ s.toUTF8 = r.body) :
    Ends client op (.ok r) (.refused r.status body)
  | unparsable {vars : Entries Json} {r : HttpResponse} {why : JsonError}
    (encode : client.codec.encodeVariables op.vars = .ok vars) (status : Accepted r)
    (parse : Json.parse r.body = .error why) :
    Ends client op (.ok r) (.unparsable why)
  | misshapen {vars : Entries Json} {r : HttpResponse} {tree : Json} {why : Mismatch}
    (encode : client.codec.encodeVariables op.vars = .ok vars) (status : Accepted r)
    (parse : Json.parse r.body = .ok tree) (silent : ∀ e, ¬tree.SaysEnvelope e)
    (read : Envelope.shape.read tree = .error why) : Ends client op (.ok r) (.misshapen why)
  | dataless {vars : Entries Json} {r : HttpResponse} {e : Envelope}
    (encode : client.codec.encodeVariables op.vars = .ok vars) (brings : Brings r e)
    (absent : e.data = none ∨ e.data = some .null) :
    Ends client op (.ok r) (.dataless e)
  | mapped {vars : Entries Json} {r : HttpResponse} {e : Envelope} {v : Json} {d : D}
    (encode : client.codec.encodeVariables op.vars = .ok vars) (brings : Brings r e)
    (data : e.data = some v) (present : v ≠ .null)
    (map : op.mapper.map (.root client.codec v) = .ok d) :
    Ends client op (.ok r) (.mapped e d)
  | unmapped {vars : Entries Json} {r : HttpResponse} {e : Envelope} {v : Json}
    {why : DecodeError}
    (encode : client.codec.encodeVariables op.vars = .ok vars) (brings : Brings r e)
    (data : e.data = some v) (present : v ≠ .null)
    (map : op.mapper.map (.root client.codec v) = .error why) :
    Ends client op (.ok r) (.unmapped e why)

/-- A result passes on what the server reported, neither more nor less. -/
theorem passedOn_result (name : String) (ending : Ending D) :
    passedOn (ending.result name) = ending.serverErrors := by
  cases ending with
  | unmapped e why =>
    by_cases h : e.errors = []
    · simp [Ending.result, Ending.serverErrors, passedOn, h]
    · simp [Ending.result, Ending.serverErrors, passedOn, h]
  | unencodable | failed | refused | unparsable | misshapen | dataless | mapped => rfl

/-- The text of a body is there exactly if the body is the UTF-8 of a text. -/
theorem text?_eq_some_iff (r : HttpResponse) (s : String) :
    r.text? = some s ↔ s.toUTF8 = r.body := by
  unfold HttpResponse.text? String.fromUTF8?
  constructor
  · intro h
    split at h
    · rw [← Option.some.inj h]
      rfl
    · cases h
  · intro h
    rw [← h]
    exact dif_pos s.isValidUTF8

theorem isSuccess_iff (r : HttpResponse) : r.isSuccess = true ↔ Accepted r := by
  simp only [HttpResponse.isSuccess, Accepted, Bool.and_eq_true, decide_eq_true_eq]
  omega

/-- What is read from the body of a response is what it brings. -/
theorem Brings.of_read {r : HttpResponse} {tree : Json} {e : Envelope} (hr : Accepted r)
    (hp : Json.parse r.body = .ok tree) (h : Envelope.shape.read tree = .ok e) : Brings r e :=
  ⟨hr, tree, hp, (Envelope.read_iff tree e).mp h⟩

/-- The bytes of a value bring what is read from the value. -/
theorem Brings.of_bytes {tree : Json} {e : Envelope} (hints : tree.IsIntegral)
    (hdepth : tree.depth ≤ Scan.maxDepth) (h : Envelope.shape.read tree.canonical = .ok e) :
    Brings ⟨200, .empty, tree.bytes⟩ e :=
  .of_read (by simp [Accepted]) (Json.parse_bytes hints hdepth) h

/-- A response brings at most one envelope. -/
theorem Brings.unique {r : HttpResponse} {e f : Envelope} (h : Brings r e) (k : Brings r f) :
    e = f := by
  obtain ⟨-, tree, hp, hr⟩ := h
  obtain ⟨-, tree', hp', hr'⟩ := k
  obtain rfl := Except.ok.inj (hp.symm.trans hp')
  exact hr.unique hr'

/-- A body that is not read says nothing. -/
theorem Ends.of_misread {client : Client ι τ} {op : Operation ι D} {vars : Entries Json}
    {r : HttpResponse} {tree : Json} {why : Mismatch}
    (hv : client.codec.encodeVariables op.vars = .ok vars) (hs : Accepted r)
    (hp : Json.parse r.body = .ok tree) (h : Envelope.shape.read tree = .error why) :
    Ends client op (.ok r) (.misshapen why) :=
  .misshapen hv hs hp (by simp [← Envelope.read_iff, h]) h

/-- Some ending applies, whatever happens. -/
theorem exists_ends (client : Client ι τ) (op : Operation ι D)
    (outcome : Except TransportError HttpResponse) : ∃ ending, Ends client op outcome ending := by
  cases hv : client.codec.encodeVariables op.vars with
  | error why => exact ⟨_, .unencodable hv⟩
  | ok vars =>
    cases outcome with
    | error why => exact ⟨_, .failed hv⟩
    | ok r =>
      by_cases hs : Accepted r
      · cases hp : Json.parse r.body with
        | error why => exact ⟨_, .unparsable hv hs hp⟩
        | ok tree =>
          cases hr : Envelope.shape.read tree with
          | error why => exact ⟨_, .of_misread hv hs hp hr⟩
          | ok e =>
            have hb := Brings.of_read hs hp hr
            cases hd : e.data with
            | none => exact ⟨_, .dataless hv hb (.inl hd)⟩
            | some v =>
              by_cases hn : v = .null
              · exact ⟨_, .dataless hv hb (.inr (hn ▸ hd))⟩
              · cases hm : op.mapper.map (.root client.codec v) with
                | ok d => exact ⟨_, .mapped hv hb hd hn hm⟩
                | error why => exact ⟨_, .unmapped hv hb hd hn hm⟩
      · exact ⟨_, .refused hv hs (text?_eq_some_iff r)⟩

/-- What a response without a fault before its data excludes. -/
theorem Brings.not_unparsable {r : HttpResponse} {e : Envelope} (h : Brings r e) {why : JsonError} :
    Json.parse r.body ≠ .error why := by
  obtain ⟨-, tree, hp, -⟩ := h
  simp [hp]

theorem Brings.not_silent {r : HttpResponse} {e : Envelope} (h : Brings r e) {tree : Json}
    (hp : Json.parse r.body = .ok tree) : ¬∀ f, ¬tree.SaysEnvelope f := by
  obtain ⟨-, tree', hp', he⟩ := h
  obtain rfl := Except.ok.inj (hp'.symm.trans hp)
  exact fun hsilent => hsilent e he

/-- Where a response brings an envelope, its data and the mapper tell the ending. -/
theorem Ends.of_brings {client : Client ι τ} {op : Operation ι D} {r : HttpResponse} {e : Envelope}
    {vars : Entries Json} {ending : Ending D} (h : Ends client op (.ok r) ending)
    (hv : client.codec.encodeVariables op.vars = .ok vars) (hb : Brings r e) :
    (ending = .dataless e ∧ (e.data = none ∨ e.data = some .null)) ∨
      ∃ v, e.data = some v ∧ v ≠ .null ∧
        ((∃ d, op.mapper.map (.root client.codec v) = .ok d ∧ ending = .mapped e d) ∨
          ∃ why, op.mapper.map (.root client.codec v) = .error why ∧ ending = .unmapped e why) := by
  cases h with
  | unencodable hv' => simp [hv] at hv'
  | refused _ hs => exact absurd hb.accepted hs
  | unparsable _ _ hp => exact absurd hp hb.not_unparsable
  | misshapen _ _ hp hs => exact absurd hs (hb.not_silent hp)
  | dataless _ hb' hd =>
    obtain rfl := hb.unique hb'
    exact .inl ⟨rfl, hd⟩
  | mapped _ hb' hd hn hm =>
    obtain rfl := hb.unique hb'
    exact .inr ⟨_, hd, hn, .inl ⟨_, hm, rfl⟩⟩
  | unmapped _ hb' hd hn hm =>
    obtain rfl := hb.unique hb'
    exact .inr ⟨_, hd, hn, .inr ⟨_, hm, rfl⟩⟩

/-- No two endings apply. -/
theorem Ends.unique {client : Client ι τ} {op : Operation ι D}
    {outcome : Except TransportError HttpResponse} {a b : Ending D}
    (h : Ends client op outcome a) (k : Ends client op outcome b) : a = b := by
  cases h with
  | unencodable hv =>
    cases k with
    | unencodable hv' => rw [Except.error.inj (hv.symm.trans hv')]
    | failed hv' | refused hv' | unparsable hv' | misshapen hv' => simp [hv] at hv'
    | dataless hv' | mapped hv' | unmapped hv' => simp [hv] at hv'
  | failed hv =>
    cases k with
    | unencodable hv' => simp [hv] at hv'
    | failed => rfl
  | refused hv hs ht =>
    cases k with
    | unencodable hv' => simp [hv] at hv'
    | refused _ _ ht' =>
      congr 1
      exact Option.ext fun s => (ht s).trans (ht' s).symm
    | unparsable _ hs' | misshapen _ hs' => exact absurd hs' hs
    | dataless _ hb | mapped _ hb | unmapped _ hb => exact absurd hb.accepted hs
  | unparsable hv hs hp =>
    cases k with
    | unencodable hv' => simp [hv] at hv'
    | refused _ hs' => exact absurd hs hs'
    | unparsable _ _ hp' => rw [Except.error.inj (hp.symm.trans hp')]
    | misshapen _ _ hp' => simp [hp] at hp'
    | dataless _ hb | mapped _ hb | unmapped _ hb => exact absurd hp hb.not_unparsable
  | misshapen hv hs hp hsilent hr =>
    cases k with
    | unencodable hv' => simp [hv] at hv'
    | refused _ hs' => exact absurd hs hs'
    | unparsable _ _ hp' => simp [hp] at hp'
    | misshapen _ _ hp' _ hr' =>
      obtain rfl := Except.ok.inj (hp.symm.trans hp')
      rw [Except.error.inj (hr.symm.trans hr')]
    | dataless _ hb | mapped _ hb | unmapped _ hb => exact absurd hsilent (hb.not_silent hp)
  | dataless hv hb hd =>
    rcases k.of_brings hv hb with ⟨rfl, -⟩ | ⟨v, hd', hn, -⟩
    · rfl
    · rw [hd'] at hd
      simp [hn] at hd
  | mapped hv hb hd hn hm =>
    rcases k.of_brings hv hb with ⟨-, hd'⟩ | ⟨v, hd', -, hend⟩
    · rw [hd] at hd'
      simp [hn] at hd'
    · obtain rfl := Option.some.inj (hd.symm.trans hd')
      rcases hend with ⟨d, hm', rfl⟩ | ⟨why, hm', -⟩
      · rw [Except.ok.inj (hm.symm.trans hm')]
      · simp [hm] at hm'
  | unmapped hv hb hd hn hm =>
    rcases k.of_brings hv hb with ⟨-, hd'⟩ | ⟨v, hd', -, hend⟩
    · rw [hd] at hd'
      simp [hn] at hd'
    · obtain rfl := Option.some.inj (hd.symm.trans hd')
      rcases hend with ⟨d, hm', -⟩ | ⟨why, hm', rfl⟩
      · simp [hm] at hm'
      · rw [Except.error.inj (hm.symm.trans hm')]

theorem request_of_error {client : Client ι τ} {op : Operation ι D} {why : EncodeError}
    (h : client.codec.encodeVariables op.vars = .error why) :
    request client op = .error why := by
  simp [request, h, bind, Except.bind]

theorem request_of_ok {client : Client ι τ} {op : Operation ι D} {vars : Entries Json}
    (h : client.codec.encodeVariables op.vars = .ok vars) : ∃ q, request client op = .ok q := by
  simp [request, h, bind, Except.bind, pure, Except.pure]

theorem run_of_ok {client : Client ι τ} {op : Operation ι D} {vars : Entries Json}
    (h : client.codec.encodeVariables op.vars = .ok vars)
    (outcome : Except TransportError HttpResponse) :
    run client op (fun _ => outcome) = answer client.codec op outcome := by
  obtain ⟨q, hq⟩ := request_of_ok h
  simp [run, hq]

theorem envelope_of_not_accepted (codec : Codec ι) {r : HttpResponse} (h : ¬Accepted r) :
    envelope codec (.ok r) = .error (.httpStatus r.status r.text?) := by
  have hs : r.isSuccess = false := by
    rw [← Bool.not_eq_true, isSuccess_iff]
    exact h
  simp [envelope, hs]

theorem envelope_of_accepted (codec : Codec ι) {r : HttpResponse} (h : Accepted r) :
    envelope codec (.ok r) =
      match codec.parse r.body with
      | .error why => .error (.decode why)
      | .ok tree => (codec.decode Envelope.shape tree).mapError .decode := by
  rw [envelope, (isSuccess_iff r).mpr h]
  rfl

theorem envelope_of_brings (codec : Codec ι) {r : HttpResponse} {e : Envelope}
    (h : Brings r e) : envelope codec (.ok r) = .ok e := by
  obtain ⟨hs, tree, hp, he⟩ := h
  have hr := (Envelope.read_iff tree e).mpr he
  simp only [envelope_of_accepted codec hs, codec.parse_of_ok hp, codec.decode_of_ok hr]
  rfl

/-- An exchange comes to the result of the ending that applies. -/
theorem run_of_ends {client : Client ι τ} {op : Operation ι D}
    {outcome : Except TransportError HttpResponse} {ending : Ending D}
    (h : Ends client op outcome ending) :
    run client op (fun _ => outcome) = ending.result op.name := by
  cases h with
  | unencodable hv => simp [run, request_of_error hv, Ending.result]
  | failed hv =>
    rw [run_of_ok hv]
    rfl
  | @refused vars r body hv hs ht =>
    have hbody : r.text? = body := Option.ext fun s => (text?_eq_some_iff r s).trans (ht s).symm
    rw [run_of_ok hv, answer, envelope_of_not_accepted client.codec hs, hbody]
    rfl
  | unparsable hv hs hp =>
    rw [run_of_ok hv, answer, envelope_of_accepted client.codec hs, Codec.parse_of_error _ hp]
    rfl
  | misshapen hv hs hp _ hr =>
    simp only [run_of_ok hv, answer, envelope_of_accepted client.codec hs, Codec.parse_of_ok _ hp,
      Codec.decode_of_error _ hr]
    rfl
  | @dataless vars r e hv hb hd =>
    have hdata : e.data? = none := by
      rcases hd with hd | hd <;> simp [Envelope.data?, hd]
    rw [run_of_ok hv, answer, envelope_of_brings client.codec hb]
    simp [hdata, conclude, Ending.result]
  | @mapped vars r e v d hv hb hd hn hm =>
    have hdata : e.data? = some v := by simp [Envelope.data?, hd, hn]
    rw [run_of_ok hv, answer, envelope_of_brings client.codec hb]
    simp [hdata, hm, conclude, Ending.result]
  | @unmapped vars r e v why hv hb hd hn hm =>
    have hdata : e.data? = some v := by simp [Envelope.data?, hd, hn]
    rw [run_of_ok hv, answer, envelope_of_brings client.codec hb]
    simp [hdata, hm, conclude, Ending.result]

/-- In a run where the transport comes back with one outcome at most, the exchange comes to what it
comes to with that outcome. -/
theorem ComesTo.eq_run {client : Client ι τ} {op : Operation ι D} {turns : List Turn}
    {res : CallResult D} {outcome : Except TransportError HttpResponse}
    (h : ComesTo client op turns res)
    (honly : ∀ o, .execution (.answered o) ∈ turns → o = outcome) :
    res = run client op fun _ => outcome := by
  unfold ComesTo at h
  unfold run
  cases hq : request client op with
  | error why => simpa [hq] using h
  | ok q =>
    simp only [hq] at h
    obtain ⟨o, hm, rfl⟩ := h
    rw [honly o hm]

end Exchange

namespace Call

/-- An execution that nothing comes between: it goes as far as it can, meets the outcome with which
the transport comes back, and goes on. -/
def carryOut (client : Client ι τ) (outcome : Except TransportError HttpResponse) (c : Call ι D) :
    Call ι D :=
  ((c.advance client).meet client (.answered outcome)).advance client

/-- Such an execution ends, with what the exchange comes to. -/
theorem result_carryOut {client : Client ι τ} {c : Call ι D} (hx : c.execution = .idle)
    (ha : c.isPending = true) (hp : c.phase ≠ .canceled)
    (outcome : Except TransportError HttpResponse) :
    (c.carryOut client outcome).result? =
      some (Exchange.run client c.operation fun _ => outcome) := by
  obtain ⟨id, op, ⟨phase, armed, signaled⟩, execution, sent⟩ := c
  have harmed : armed = true := ha
  have hphase : phase ≠ .canceled := hp
  obtain rfl : execution = .idle := hx
  cases hq : Exchange.request client op with
  | error why =>
    simp [carryOut, advance, Nat.repeat, meet, step, Call.phase, Lifecycle.enter,
      Lifecycle.disarm, result?, Exchange.run, hq, harmed, hphase]
  | ok q =>
    simp [carryOut, advance, Nat.repeat, meet, step, Call.phase, Lifecycle.enter,
      Lifecycle.disarm, result?, Exchange.run, hq, harmed, hphase]

end Call

namespace Exchange

/-- The result of a call accounts for its exchange. Of the endings exactly one applies, and its
result passes on all errors of the server and no others. An execution that nothing comes between
returns that result, and so does every other one that gets this outcome and loses the sender to no
cancel. -/
theorem result_accounts (client : Client ι τ) (op : Operation ι D)
    (outcome : Except TransportError HttpResponse) :
    ∃ ending : Ending D,
      (∀ other, Ends client op outcome other ↔ other = ending) ∧
      passedOn (ending.result op.name) = ending.serverErrors ∧
      (∀ c : Call ι D, c.operation = op → c.execution = .idle → c.isPending = true →
        c.phase ≠ .canceled →
        (c.carryOut client outcome).result? = some (ending.result op.name)) ∧
      (∀ id turns r res, (Race.start (.fresh id op)).run client turns = some r →
        r.call.result? = some res → (∀ c ∈ r.cancels, c.isWinner = false) →
        (∀ o, .execution (.answered o) ∈ turns → o = outcome) → res = ending.result op.name) := by
  obtain ⟨ending, hends⟩ := exists_ends client op outcome
  have hrun := run_of_ends hends
  refine ⟨ending, ?_, passedOn_result op.name ending, ?_, ?_⟩
  · intro other
    constructor
    · exact fun h => h.unique hends
    · rintro rfl
      exact hends
  · rintro c rfl hx ha hp
    rw [Call.result_carryOut hx ha hp, hrun]
  · intro id turns r res hturns hres hnone honly
    have hdue := ((Race.sound_of_run hturns).done hres).2.2
    have hcomes := hdue.1 (r.winners_eq_zero_iff.mpr hnone)
    rw [hcomes.eq_run honly, hrun]

/-- Partial data beside two errors and metadata: the response keeps both errors in their order, and
the metadata. -/
theorem result_accounts_partial :
    let tree : Json := .object
      [("data", .object [("ping", .string "pong")]),
        ("errors", .array
          [.object [("message", .string "slow"), ("path", .array [.string "ping", .string "0"])],
            .object
              [("locations", .array
                [.object [("column", .ofNat 2 (by decide)), ("line", .ofNat 1 (by decide))]]),
              ("message", .string "late")]]),
        ("extensions", .object [("cost", .ofNat 3 (by decide))])]
    let e : Envelope :=
      { data := some (.object [("ping", .string "pong")])
        errors := [{ message := "slow", path := some [.field "ping", .field "0"] },
          { message := "late", locations := [⟨1, 2⟩] }]
        extensions := some (.object [("cost", .ofNat 3 (by decide))]) }
    let op : Operation TextDomain String :=
      { document := "", name := "Ping", mapper := { map := fun r => (r.field "ping").string } }
    Brings ⟨200, .empty, tree.bytes⟩ e ∧
      ((Call.fresh 0 op).carryOut Client.minimal (.ok ⟨200, .empty, tree.bytes⟩)).result? =
        some (.ok ⟨"Ping", some "pong", e.errors, e.extensions⟩) := by
  intro tree e op
  have hints : tree.IsIntegral := by
    simp [tree, Json.IsIntegral, Json.HasIntegralMembers, Json.AreIntegral, Json.ofNat]
  have hdepth : tree.depth ≤ Scan.maxDepth := by
    simp [tree, Json.depth, Json.depthMembers, Json.depthItems, Json.ofNat, Scan.maxDepth]
  have hb : Brings ⟨200, .empty, tree.bytes⟩ e := .of_bytes hints hdepth rfl
  have hends : Ends Client.minimal op (.ok ⟨200, .empty, tree.bytes⟩) (.mapped e "pong") :=
    .mapped rfl hb rfl (by simp) rfl
  obtain ⟨ending, hunique, -, hcarry, -⟩ :=
    result_accounts Client.minimal op (.ok ⟨200, .empty, tree.bytes⟩)
  obtain rfl := (hunique _).mp hends
  exact ⟨hb, hcarry (.fresh 0 op) rfl rfl rfl (by decide)⟩

end Exchange

end GraphClient
