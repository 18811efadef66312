import GraphClient.Proofs.Client.Settings
import GraphClient.Proofs.Exchange.Accounting
import GraphClient.Proofs.Variables.ReadBack

/-!
# The request of an operation

What a request holds, said without the way in which it is put together: its address, each of its
headers by name, and the members of the object in its body. There is a request exactly if the
variables encode. Header names count in any letter case.
-/

namespace GraphClient

variable {ι : Type} [Domains ι] {τ D : Type}

namespace Header

/-- The name of a header in any letter case, given in the one in which headers are kept. -/
def Names (name key : String) : Prop := normalizeName? name = some key

end Header

namespace HeaderValue

def IsJson (v : HeaderValue) : Prop := v.text? = some "application/json"

end HeaderValue

namespace Headers

/-- The value of the header of a name in any letter case. -/
def get? (hs : Headers) (name : String) : Option HeaderValue :=
  (Header.normalizeName? name).bind hs.find?

theorem get?_of_names {name key : String} (h : Header.Names name key) (hs : Headers) :
    hs.get? name = hs.find? key := by
  have hn : Header.normalizeName? name = some key := h
  rw [get?, hn]
  rfl

theorem find?_insertIfAbsent (hs : Headers) (key other : String) (value : HeaderValue) :
    (hs.insertIfAbsent key value).find? other =
      if key = other then some ((hs.find? key).getD value) else hs.find? other := by
  cases hfound : hs.find? key with
  | some found =>
    have hkept : hs.insertIfAbsent key value = hs := by simp [insertIfAbsent, hfound]
    by_cases hk : key = other
    · rw [hkept, if_pos hk, ← hk, hfound]
      rfl
    · rw [hkept, if_neg hk]
  | none =>
    have hset : hs.insertIfAbsent key value = hs.insert key value := by
      simp [insertIfAbsent, hfound]
    rw [hset, find?_insert]
    rfl

theorem mem_insertIfAbsent {hs : Headers} {key : String} {value : HeaderValue}
    {p : String × HeaderValue} (h : p ∈ (hs.insertIfAbsent key value).entries) :
    p = (key, value) ∨ p ∈ hs.entries := by
  unfold insertIfAbsent at h
  split at h
  · exact .inr h
  · exact Entries.mem_insert h

theorem sorted_insertIfAbsent {hs : Headers} (key : String) (value : HeaderValue)
    (h : Entries.Sorted hs.entries) : Entries.Sorted (hs.insertIfAbsent key value).entries := by
  unfold insertIfAbsent
  split
  · exact h
  · exact Entries.sorted_insert key value h

structure Completes (sent defaults : Headers) : Prop where
  contentType : ∀ name, Header.Names name "content-type" → ∃ v, sent.get? name = some v ∧ v.IsJson
  accept_kept : ∀ name v, Header.Names name "accept" → defaults.get? name = some v →
    sent.get? name = some v
  accept_added : ∀ name, Header.Names name "accept" → defaults.get? name = none →
    ∃ v, sent.get? name = some v ∧ v.IsJson
  others : ∀ name, ¬Header.Names name "content-type" → ¬Header.Names name "accept" →
    sent.get? name = defaults.get? name
  none_added : ∀ p ∈ sent.entries,
    p.1 = "content-type" ∨ p.1 = "accept" ∨ p ∈ defaults.entries
  sorted : Entries.Sorted defaults.entries → Entries.Sorted sent.entries

end Headers

namespace Exchange

theorem find?_headers (defaults : Headers) (key : String) :
    (headers defaults).find? key =
      if key = "content-type" then some .applicationJson
      else if key = "accept" then some ((defaults.find? "accept").getD .applicationJson)
      else defaults.find? key := by
  have haccept : (defaults.insert "content-type" .applicationJson).find? "accept" =
      defaults.find? "accept" := by
    rw [Headers.find?_insert, if_neg (by decide)]
  rw [headers, Headers.find?_insertIfAbsent, haccept, Headers.find?_insert]
  by_cases hcontent : key = "content-type"
  · subst hcontent
    rfl
  · by_cases hk : key = "accept"
    · subst hk
      rfl
    · rw [if_neg (Ne.symm hk), if_neg (Ne.symm hcontent), if_neg hcontent, if_neg hk]

theorem completes_headers (defaults : Headers) : (headers defaults).Completes defaults where
  contentType name hname := by
    refine ⟨.applicationJson, ?_, HeaderValue.text?_applicationJson⟩
    rw [Headers.get?_of_names hname, find?_headers, if_pos rfl]
  accept_kept name v hname hv := by
    rw [Headers.get?_of_names hname] at hv
    rw [Headers.get?_of_names hname, find?_headers, if_neg (by decide), if_pos rfl, hv]
    rfl
  accept_added name hname hnone := by
    refine ⟨.applicationJson, ?_, HeaderValue.text?_applicationJson⟩
    rw [Headers.get?_of_names hname] at hnone
    rw [Headers.get?_of_names hname, find?_headers, if_neg (by decide), if_pos rfl, hnone]
    rfl
  others name hcontent haccept := by
    cases hname : Header.normalizeName? name with
    | none => rw [Headers.get?, Headers.get?, hname]; rfl
    | some key =>
      have hkey : Header.Names name key := hname
      have hne : ∀ other, ¬Header.Names name other → key ≠ other := by
        rintro other hno rfl
        exact hno hkey
      rw [Headers.get?_of_names hkey, Headers.get?_of_names hkey, find?_headers,
        if_neg (hne _ hcontent), if_neg (hne _ haccept)]
  none_added p hp := by
    rcases Headers.mem_insertIfAbsent hp with rfl | hp
    · exact .inr (.inl rfl)
    · rcases Entries.mem_insert hp with rfl | hp
      · exact .inl rfl
      · exact .inr (.inr hp)
  sorted h := Headers.sorted_insertIfAbsent _ _ (Entries.sorted_insert _ _ h)

/-- The members of the object in the body: the document, the name unless it is empty, and the
variables as an object. -/
structure Tells (op : Operation ι D) (vars : Entries Json) (members : List (String × Json)) :
    Prop where
  mem_iff : ∀ name v, (name, v) ∈ members ↔
    name = "query" ∧ v = .string op.document ∨
      name = "operationName" ∧ op.name ≠ "" ∧ v = .string op.name ∨
      name = "variables" ∧ v = .object vars
  nodup : (members.map (·.1)).Nodup

structure Asks (client : Client ι τ) (op : Operation ι D) (q : HttpRequest) : Prop where
  url : q.url = client.endpoint
  headers : q.headers.Completes client.headers
  -- the body is the text of the object. It reads as that object wherever the variables are without
  -- fractions and nest no deeper than a reader goes.
  body : ∃ vars members, client.codec.encodeVariables op.vars = .ok vars ∧ Tells op vars members ∧
    q.body = (Json.object members).bytes ∧
    ((Json.object vars).IsIntegral → (Json.object members).depth ≤ Scan.maxDepth →
      Json.parse q.body = .ok (Json.object members).canonical)

theorem tells_toJson (op : Operation ι D) (vars : Entries Json) :
    ∃ members, Tells op vars members ∧
      (((Request.ofDocument op.document).withOperationName op.name).withVariables vars).toJson =
        .object members := by
  refine ⟨_, ?_, rfl⟩
  by_cases hname : op.name = ""
  · constructor
    · simp [Request.ofDocument, Request.withOperationName, Request.withVariables, hname]
    · simp [Request.ofDocument, Request.withOperationName, Request.withVariables, hname]
  · constructor
    · simp [Request.ofDocument, Request.withOperationName, Request.withVariables, hname]
    · simp [Request.ofDocument, Request.withOperationName, Request.withVariables, hname]

/-- Whatever is made as a request is the one to be made. -/
theorem asks_of_request {client : Client ι τ} {op : Operation ι D} {q : HttpRequest}
    (h : request client op = .ok q) : Asks client op q := by
  cases hv : client.codec.encodeVariables op.vars with
  | error why => simp [request_of_error hv] at h
  | ok vars =>
    simp only [request, hv, bind, Except.bind, pure, Except.pure, Except.ok.injEq] at h
    subst h
    obtain ⟨members, htells, hjson⟩ := tells_toJson op vars
    refine ⟨rfl, completes_headers client.headers, vars, members, hv, htells, ?_, ?_⟩
    · simp only [Request.body, hjson, Json.bytes]
    · intro hints hdepth
      have hrequest := Request.isIntegral_toJson
        (r := ((Request.ofDocument op.document).withOperationName op.name).withVariables vars) hints
      rw [hjson] at hrequest
      have hread := Json.parse_bytes hrequest hdepth
      simpa only [Request.body, hjson, Json.bytes] using hread

end Exchange

end GraphClient
