import GraphClient.Proofs.Exchange.Outcomes
import GraphClient.Proofs.Json.Records

/-!
# The bodies that count as envelopes

The JSON values that are read as response envelopes are described by a grammar of their own. Every
record of an envelope may stand as a list of its fields, which no server is meant to send. Where no
record does, the grammar asks for an object of error objects with location objects.
-/

namespace GraphClient

namespace Json

def IsString (v : Json) : Prop := ∃ s, v = .string s

def IsList (v : Json) : Prop := ∃ items, v = .array items

def IsListOf (P : Json → Prop) (v : Json) : Prop := ∃ items, v = .array items ∧ ∀ x ∈ items, P x

def IsNatUpTo (greatest : Int) (v : Json) : Prop :=
  ∃ n fits, v = .number (.int n fits) ∧ 0 ≤ n ∧ n ≤ greatest

def IsSegment (v : Json) : Prop := v.IsString ∨ ∃ n fits, v = .number (.int n fits) ∧ 0 ≤ n

/-- The place of an error, counted from any number of 32 bits. -/
inductive IsLocation : Json → Prop
  | object {members : List (String × Json)} (line : HasOne (IsNatUpTo 4294967295) "line" members)
    (column : HasOne (IsNatUpTo 4294967295) "column" members) : IsLocation (.object members)
  | list {line column : Json} (hline : line.IsNatUpTo 4294967295)
    (hcolumn : column.IsNatUpTo 4294967295) : IsLocation (.array [line, column])

/-- A path may be null, a list of locations may not. -/
def IsPath (v : Json) : Prop := v = .null ∨ v.IsListOf IsSegment

inductive IsServerError : Json → Prop
  | object {members : List (String × Json)} (message : HasOne IsString "message" members)
    (locations : HasAtMostOne (IsListOf IsLocation) "locations" members)
    (path : HasAtMostOne IsPath "path" members)
    (extensions : HasAtMostOne (fun _ => True) "extensions" members) :
    IsServerError (.object members)
  | list {message : Json} {more : List Json} (hmessage : message.IsString) (short : more.length ≤ 3)
    (locations : ∀ v, more[0]? = some v → v.IsListOf IsLocation)
    (path : ∀ v, more[1]? = some v → v.IsPath) : IsServerError (.array (message :: more))

/-- A response envelope, as an object with members of any other names or as a list. -/
inductive IsEnvelope : Json → Prop
  | object {members : List (String × Json)} (data : HasAtMostOne (fun _ => True) "data" members)
    (errors : HasAtMostOne (IsListOf IsServerError) "errors" members)
    (extensions : HasAtMostOne (fun _ => True) "extensions" members) :
    IsEnvelope (.object members)
  | list {items : List Json} (short : items.length ≤ 3)
    (errors : ∀ v, items[1]? = some v → v.IsListOf IsServerError) : IsEnvelope (.array items)

/-! A value follows a rule of the grammar exactly if it says something where the rule stands. -/

section Grammar

variable {α : Type} {R : Json → α → Prop} {P : Json → Prop} (h : ∀ v, P v ↔ ∃ a, R v a)

include h

theorem hasOne_iff (name : String) (members : List (String × Json)) :
    HasOne P name members ↔ ∃ a, HasOne (R · a) name members := by
  simp only [HasOne, h]
  constructor
  · rintro ⟨v, hunder, a, hv⟩
    exact ⟨a, v, hunder, hv⟩
  · rintro ⟨a, v, hunder, hv⟩
    exact ⟨v, hunder, a, hv⟩

theorem hasAtMostOne_iff (absent : α) (name : String) (members : List (String × Json)) :
    HasAtMostOne P name members ↔ ∃ a, MemberSays R absent name members a := by
  simp only [HasAtMostOne, HasOne, h]
  constructor
  · rintro (hnone | ⟨v, hunder, a, hv⟩)
    · exact ⟨absent, none, hnone, rfl⟩
    · exact ⟨a, some v, hunder, hv⟩
  · rintro ⟨a, _ | v, hunder, hv⟩
    · exact .inl hunder
    · exact .inr ⟨v, hunder, a, hv⟩

theorem forall_some_iff (absent : α) (o : Option Json) :
    (∀ v, o = some v → P v) ↔ ∃ a, SaysOr R absent o a := by
  cases o <;> simp [SaysOr, h]

theorem isListOf_iff (v : Json) : v.IsListOf P ↔ ∃ as, v.SaysList R as := by
  have hitems : ∀ items : List Json, (∀ x ∈ items, P x) ↔ ∃ as, List.Forall₂ R items as := by
    intro items
    induction items with
    | nil => exact iff_of_true (by simp) ⟨[], .nil⟩
    | cons x rest ih =>
      rw [List.forall_mem_cons, h, ih]
      constructor
      · rintro ⟨⟨a, ha⟩, as, has⟩
        exact ⟨a :: as, .cons ha has⟩
      · rintro ⟨_, _ | ⟨ha, has⟩⟩
        exact ⟨⟨_, ha⟩, _, has⟩
  simp only [IsListOf, SaysList, hitems]
  constructor
  · rintro ⟨items, rfl, as, has⟩
    exact ⟨as, items, rfl, has⟩
  · rintro ⟨as, items, rfl, has⟩
    exact ⟨items, rfl, as, has⟩

theorem null_or_iff (hnull : ∀ a, ¬R .null a) (v : Json) :
    v = .null ∨ P v ↔ ∃ o, v.SaysOption R o := by
  rw [h]
  constructor
  · rintro (rfl | ⟨a, ha⟩)
    · exact ⟨none, rfl⟩
    · exact ⟨some a, fun hv => hnull a (hv ▸ ha), ha⟩
  · rintro ⟨_ | a, hv⟩
    · exact .inl hv
    · exact .inr ⟨a, hv.2⟩

end Grammar

/-- Whatever stands for data or metadata says something. -/
theorem exists_saysOption_eq (v : Json) : True ↔ ∃ o, v.SaysOption Eq o := by
  by_cases hnull : v = .null
  · exact iff_of_true trivial ⟨none, hnull⟩
  · exact iff_of_true trivial ⟨some v, hnull, rfl⟩

theorem isNat32_iff (v : Json) : v.IsNatUpTo 4294967295 ↔ ∃ n : UInt32, v.SaysNat n.toNat := by
  constructor
  · rintro ⟨n, fits, rfl, hleast, hgreatest⟩
    obtain ⟨k, rfl⟩ := Int.eq_ofNat_of_zero_le hleast
    have hk : (UInt32.ofNat k).toNat = k :=
      UInt32.toNat_ofNat_of_lt' (by simp only [UInt32.size]; omega)
    exact ⟨.ofNat k, by simpa [SaysNat, hk] using fits⟩
  · rintro ⟨n, fits, rfl⟩
    have := n.toNat_lt
    exact ⟨n.toNat, fits, rfl, by omega, by omega⟩

theorem isSegment_iff (v : Json) : v.IsSegment ↔ ∃ s, v.SaysSegment s := by
  constructor
  · rintro (⟨name, rfl⟩ | ⟨n, fits, rfl, hn⟩)
    · exact ⟨.field name, rfl⟩
    · obtain ⟨k, rfl⟩ := Int.eq_ofNat_of_zero_le hn
      have hk : (UInt64.ofNat k).toNat = k :=
        UInt64.toNat_ofNat_of_lt' (by have := fits.2; simp only [UInt64.size]; omega)
      exact ⟨.index (.ofNat k), by simpa [SaysSegment, SaysNat, hk] using fits⟩
  · rintro ⟨name | i, h⟩
    · exact .inl ⟨name, h⟩
    · obtain ⟨fits, rfl⟩ := h
      exact .inr ⟨i.toNat, fits, rfl, by omega⟩

theorem isPath_iff (v : Json) : v.IsPath ↔ ∃ p, v.SaysOption (SaysList SaysSegment) p :=
  null_or_iff (isListOf_iff isSegment_iff) (by simp [SaysList]) v

theorem isLocation_iff (v : Json) : v.IsLocation ↔ ∃ l, v.SaysLocation l := by
  constructor
  · intro h
    cases h with
    | object hline hcolumn =>
      obtain ⟨line, hline⟩ := (hasOne_iff isNat32_iff ..).mp hline
      obtain ⟨column, hcolumn⟩ := (hasOne_iff isNat32_iff ..).mp hcolumn
      exact ⟨⟨line, column⟩, .object hline hcolumn⟩
    | list hline hcolumn =>
      obtain ⟨line, hline⟩ := (isNat32_iff _).mp hline
      obtain ⟨column, hcolumn⟩ := (isNat32_iff _).mp hcolumn
      exact ⟨⟨line, column⟩, .list hline hcolumn⟩
  · rintro ⟨l, h⟩
    cases h with
    | object hline hcolumn =>
      exact .object ((hasOne_iff isNat32_iff ..).mpr ⟨_, hline⟩)
        ((hasOne_iff isNat32_iff ..).mpr ⟨_, hcolumn⟩)
    | list hline hcolumn =>
      exact .list ((isNat32_iff _).mpr ⟨_, hline⟩) ((isNat32_iff _).mpr ⟨_, hcolumn⟩)

theorem isServerError_iff (v : Json) : v.IsServerError ↔ ∃ e, v.SaysServerError e := by
  constructor
  · intro h
    cases h with
    | object hm hl hp hx =>
      obtain ⟨m, hm⟩ := (hasOne_iff (fun _ => Iff.rfl) ..).mp hm
      obtain ⟨l, hl⟩ := (hasAtMostOne_iff (isListOf_iff isLocation_iff) [] ..).mp hl
      obtain ⟨p, hp⟩ := (hasAtMostOne_iff isPath_iff none ..).mp hp
      obtain ⟨x, hx⟩ := (hasAtMostOne_iff exists_saysOption_eq none ..).mp hx
      exact ⟨⟨m, l, p, x⟩, .object hm hl hp hx⟩
    | @list _ more hm hs hl hp =>
      obtain ⟨m, rfl⟩ := hm
      obtain ⟨l, hl⟩ := (forall_some_iff (isListOf_iff isLocation_iff) [] _).mp hl
      obtain ⟨p, hp⟩ := (forall_some_iff isPath_iff none _).mp hp
      obtain ⟨x, hx⟩ := (forall_some_iff exists_saysOption_eq none more[2]?).mp fun _ _ => trivial
      exact ⟨⟨m, l, p, x⟩, .list (e := ⟨m, l, p, x⟩) hs hl hp hx⟩
  · rintro ⟨e, h⟩
    cases h with
    | object hm hl hp hx =>
      exact .object ((hasOne_iff (fun _ => Iff.rfl) ..).mpr ⟨_, hm⟩)
        ((hasAtMostOne_iff (isListOf_iff isLocation_iff) [] ..).mpr ⟨_, hl⟩)
        ((hasAtMostOne_iff isPath_iff none ..).mpr ⟨_, hp⟩)
        ((hasAtMostOne_iff exists_saysOption_eq none ..).mpr ⟨_, hx⟩)
    | list hs hl hp =>
      exact .list ⟨_, rfl⟩ hs ((forall_some_iff (isListOf_iff isLocation_iff) [] _).mpr ⟨_, hl⟩)
        ((forall_some_iff isPath_iff none _).mpr ⟨_, hp⟩)

theorem isEnvelope_iff (v : Json) : v.IsEnvelope ↔ ∃ e, v.SaysEnvelope e := by
  constructor
  · intro h
    cases h with
    | object hd he hx =>
      obtain ⟨d, hd⟩ := (hasAtMostOne_iff exists_saysOption_eq none ..).mp hd
      obtain ⟨es, he⟩ := (hasAtMostOne_iff (isListOf_iff isServerError_iff) [] ..).mp he
      obtain ⟨x, hx⟩ := (hasAtMostOne_iff exists_saysOption_eq none ..).mp hx
      exact ⟨⟨d, es, x⟩, .object hd he hx⟩
    | @list items hs he =>
      obtain ⟨d, hd⟩ := (forall_some_iff exists_saysOption_eq none items[0]?).mp fun _ _ => trivial
      obtain ⟨es, he⟩ := (forall_some_iff (isListOf_iff isServerError_iff) [] _).mp he
      obtain ⟨x, hx⟩ := (forall_some_iff exists_saysOption_eq none items[2]?).mp fun _ _ => trivial
      exact ⟨⟨d, es, x⟩, .list hs hd he hx⟩
  · rintro ⟨e, h⟩
    cases h with
    | object hd he hx =>
      exact .object ((hasAtMostOne_iff exists_saysOption_eq none ..).mpr ⟨_, hd⟩)
        ((hasAtMostOne_iff (isListOf_iff isServerError_iff) [] ..).mpr ⟨_, he⟩)
        ((hasAtMostOne_iff exists_saysOption_eq none ..).mpr ⟨_, hx⟩)
    | list hs hd he hx =>
      exact .list hs ((forall_some_iff (isListOf_iff isServerError_iff) [] _).mpr ⟨_, he⟩)

def IsLocationObject (v : Json) : Prop :=
  ∃ members, v = .object members ∧ HasOne (fun _ => True) "line" members ∧
    HasOne (fun _ => True) "column" members

/-- An object with a message, and with such locations if it has any. -/
def IsErrorObject (v : Json) : Prop :=
  ∃ members, v = .object members ∧ HasOne IsString "message" members ∧
    HasAtMostOne (IsListOf IsLocationObject) "locations" members

/-- An object whose errors, if it has any, are such objects. -/
def IsEnvelopeObject (v : Json) : Prop :=
  ∃ members, v = .object members ∧ HasAtMostOne (IsListOf IsErrorObject) "errors" members

def items : Json → List Json
  | array items => items
  | _ => []

def itemsUnder (name : String) : Json → List Json
  | object members => (under name members).flatMap items
  | _ => []

/-- No record of an envelope stands as a list: neither the envelope, nor an error, nor a location
of an error. -/
def NamesFields (v : Json) : Prop :=
  ¬v.IsList ∧ ∀ e ∈ v.itemsUnder "errors", ¬e.IsList ∧
    ∀ l ∈ e.itemsUnder "locations", ¬l.IsList

theorem not_isList_object (members : List (String × Json)) : ¬(object members).IsList := by
  rintro ⟨items, h⟩
  cases h

/-- Of a list under a name, more can be said item by item. -/
theorem hasAtMostOne_listOf_iff {P : Json → Prop} (Q : Json → Prop) {name : String}
    {members : List (String × Json)} (h : HasAtMostOne (IsListOf P) name members) :
    HasAtMostOne (IsListOf Q) name members ↔ ∀ x ∈ (object members).itemsUnder name, Q x := by
  rcases h with hnone | ⟨v, hunder, xs, rfl, -⟩
  · simp [HasAtMostOne, itemsUnder, hnone]
  · simp [HasAtMostOne, HasOne, itemsUnder, hunder, IsListOf, items]

theorem IsLocation.isLocationObject_iff {v : Json} (h : v.IsLocation) :
    v.IsLocationObject ↔ ¬v.IsList := by
  cases h with
  | object hline hcolumn =>
    obtain ⟨line, hline, -⟩ := hline
    obtain ⟨column, hcolumn, -⟩ := hcolumn
    exact iff_of_true ⟨_, rfl, ⟨line, hline, trivial⟩, column, hcolumn, trivial⟩
      (not_isList_object _)
  | list =>
    refine iff_of_false ?_ (not_not_intro ⟨_, rfl⟩)
    rintro ⟨members, hv, -⟩
    cases hv

theorem IsServerError.isErrorObject_iff {v : Json} (h : v.IsServerError) :
    v.IsErrorObject ↔ ¬v.IsList ∧ ∀ l ∈ v.itemsUnder "locations", ¬l.IsList := by
  cases h with
  | @object members hmessage hlocations =>
    have hitems := (hasAtMostOne_listOf_iff IsLocation hlocations).mp hlocations
    have hnamed := hasAtMostOne_listOf_iff IsLocationObject hlocations
    constructor
    · rintro ⟨_, ⟨⟩, -, hobjects⟩
      refine ⟨not_isList_object _, fun l hl => ?_⟩
      exact (hitems l hl).isLocationObject_iff.mp (hnamed.mp hobjects l hl)
    · rintro ⟨-, hlists⟩
      refine ⟨members, rfl, hmessage, hnamed.mpr fun l hl => ?_⟩
      exact (hitems l hl).isLocationObject_iff.mpr (hlists l hl)
  | list =>
    refine iff_of_false ?_ fun hnot => hnot.1 ⟨_, rfl⟩
    rintro ⟨members, hv, -⟩
    cases hv

/-- An envelope is made of objects exactly if none of its records stands as a list. -/
theorem IsEnvelope.isEnvelopeObject_iff {v : Json} (h : v.IsEnvelope) :
    v.IsEnvelopeObject ↔ v.NamesFields := by
  cases h with
  | @object members _ herrors =>
    have hitems := (hasAtMostOne_listOf_iff IsServerError herrors).mp herrors
    have hnamed := hasAtMostOne_listOf_iff IsErrorObject herrors
    constructor
    · rintro ⟨_, ⟨⟩, hobjects⟩
      refine ⟨not_isList_object _, fun e he => ?_⟩
      exact (hitems e he).isErrorObject_iff.mp (hnamed.mp hobjects e he)
    · rintro ⟨-, hlists⟩
      refine ⟨members, rfl, hnamed.mpr fun e he => ?_⟩
      exact (hitems e he).isErrorObject_iff.mpr (hlists e he)
  | list =>
    refine iff_of_false ?_ fun hnot => hnot.1 ⟨_, rfl⟩
    rintro ⟨members, hv, -⟩
    cases hv

end Json

namespace Exchange

variable {ι : Type} [Domains ι] {τ D : Type}

inductive Reports : CallResult D → Prop
  | response (response : Response D) : Reports (.ok response)
  | errors (errors : List ServerError) : Reports (.error (.graphql errors))

/-- An envelope is reported, with its data or with its errors, unless it has no errors and data
that the mapper does not take. -/
theorem reports_of_brings {client : Client ι τ} {op : Operation ι D} {r : HttpResponse}
    {e : Envelope} {vars : Entries Json} (hv : client.codec.encodeVariables op.vars = .ok vars)
    (hb : Brings r e) :
    Reports (run client op fun _ => .ok r) ∨
      ∃ v why, e.errors = [] ∧ e.data = some v ∧ v ≠ .null ∧
        op.mapper.map (.root client.codec v) = .error why ∧
        run client op (fun _ => .ok r) = .error (.decode why) := by
  obtain ⟨ending, hends⟩ := exists_ends client op (.ok r)
  rw [run_of_ends hends]
  rcases hends.of_brings hv hb with ⟨rfl, -⟩ | ⟨v, hd, hn, ⟨d, -, rfl⟩ | ⟨why, hm, rfl⟩⟩
  · exact .inl (.response _)
  · exact .inl (.response _)
  · by_cases h : e.errors = []
    · exact .inr ⟨v, why, h, hd, hn, hm, if_pos h⟩
    · have hres : (Ending.unmapped e why : Ending D).result op.name = .error (.graphql e.errors) :=
        if_neg h
      exact .inl (hres ▸ .errors e.errors)

/-- Only envelopes are reported as responses. An execution that is not canceled, of an operation
whose variables encode, has one result for a reply of success. Where the body is no JSON, or JSON
and no envelope, this is a fault of the JSON at the root. Where it is an envelope, the response or
its errors are reported, unless there are none and the mapper does not take the data. So all that is
reported is made of objects, as long as no record stands as a list. -/
theorem reports_only_envelopes (client : Client ι τ) (op : Operation ι D) (r : HttpResponse)
    (vars : Entries Json) (hv : client.codec.encodeVariables op.vars = .ok vars)
    (hr : Accepted r) :
    ∃ res : CallResult D, Returns client op (.ok r) res ∧
      (∀ why, Json.parse r.body = .error why → res = .error (.decode (.json "" why))) ∧
      ∀ tree, Json.parse r.body = .ok tree →
        (Reports res → tree.IsEnvelope) ∧
        (¬tree.IsEnvelope → ∃ why, res = .error (.decode (.json "" (.ofMismatch why)))) ∧
        (tree.IsEnvelope → Reports res ∨
          ∃ e v why, Brings r e ∧ e.errors = [] ∧ e.data = some v ∧ v ≠ .null ∧
            op.mapper.map (.root client.codec v) = .error why ∧ res = .error (.decode why)) ∧
        (tree.IsEnvelope → (tree.IsEnvelopeObject ↔ tree.NamesFields)) ∧
        (tree.NamesFields → (Reports res → tree.IsEnvelopeObject) ∧
          (¬tree.IsEnvelopeObject →
            ∃ why, res = .error (.decode (.json "" (.ofMismatch why))))) := by
  refine ⟨_, returns_run client op (.ok r), ?_, ?_⟩
  · intro why hp
    exact run_of_ends (.unparsable hv hr hp)
  · intro tree hp
    have hmeans := tree.isEnvelope_iff
    cases hread : Envelope.shape.read tree with
    | error why =>
      have hnot : ¬tree.IsEnvelope := by simp [hmeans, ← Envelope.read_iff, hread]
      have hres := run_of_ends (Ends.of_misread hv hr hp hread)
      have hunreported : ¬Reports (run client op fun _ => .ok r) := by
        rw [hres]
        rintro ⟨⟩
      exact ⟨fun h => absurd h hunreported, fun _ => ⟨why, hres⟩, fun h => absurd h hnot,
        fun h => absurd h hnot, fun _ => ⟨fun h => absurd h hunreported, fun _ => ⟨why, hres⟩⟩⟩
    | ok e =>
      have henvelope : tree.IsEnvelope := hmeans.mpr ⟨e, (Envelope.read_iff tree e).mp hread⟩
      have hobject := henvelope.isEnvelopeObject_iff
      have hb : Brings r e := .of_read hr hp hread
      refine ⟨fun _ => henvelope, fun hnot => absurd henvelope hnot, fun _ => ?_, fun _ => hobject,
        fun hnames => ⟨fun _ => hobject.mpr hnames, fun hnot => absurd (hobject.mpr hnames) hnot⟩⟩
      rcases reports_of_brings hv hb with h | ⟨v, why, h⟩
      · exact .inl h
      · exact .inr ⟨e, v, why, hb, h⟩

/-- An envelope whose error stands as a list: it is reported as a response. -/
theorem reports_only_envelopes_list :
    let tree : Json := .object [("errors", .array [.array [.string "boom"]])]
    let r : HttpResponse := ⟨200, .empty, tree.bytes⟩
    Client.minimal.codec.encodeVariables Operation.minimal.vars = .ok [] ∧ Accepted r ∧
      Json.parse r.body = .ok tree ∧ tree.IsEnvelope ∧ ¬tree.IsEnvelopeObject ∧
      ∃ res, Returns Client.minimal .minimal (.ok r) res ∧ Reports res := by
  intro tree r
  have hr : Accepted r := by simp [Accepted, r]
  have hints : tree.IsIntegral := by
    simp [tree, Json.IsIntegral, Json.HasIntegralMembers, Json.AreIntegral]
  have hp : Json.parse r.body = .ok tree := Json.parse_bytes hints (by decide)
  have hread : Envelope.shape.read tree = .ok { errors := [{ message := "boom" }] } := rfl
  have henvelope : tree.IsEnvelope :=
    tree.isEnvelope_iff.mpr ⟨_, (Envelope.read_iff tree _).mp hread⟩
  obtain ⟨res, hreturns, -, htree⟩ := reports_only_envelopes Client.minimal .minimal r [] rfl hr
  obtain ⟨-, -, hreported, hobject, -⟩ := htree tree hp
  refine ⟨rfl, hr, hp, henvelope, ?_, res, hreturns, ?_⟩
  · intro h
    have hlists := ((hobject henvelope).mp h).2
    have herror : .array [.string "boom"] ∈ tree.itemsUnder "errors" := by
      simp [tree, Json.itemsUnder, Json.under, Json.items]
    exact (hlists _ herror).1 ⟨_, rfl⟩
  · rcases hreported henvelope with h | ⟨e, v, why, hb, -, hd, -⟩
    · exact h
    · obtain rfl := hb.unique (.of_read hr hp hread)
      cases hd

/-- The empty list is reported as a response without data, and it is no object. -/
theorem empty_list_reported :
    let r : HttpResponse := ⟨200, .empty, "[]".toUTF8⟩
    Accepted r ∧ Json.parse r.body = .ok (.array []) ∧ ¬(Json.array []).IsEnvelopeObject ∧
      Returns Client.minimal .minimal (.ok r) (.ok ⟨"", none, [], none⟩) ∧
      Reports (.ok ⟨"", none, [], none⟩ : CallResult Json) := by
  intro r
  have hr : Accepted r := by simp [Accepted, r]
  have hp : Json.parse (Json.array []).bytes = .ok (.array []) :=
    Json.parse_bytes (by simp [Json.IsIntegral, Json.AreIntegral]) (by decide)
  have hb : Brings r {} := .of_read hr hp rfl
  have hends : Ends Client.minimal .minimal (.ok r) (.dataless {}) := .dataless rfl hb (.inl rfl)
  have hreturns := returns_run Client.minimal .minimal (.ok r)
  rw [run_of_ends hends] at hreturns
  refine ⟨hr, hp, ?_, hreturns, .response _⟩
  rintro ⟨members, h, -⟩
  cases h

end Exchange

end GraphClient
