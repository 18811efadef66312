import GraphClient.Proofs.Exchange.Envelopes
import GraphClient.Proofs.Json.NullMembers
import Mathlib.Logic.Relation

/-!
# Null members of a response

A server may leave out a member that it has nothing to say under, or send null for it. Two bodies
that differ by nothing else say the same. They are read as the same envelope by a reader that takes
null for an empty list, as it takes null for no data, no path and no extensions. The reader of
responses does not take null for a list: where null stands for the errors, or for the locations of
an error, the whole response is lost, and nowhere else.
-/

namespace GraphClient

namespace Json

/-- The names of the members that an envelope can do without. -/
def envelopeOptions : List String := ["data", "errors", "extensions"]

/-- The names of the members that an error can do without. -/
def errorOptions : List String := ["locations", "path", "extensions"]

/-- One member that the left envelope leaves out is null in the right one: a member of the envelope
itself, or of one of its errors. -/
inductive SpellsNull : Json → Json → Prop
  | envelope {members members' : List (String × Json)}
    (h : GainsNull envelopeOptions members members') :
    SpellsNull (object members) (object members')
  | error {fields fields' : List (String × Json)} (before after : List (String × Json))
    (first last : List Json) (h : GainsNull errorOptions fields fields') :
    SpellsNull (object (before ++ ("errors", array (first ++ object fields :: last)) :: after))
      (object (before ++ ("errors", array (first ++ object fields' :: last)) :: after))

/-- Null members are added and taken away, in any number and order. -/
abbrev SaysAlike : Json → Json → Prop := Relation.EqvGen SpellsNull

def NullLocations (e : Json) : Prop := ∃ v ∈ e.standing "locations" 1, v = null

/-- Null stands for a list, be it that of the errors or that of the locations of an error. -/
def NullForList (v : Json) : Prop :=
  ∃ w ∈ v.standing "errors" 1, w = null ∨ ∃ e ∈ w.items, e.NullLocations

end Json

namespace ServerError

/-- The fields of an error, given how its locations are read. -/
def fieldsWith (locations : Shape (List Location)) :=
  Fields.field "message" .string .required <|
    .field "locations" locations (.optional []) <|
    .field "path" (.option (.list PathSegment.shape)) (.optional none) <|
    .field "extensions" (.option .any) (.optional none) .done

def shapeWith (locations : Shape (List Location)) : Shape ServerError :=
  .record "GraphQLError" (fieldsWith locations)
    fun (message, locations, path, extensions, ()) => ⟨message, locations, path, extensions⟩

theorem shapeWith_list : shapeWith (.list Location.shape) = shape := rfl

theorem nodup_names_fieldsWith (locations : Shape (List Location)) :
    (fieldsWith locations).names.Nodup := by
  simp [fieldsWith, Fields.names]

def lenient : Shape ServerError := shapeWith ((Shape.list Location.shape).nullAs [])

end ServerError

namespace Envelope

/-- The fields of an envelope, given how its errors are read. -/
def fieldsWith (errors : Shape (List ServerError)) :=
  Fields.field "data" (.option .any) (.optional none) <|
    .field "errors" errors (.optional []) <|
    .field "extensions" (.option .any) (.optional none) .done

def shapeWith (errors : Shape (List ServerError)) : Shape Envelope :=
  .record "ResponseEnvelope" (fieldsWith errors)
    fun (data, errors, extensions, ()) => ⟨data, errors, extensions⟩

theorem shapeWith_list : shapeWith (.list ServerError.shape) = shape := rfl

theorem nodup_names_fieldsWith (errors : Shape (List ServerError)) :
    (fieldsWith errors).names.Nodup := by
  simp [fieldsWith, Fields.names]

/-- An envelope in which null stands for no errors, and for no locations of an error, too. -/
def lenient : Shape Envelope := shapeWith ((Shape.list ServerError.lenient).nullAs [])

end Envelope

/-! ### The lenient reader -/

namespace ServerError

/-- An error with a null member more is read as the same error. -/
theorem lenient_gainsNull {fields fields' : List (String × Json)}
    (h : Json.GainsNull Json.errorOptions fields fields') :
    lenient.ReadsAlike (.object fields) (.object fields') := by
  have hnull : (fieldsWith ((Shape.list Location.shape).nullAs [])).NullIsAbsent
      Json.errorOptions :=
    ⟨by simp [Json.errorOptions], fun _ => ⟨_, rfl, rfl⟩, fun _ => ⟨_, rfl, rfl⟩,
      fun _ => ⟨_, rfl, rfl⟩, trivial⟩
  exact Shape.readsAlike_record _ _ (nodup_names_fieldsWith _) (Fields.ofMembers_gainsNull hnull h)

end ServerError

namespace Envelope

/-- Whether a member is null or absent, the lenient reader does not tell. -/
theorem lenient_spellsNull {v w : Json} (h : v.SpellsNull w) : lenient.ReadsAlike v w := by
  cases h with
  | envelope h =>
    have hnull : (fieldsWith ((Shape.list ServerError.lenient).nullAs [])).NullIsAbsent
        Json.envelopeOptions :=
      ⟨fun _ => ⟨_, rfl, rfl⟩, fun _ => ⟨_, rfl, rfl⟩, fun _ => ⟨_, rfl, rfl⟩, trivial⟩
    exact Shape.readsAlike_record _ _ (nodup_names_fieldsWith _)
      (Fields.ofMembers_gainsNull hnull h)
  | @error fields fields' before after first last h =>
    have hread := ((ServerError.lenient_gainsNull h).list first last).nullAs (by simp) (by simp) []
    have hfields : (fieldsWith ((Shape.list ServerError.lenient).nullAs [])).ReadsAlike "errors"
        (.array (first ++ .object fields :: last)) (.array (first ++ .object fields' :: last)) :=
      ⟨by simp, fun _ => hread, by simp, trivial⟩
    exact Shape.readsAlike_record _ _ (nodup_names_fieldsWith _)
      (Fields.ofMembers_replace hfields before after)

theorem lenient_saysAlike {v w : Json} (h : v.SaysAlike w) : lenient.ReadsAlike v w := by
  intro e
  induction h with
  | rel v w h => exact lenient_spellsNull h e
  | refl v => exact Iff.rfl
  | symm v w _ ih => exact ih.symm
  | trans v w x _ _ ih ih' => exact ih.trans ih'

end Envelope

/-! ### The reader of responses -/

namespace Shape

/-- A list is read as one for which null may stand, except where null does. -/
theorem refines_nullAs {α : Type} {shape other : Shape α} {P : Json → Prop}
    (h : shape.Refines other P) :
    shape.list.Refines (other.list.nullAs []) fun v => v = .null ∨ ∃ x ∈ v.items, P x := by
  intro v as
  by_cases hv : v = .null
  · subst hv
    simp [list]
  · rw [read_nullAs_of_ne_null [] other.list hv]
    cases v with
    | array items => simpa [list, Json.items] using h.readItems items as
    | null => exact absurd rfl hv
    | bool | number | string | object => simp [list]

/-- Nothing else is left out where no value is. -/
theorem refines_self {α : Type} (shape : Shape α) : shape.Refines shape fun _ => False := by
  intro v a
  simp

end Shape

theorem ServerError.refines_lenient :
    ServerError.shape.Refines ServerError.lenient Json.NullLocations := by
  rw [← shapeWith_list]
  refine Shape.refines_record _ _ ?_ (nodup_names_fieldsWith _) (nodup_names_fieldsWith _)
  have h := Shape.refines_nullAs Location.shape.refines_self
  simp only [and_false, exists_false, or_false] at h
  exact (Fields.refines_field h _ _ _).field _ _ _

/-- The reader of responses is the lenient one, except that null must not stand for a list. -/
theorem Envelope.refines_lenient :
    Envelope.shape.Refines Envelope.lenient Json.NullForList := by
  rw [← shapeWith_list]
  refine Shape.refines_record _ _ ?_ (nodup_names_fieldsWith _) (nodup_names_fieldsWith _)
  have h := Shape.refines_nullAs ServerError.refines_lenient
  exact (Fields.refines_field h _ _ _).field _ _ _

namespace Exchange

variable {ι : Type} [Domains ι] {τ D : Type}

/-- Replies that bring the same envelope come to the same result. -/
theorem run_eq_of_brings {client : Client ι τ} {op : Operation ι D} {vars : Entries Json}
    (hv : client.codec.encodeVariables op.vars = .ok vars) {r s : HttpResponse} {e : Envelope}
    (hr : Brings r e) (hs : Brings s e) :
    run client op (fun _ => .ok r) = run client op (fun _ => .ok s) := by
  rw [run_of_ok hv, run_of_ok hv, answer, answer, envelope_of_brings client.codec hr,
    envelope_of_brings client.codec hs]

/-- Whether a member is null or absent makes no difference where no null stands for a list: both
bodies are read as the same envelope or both are not, and calls return the same. Where null stands
for the errors, or for the locations of an error, there is no envelope: a call whose reply would
have been a response returns a fault of the JSON. -/
theorem null_members_alike {v w : Json} (h : v.SaysAlike w) :
    (¬v.NullForList → ¬w.NullForList →
      ∀ e, Envelope.shape.read v = .ok e ↔ Envelope.shape.read w = .ok e) ∧
    (w.NullForList → ∃ why, Envelope.shape.read w = .error why) ∧
    ∀ (client : Client ι τ) (op : Operation ι D) (vars : Entries Json) (r s : HttpResponse)
      (e : Envelope), client.codec.encodeVariables op.vars = .ok vars → Brings r e → Accepted s →
      Json.parse r.body = .ok v → Json.parse s.body = .ok w →
      ∃ res : CallResult D, Returns client op (.ok r) res ∧
        (¬w.NullForList → Returns client op (.ok s) res) ∧
        (w.NullForList →
          ∃ why, Returns client op (.ok s) (.error (.decode (.json "" (.ofMismatch why))))) := by
  have hlenient := Envelope.lenient_saysAlike h
  have hread := Envelope.refines_lenient
  have hsame : ¬v.NullForList → ¬w.NullForList →
      ∀ e, Envelope.shape.read v = .ok e ↔ Envelope.shape.read w = .ok e := by
    intro hv hw e
    rw [hread v e, hread w e, hlenient e]
    simp only [hv, hw]
  have hlost : w.NullForList → ∃ why, Envelope.shape.read w = .error why := by
    intro hw
    cases hf : Envelope.shape.read w with
    | error why => exact ⟨why, rfl⟩
    | ok f => exact absurd hw ((hread w f).mp hf).2
  refine ⟨hsame, hlost, ?_⟩
  intro client op vars r s e hvars hr hs hpv hpw
  obtain ⟨-, tree, hp, hbody⟩ := id hr
  obtain rfl := Except.ok.inj (hpv.symm.trans hp)
  have he := (Envelope.read_iff v e).mpr hbody
  refine ⟨_, returns_run client op (.ok r), ?_, ?_⟩
  · intro hw
    have hbrings : Brings s e := .of_read hs hpw ((hsame ((hread v e).mp he).2 hw e).mp he)
    rw [run_eq_of_brings hvars hr hbrings]
    exact returns_run client op (.ok s)
  · intro hw
    obtain ⟨why, hwhy⟩ := hlost hw
    have hres := run_of_ends (Ends.of_misread hvars hs hpw hwhy)
    refine ⟨why, ?_⟩
    have hreturns := returns_run client op (.ok s)
    rwa [hres] at hreturns

/-- Null data and a null path of an error are no data and no path. -/
theorem null_members_alike_path :
    let error : List (String × Json) := [("message", .string "m")]
    let v : Json := .object [("errors", .array [.object error])]
    let w : Json := .object
      [("data", .null), ("errors", .array [.object (error ++ [("path", .null)])])]
    let r : HttpResponse := ⟨200, .empty, v.bytes⟩
    let s : HttpResponse := ⟨200, .empty, w.bytes⟩
    v.SaysAlike w ∧ ¬w.NullForList ∧ Brings r { errors := [{ message := "m" }] } ∧
      Envelope.shape.read w = .ok { errors := [{ message := "m" }] } ∧
      ∃ res, Returns Client.minimal .minimal (.ok r) res ∧
        Returns Client.minimal .minimal (.ok s) res := by
  intro error v w r s
  have hsaid : v.SaysAlike w := by
    have hdata : v.SpellsNull (.object (("data", .null) :: [("errors", .array [.object error])])) :=
      .envelope (@Json.GainsNull.intro _ [] _ _ (by decide) rfl)
    have hpath := Json.SpellsNull.error [("data", .null)] [] [] []
      (@Json.GainsNull.intro Json.errorOptions error [] "path" (by decide) rfl)
    exact .trans _ _ _ (.rel _ _ hdata) (.rel _ _ hpath)
  have hvlist : ¬v.NullForList := by
    simp [v, error, Json.NullForList, Json.standing, Json.under, Json.items, Json.NullLocations]
  have hwlist : ¬w.NullForList := by
    simp [w, error, Json.NullForList, Json.standing, Json.under, Json.items, Json.NullLocations]
  have hpv : Json.parse r.body = .ok v :=
    Json.parse_bytes (by simp [v, error, Json.IsIntegral, Json.HasIntegralMembers, Json.AreIntegral])
      (by decide)
  have hpw : Json.parse s.body = .ok w :=
    Json.parse_bytes (by simp [w, error, Json.IsIntegral, Json.HasIntegralMembers, Json.AreIntegral])
      (by decide)
  have hr : Brings r { errors := [{ message := "m" }] } :=
    .of_read (by simp [Accepted, r]) hpv rfl
  have hs : Accepted s := by simp [Accepted, s]
  obtain ⟨hsame, -, hcalls⟩ := null_members_alike (ι := TextDomain) (τ := Unit) (D := Json) hsaid
  obtain ⟨res, hres, hres', -⟩ := hcalls Client.minimal .minimal [] r s _ rfl hr hs hpv hpw
  exact ⟨hsaid, hwlist, hr, (hsame hvlist hwlist _).mp rfl, res, hres, hres' hwlist⟩

/-- Null errors beside data: without them the body is a response, with them the data is lost. -/
theorem null_errors_lost :
    let data : Json := .object [("ping", .string "pong")]
    let v : Json := .object [("data", data)]
    let w : Json := .object [("data", data), ("errors", .null)]
    let r : HttpResponse := ⟨200, .empty, v.bytes⟩
    let s : HttpResponse := ⟨200, .empty, w.bytes⟩
    v.SpellsNull w ∧ Envelope.shape.read v = .ok { data := some data } ∧
      (∀ e, Envelope.shape.read w ≠ .ok e) ∧
      Returns Client.minimal .minimal (.ok r) (.ok ⟨"", some data, [], none⟩) ∧
      Returns Client.minimal .minimal (.ok s)
        (.error (.decode (.json "" (.ofMismatch (.invalidType .null "a sequence"))))) := by
  intro data v w r s
  have hspells : v.SpellsNull w :=
    .envelope (@Json.GainsNull.intro _ [("data", data)] [] _ (by decide) rfl)
  have hread : Envelope.shape.read w = .error (.invalidType .null "a sequence") := rfl
  have hpv : Json.parse r.body = .ok v :=
    Json.parse_bytes (by simp [v, data, Json.IsIntegral, Json.HasIntegralMembers]) (by decide)
  have hpw : Json.parse s.body = .ok w :=
    Json.parse_bytes (by simp [w, data, Json.IsIntegral, Json.HasIntegralMembers]) (by decide)
  have hr : Accepted r := by simp [Accepted, r]
  have hs : Accepted s := by simp [Accepted, s]
  have hkept : Ends Client.minimal .minimal (.ok r) (.mapped { data := some data } data) :=
    .mapped rfl (.of_read hr hpv rfl) rfl (by simp [data]) rfl
  have hlost : Ends Client.minimal .minimal (.ok s) (.misshapen (.invalidType .null "a sequence")) :=
    .of_misread rfl hs hpw hread
  have hreturns := returns_run Client.minimal .minimal (.ok r)
  have hreturns' := returns_run Client.minimal .minimal (.ok s)
  rw [run_of_ends hkept] at hreturns
  rw [run_of_ends hlost] at hreturns'
  refine ⟨hspells, rfl, ?_, hreturns, hreturns'⟩
  intro e he
  cases hread.symm.trans he

end Exchange

end GraphClient
