import GraphClient.Proofs.Json.Records
import GraphClient.Response
import Mathlib.Data.List.Forall2

/-!
# What the body of a response says

An envelope is put down member by member, without regard to how it is read: what stands under each
name, what it is where nothing does, and which lists are read item by item. Each record may also
stand as the list of its fields. The shape of responses reads from a body exactly what it says.
-/

namespace GraphClient

variable {σ ρ α : Type}

namespace Json

def SaysOr (R : Json → α → Prop) (absent : α) : Option Json → α → Prop
  | none, a => a = absent
  | some v, a => R v a

/-- The member of a name says this, or there is no such member and this is what that means. -/
def MemberSays (R : Json → α → Prop) (absent : α) (name : String)
    (members : List (String × Json)) (a : α) : Prop :=
  ∃ standing : Option Json, under name members = standing.toList ∧ SaysOr R absent standing a

def SaysOption (R : Json → α → Prop) (v : Json) : Option α → Prop
  | none => v = .null
  | some a => v ≠ .null ∧ R v a

def SaysList (R : Json → α → Prop) (v : Json) (as : List α) : Prop :=
  ∃ items, v = .array items ∧ List.Forall₂ R items as

def SaysNat (v : Json) (n : Nat) : Prop := ∃ fits, v = .number (.int n fits)

def SaysSegment (v : Json) : PathSegment → Prop
  | .field name => v = .string name
  | .index i => v.SaysNat i.toNat

inductive SaysLocation : Json → Location → Prop
  | object {members : List (String × Json)} {l : Location}
    (line : HasOne (SaysNat · l.line.toNat) "line" members)
    (column : HasOne (SaysNat · l.column.toNat) "column" members) :
    SaysLocation (.object members) l
  | list {line column : Json} {l : Location} (hline : line.SaysNat l.line.toNat)
    (hcolumn : column.SaysNat l.column.toNat) : SaysLocation (.array [line, column]) l

/-- Null in place of a path or of metadata says that there is none, but null is no list of
locations. -/
inductive SaysServerError : Json → ServerError → Prop
  | object {members : List (String × Json)} {e : ServerError}
    (message : HasOne (· = .string e.message) "message" members)
    (locations : MemberSays (SaysList SaysLocation) [] "locations" members e.locations)
    (path : MemberSays (SaysOption (SaysList SaysSegment)) none "path" members e.path)
    (extensions : MemberSays (SaysOption Eq) none "extensions" members e.extensions) :
    SaysServerError (.object members) e
  | list {more : List Json} {e : ServerError} (short : more.length ≤ 3)
    (locations : SaysOr (SaysList SaysLocation) [] more[0]? e.locations)
    (path : SaysOr (SaysOption (SaysList SaysSegment)) none more[1]? e.path)
    (extensions : SaysOr (SaysOption Eq) none more[2]? e.extensions) :
    SaysServerError (.array (.string e.message :: more)) e

inductive SaysEnvelope : Json → Envelope → Prop
  | object {members : List (String × Json)} {e : Envelope}
    (data : MemberSays (SaysOption Eq) none "data" members e.data)
    (errors : MemberSays (SaysList SaysServerError) [] "errors" members e.errors)
    (extensions : MemberSays (SaysOption Eq) none "extensions" members e.extensions) :
    SaysEnvelope (.object members) e
  | list {items : List Json} {e : Envelope} (short : items.length ≤ 3)
    (data : SaysOr (SaysOption Eq) none items[0]? e.data)
    (errors : SaysOr (SaysList SaysServerError) [] items[1]? e.errors)
    (extensions : SaysOr (SaysOption Eq) none items[2]? e.extensions) :
    SaysEnvelope (.array items) e

end Json

open Json

/-! ### Fields

What a field of a record reads is put in terms of what its values say, given that its shape reads
just that. -/

namespace Fields

variable {name : String} {shape : Shape α} {R : Json → α → Prop}
  (h : ∀ v a, shape.read v = .ok a ↔ R v a) (rest : Fields σ ρ)

include h

theorem ofMembers_required_iff (members : List (String × Json)) (a : α) (row : ρ) :
    (field name shape .required rest).OfMembers members (a, row) ↔
      HasOne (R · a) name members ∧ rest.OfMembers members row := by
  simp [OfMembers, Presence.absent?, HasOne, h]

theorem ofMembers_optional_iff (absent : α) (members : List (String × Json)) (a : α) (row : ρ) :
    (field name shape (.optional absent) rest).OfMembers members (a, row) ↔
      MemberSays R absent name members a ∧ rest.OfMembers members row := by
  simp only [OfMembers, Presence.absent?, HasOne, h, Option.some.injEq, eq_comm (a := absent)]
  refine and_congr_left fun _ => ⟨?_, ?_⟩
  · rintro (⟨v, hunder, hv⟩ | ⟨hnone, ha⟩)
    · exact ⟨some v, hunder, hv⟩
    · exact ⟨none, hnone, ha⟩
  · rintro ⟨_ | v, hunder, hv⟩
    · exact .inr ⟨hunder, hv⟩
    · exact .inl ⟨v, hunder, hv⟩

theorem ofItems_required_iff (items : List Json) (a : α) (row : ρ) :
    (field name shape .required rest).OfItems items (a, row) ↔
      ∃ v more, items = v :: more ∧ R v a ∧ rest.OfItems more row := by
  cases items <;> simp [OfItems, h]

theorem ofItems_optional_iff (absent : α) (items : List Json) (a : α) (row : ρ) :
    (field name shape (.optional absent) rest).OfItems items (a, row) ↔
      SaysOr R absent items.head? a ∧ rest.OfItems items.tail row := by
  cases items <;> simp [OfItems, SaysOr, h, eq_comm]

end Fields

/-! ### Shapes -/

namespace Shape

variable {shape : Shape α} {R : Json → α → Prop} (h : ∀ v a, shape.read v = .ok a ↔ R v a)

include h

theorem readItems_iff_forall₂ (items : List Json) (as : List α) :
    readItems shape items = .ok as ↔ List.Forall₂ R items as := by
  induction items generalizing as with
  | nil => cases as <;> simp [readItems]
  | cons v rest ih => cases as <;> simp [readItems_cons_iff, h, ih]

theorem read_list_iff (v : Json) (as : List α) :
    shape.list.read v = .ok as ↔ v.SaysList R as := by
  cases v <;> simp [list, SaysList, readItems_iff_forall₂ h]

theorem read_option_iff (v : Json) (o : Option α) :
    shape.option.read v = .ok o ↔ v.SaysOption R o := by
  by_cases hnull : v = .null
  · subst hnull
    cases o <;> simp [option, SaysOption]
  · rw [read_option_of_ne_null hnull]
    cases hread : shape.read v <;> cases o <;> simp [SaysOption, hnull, ← h, hread, Except.map]

end Shape

/-- Of the integers that JSON holds, those of 32 bits. -/
theorem Shape.read_nat32_iff (v : Json) (n : Nat) :
    nat32.read v = .ok n ↔ v.SaysNat n ∧ n ≤ 4294967295 := by
  simp only [nat32, nat, read_map_iff, read_int_iff, SaysNat]
  constructor
  · rintro ⟨m, ⟨fits, rfl, hleast, hgreatest⟩, rfl⟩
    obtain ⟨k, rfl⟩ := Int.eq_ofNat_of_zero_le hleast
    exact ⟨⟨fits, rfl⟩, by omega⟩
  · rintro ⟨⟨fits, rfl⟩, hn⟩
    exact ⟨n, ⟨fits, rfl, by omega, by omega⟩, Int.toNat_natCast n⟩

theorem PathSegment.read_iff (v : Json) (s : PathSegment) :
    shape.read v = .ok s ↔ v.SaysSegment s := by
  have hread : shape.read v = .ok s ↔ ofJson? v = some s := by
    cases h : ofJson? v <;> simp [shape, Shape.pick, h]
  rw [hread]
  cases v with
  | string name => cases s <;> simp [ofJson?, SaysSegment, SaysNat]
  | number n =>
    cases n with
    | float x => cases s <;> simp [ofJson?, SaysSegment, SaysNat]
    | int n fits =>
      cases s with
      | field name => simp [ofJson?, SaysSegment]
      | index i =>
        by_cases h : 0 ≤ n
        · obtain ⟨k, rfl⟩ := Int.eq_ofNat_of_zero_le h
          have hk : k < 18446744073709551616 := by
            have := fits.2
            omega
          have hsame : k = i.toNat ↔ IsJsonInt i.toNat ∧ (k : Int) = i.toNat := by
            constructor
            · rintro rfl
              exact ⟨fits, rfl⟩
            · rintro ⟨-, hki⟩
              exact Int.ofNat_inj.mp hki
          simpa [ofJson?, SaysSegment, SaysNat, ← UInt64.toNat_inj, Nat.mod_eq_of_lt hk] using hsame
        · have hne : n ≠ i.toNat := by omega
          simp [ofJson?, SaysSegment, SaysNat, h, hne]
  | _ => cases s <;> simp [ofJson?, SaysSegment, SaysNat]

/-- A place that was read counts in 32 bits, so that each of its numbers is said as it is. -/
theorem Location.saysNat_iff (v : Json) (n : UInt32) :
    (∃ k, (v.SaysNat k ∧ k ≤ 4294967295) ∧ UInt32.ofNat k = n) ↔ v.SaysNat n.toNat := by
  constructor
  · rintro ⟨k, ⟨hv, hk⟩, rfl⟩
    rwa [UInt32.toNat_ofNat_of_lt' (by simpa [UInt32.size] using Nat.lt_succ_of_le hk)]
  · intro hv
    have := n.toNat_lt
    exact ⟨n.toNat, ⟨hv, by omega⟩, UInt32.ofNat_toNat⟩

theorem Location.read_iff (v : Json) (l : Location) :
    shape.read v = .ok l ↔ v.SaysLocation l := by
  refine Shape.read_record_iff_of _ _ (by simp [Fields.names]) ?_ ?_ ?_ v l
  · intro members l
    simp only [Prod.exists, Fields.ofMembers_required_iff Shape.read_nat32_iff, HasOne]
    constructor
    · rintro ⟨line, column, _, ⟨⟨v, hv, hline⟩, ⟨w, hw, hcolumn⟩, -⟩, rfl⟩
      exact .object ⟨v, hv, (saysNat_iff ..).mp ⟨line, hline, rfl⟩⟩
        ⟨w, hw, (saysNat_iff ..).mp ⟨column, hcolumn, rfl⟩⟩
    · rintro (⟨⟨v, hv, hline⟩, ⟨w, hw, hcolumn⟩⟩)
      obtain ⟨line, hline, hl⟩ := (saysNat_iff ..).mpr hline
      obtain ⟨column, hcolumn, hc⟩ := (saysNat_iff ..).mpr hcolumn
      exact ⟨line, column, (), ⟨⟨v, hv, hline⟩, ⟨w, hw, hcolumn⟩, trivial⟩, by simp [hl, hc]⟩
  · intro items l
    simp only [Prod.exists, Fields.ofItems_required_iff Shape.read_nat32_iff]
    constructor
    · rintro ⟨line, column, _, ⟨v, _, rfl, hline, w, _, rfl, hcolumn, rfl⟩, rfl⟩
      exact .list ((saysNat_iff ..).mp ⟨line, hline, rfl⟩)
        ((saysNat_iff ..).mp ⟨column, hcolumn, rfl⟩)
    · rintro (_ | ⟨hline, hcolumn⟩)
      obtain ⟨line, hline, hl⟩ := (saysNat_iff ..).mpr hline
      obtain ⟨column, hcolumn, hc⟩ := (saysNat_iff ..).mpr hcolumn
      exact ⟨line, column, (), ⟨_, _, rfl, hline, _, _, rfl, hcolumn, rfl⟩, by simp [hl, hc]⟩
  · rintro v l (h | h)
    · exact .inl ⟨_, rfl⟩
    · exact .inr ⟨_, rfl⟩

theorem ServerError.read_iff (v : Json) (e : ServerError) :
    shape.read v = .ok e ↔ v.SaysServerError e := by
  have hlocations := Shape.read_list_iff Location.read_iff
  have hpath := Shape.read_option_iff (Shape.read_list_iff PathSegment.read_iff)
  have hextensions := Shape.read_option_iff Shape.read_any_iff
  refine Shape.read_record_iff_of _ _ (by simp [Fields.names]) ?_ ?_ ?_ v e
  · intro members e
    simp only [Prod.exists, Fields.ofMembers_required_iff Shape.read_string_iff,
      Fields.ofMembers_optional_iff hlocations, Fields.ofMembers_optional_iff hpath,
      Fields.ofMembers_optional_iff hextensions]
    constructor
    · rintro ⟨message, locations, path, extensions, _, ⟨hm, hl, hp, hx, -⟩, rfl⟩
      exact .object hm hl hp hx
    · rintro ⟨hm, hl, hp, hx⟩
      exact ⟨_, _, _, _, (), ⟨hm, hl, hp, hx, trivial⟩, rfl⟩
  · intro items e
    simp only [Prod.exists, Fields.ofItems_required_iff Shape.read_string_iff,
      Fields.ofItems_optional_iff hlocations, Fields.ofItems_optional_iff hpath,
      Fields.ofItems_optional_iff hextensions, Fields.OfItems, ← List.drop_one, List.drop_drop,
      List.head?_eq_getElem?, List.getElem?_drop, List.drop_eq_nil_iff]
    constructor
    · rintro ⟨message, locations, path, extensions, _, ⟨_, more, rfl, rfl, hl, hp, hx, hs⟩, rfl⟩
      exact .list (e := ⟨message, locations, path, extensions⟩) hs hl hp hx
    · rintro (_ | ⟨hs, hl, hp, hx⟩)
      exact ⟨_, _, _, _, (), ⟨_, _, rfl, rfl, hl, hp, hx, hs⟩, rfl⟩
  · rintro v e (h | h)
    · exact .inl ⟨_, rfl⟩
    · exact .inr ⟨_, rfl⟩

/-- A body is read as the envelope that it says, and as no other. -/
theorem Envelope.read_iff (v : Json) (e : Envelope) :
    shape.read v = .ok e ↔ v.SaysEnvelope e := by
  have hany := Shape.read_option_iff Shape.read_any_iff
  have herrors := Shape.read_list_iff ServerError.read_iff
  refine Shape.read_record_iff_of _ _ (by simp [Fields.names]) ?_ ?_ ?_ v e
  · intro members e
    simp only [Prod.exists, Fields.ofMembers_optional_iff hany,
      Fields.ofMembers_optional_iff herrors]
    constructor
    · rintro ⟨data, errors, extensions, _, ⟨hd, he, hx, -⟩, rfl⟩
      exact .object hd he hx
    · rintro ⟨hd, he, hx⟩
      exact ⟨_, _, _, (), ⟨hd, he, hx, trivial⟩, rfl⟩
  · intro items e
    simp only [Prod.exists, Fields.ofItems_optional_iff hany, Fields.ofItems_optional_iff herrors,
      Fields.OfItems, ← List.drop_one, List.drop_drop, List.head?_eq_getElem?, List.getElem?_drop,
      List.drop_eq_nil_iff]
    constructor
    · rintro ⟨data, errors, extensions, _, ⟨hd, he, hx, hs⟩, rfl⟩
      exact .list hs hd he hx
    · rintro (_ | ⟨hs, hd, he, hx⟩)
      exact ⟨_, _, _, (), ⟨hd, he, hx, hs⟩, rfl⟩
  · rintro v e (h | h)
    · exact .inl ⟨_, rfl⟩
    · exact .inr ⟨_, rfl⟩

theorem Json.SaysEnvelope.unique {v : Json} {e f : Envelope} (h : v.SaysEnvelope e)
    (k : v.SaysEnvelope f) : e = f :=
  Except.ok.inj (((Envelope.read_iff v e).mpr h).symm.trans ((Envelope.read_iff v f).mpr k))

end GraphClient
