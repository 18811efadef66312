import GraphClient.Json.Record
import Mathlib.Data.List.Induction

/-!
# What is read as a record

A record is read from an object whose members stand for its fields, each field once at most, or
from a list that gives the fields in order. What a value is read as is described field by field,
apart from the slots in which the reader keeps what it has found so far.
-/

namespace GraphClient

variable {σ ρ α β : Type}

namespace Json

/-- The values under a name among the members of an object. -/
def under (name : String) (members : List (String × Json)) : List Json :=
  (members.filter fun m => m.1 = name).map (·.2)

@[simp] theorem under_nil (name : String) : under name [] = [] := rfl

theorem under_concat_self (name : String) (members : List (String × Json)) (v : Json) :
    under name (members ++ [(name, v)]) = under name members ++ [v] := by
  simp [under]

theorem under_concat_of_ne {name key : String} (members : List (String × Json)) (v : Json)
    (h : key ≠ name) : under name (members ++ [(key, v)]) = under name members := by
  simp [under, h]

def HasOne (P : Json → Prop) (name : String) (members : List (String × Json)) : Prop :=
  ∃ v, under name members = [v] ∧ P v

/-- If a member has the name, it is the only one, and its value is so. -/
def HasAtMostOne (P : Json → Prop) (name : String) (members : List (String × Json)) : Prop :=
  under name members = [] ∨ HasOne P name members

end Json

def Presence.absent? : Presence α → Option α
  | required => none
  | nullable a => some a
  | optional a => some a

/-- A slot for values under a name holds what the members say. -/
def Shape.Fills (shape : Shape α) (name : String) (members : List (String × Json)) :
    Option α → Prop
  | none => Json.under name members = []
  | some a => Json.HasOne (fun v => shape.read v = .ok a) name members

namespace Fields

def names {σ ρ : Type} : Fields σ ρ → List String
  | done => []
  | field name _ _ rest => name :: rest.names

def Filled {σ ρ : Type} : Fields σ ρ → List (String × Json) → σ → Prop
  | done, _, () => True
  | field name shape _ rest, members, (slot, slots) =>
    shape.Fills name members slot ∧ rest.Filled members slots

/-- The members give this row: a field that none of them names is what it is when left out. -/
def OfMembers {σ ρ : Type} : Fields σ ρ → List (String × Json) → ρ → Prop
  | done, _, () => True
  | field name shape presence rest, members, (a, row) =>
    (Json.HasOne (fun v => shape.read v = .ok a) name members ∨
      Json.under name members = [] ∧ presence.absent? = some a) ∧ rest.OfMembers members row

/-- The items give this row, one for each field in order; those at the end may be left out. -/
def OfItems {σ ρ : Type} : Fields σ ρ → List Json → ρ → Prop
  | done, items, () => items = []
  | field _ shape _ rest, v :: items, (a, row) => shape.read v = .ok a ∧ rest.OfItems items row
  | field _ _ presence rest, [], (a, row) => presence = .optional a ∧ rest.OfItems [] row

theorem filled_nil_iff (fs : Fields σ ρ) (slots : σ) : fs.Filled [] slots ↔ slots = fs.empty := by
  induction fs with
  | done => simp [Filled]
  | field name shape presence rest ih =>
    obtain ⟨slot, slots⟩ := slots
    cases slot with
    | none => simp [Filled, Shape.Fills, empty, ih]
    | some a => simp [Filled, Shape.Fills, empty, Json.HasOne]

theorem fills_concat_of_ne (shape : Shape α) {name key : String} (h : key ≠ name)
    (members : List (String × Json)) (v : Json) (slot : Option α) :
    shape.Fills name (members ++ [(key, v)]) slot ↔ shape.Fills name members slot := by
  have hunder := Json.under_concat_of_ne members v h
  cases slot with
  | none => simp only [Shape.Fills, hunder]
  | some a => simp only [Shape.Fills, Json.HasOne, hunder]

/-- A member of the name fills a slot that was empty. -/
theorem fills_concat_self (shape : Shape α) (name : String) (members : List (String × Json))
    (v : Json) (slot : Option α) :
    shape.Fills name (members ++ [(name, v)]) slot ↔
      shape.Fills name members none ∧ ∃ a, shape.read v = .ok a ∧ slot = some a := by
  cases slot with
  | none => simp [Shape.Fills, Json.under_concat_self]
  | some a =>
    simp only [Shape.Fills, Json.HasOne, Json.under_concat_self]
    constructor
    · rintro ⟨w, hw, hread⟩
      obtain ⟨hnone, rfl⟩ : Json.under name members = [] ∧ v = w := by
        simpa [List.append_eq_singleton_iff] using hw
      exact ⟨hnone, a, hread, rfl⟩
    · rintro ⟨hnone, b, hread, hb⟩
      obtain rfl := Option.some.inj hb
      exact ⟨v, by simp [hnone], hread⟩

/-- A member of another name changes nothing. -/
theorem filled_concat_of_notMem (fs : Fields σ ρ) {key : String} (h : key ∉ fs.names)
    (members : List (String × Json)) (v : Json) (slots : σ) :
    fs.Filled (members ++ [(key, v)]) slots ↔ fs.Filled members slots := by
  induction fs with
  | done => simp only [Filled]
  | field name shape presence rest ih =>
    obtain ⟨slot, slots⟩ := slots
    simp only [names, List.mem_cons, not_or] at h
    simp only [Filled, fills_concat_of_ne shape h.1, ih h.2]

/-- A member of the name is taken into the slot, once. -/
theorem readMember_self_iff (name : String) (shape : Shape α) (presence : Presence α)
    (rest : Fields σ ρ) (v : Json) (slot : Option α) (slots : σ) (after : Option α × σ) :
    (field name shape presence rest).readMember name v (slot, slots) = .ok after ↔
      slot = none ∧ ∃ a, shape.read v = .ok a ∧ (some a, slots) = after := by
  cases slot with
  | some b => simp [readMember]
  | none => cases hread : shape.read v <;> simp [readMember, hread, Except.map]

/-- A member of another name is left to the other fields. -/
theorem readMember_other_iff {name key : String} (h : key ≠ name) (shape : Shape α)
    (presence : Presence α) (rest : Fields σ ρ) (v : Json) (slot : Option α) (slots : σ)
    (after : Option α × σ) :
    (field name shape presence rest).readMember key v (slot, slots) = .ok after ↔
      ∃ slots', rest.readMember key v slots = .ok slots' ∧ (slot, slots') = after := by
  cases hread : rest.readMember key v slots <;> simp [readMember, h, hread, Except.map]

/-- Slots hold one member more exactly if they come of taking it in. -/
theorem filled_concat_iff (fs : Fields σ ρ) (h : fs.names.Nodup) (members : List (String × Json))
    (key : String) (v : Json) (after : σ) :
    fs.Filled (members ++ [(key, v)]) after ↔
      ∃ slots, fs.Filled members slots ∧ fs.readMember key v slots = .ok after := by
  induction fs with
  | done => simp [Filled, readMember]
  | field name shape presence rest ih =>
    obtain ⟨slot, after⟩ := after
    obtain ⟨hname, hrest⟩ := List.nodup_cons.mp h
    by_cases hkey : key = name
    · subst hkey
      simp only [Filled, fills_concat_self, filled_concat_of_notMem rest hname, Prod.exists,
        readMember_self_iff]
      constructor
      · rintro ⟨⟨hnone, a, hread, rfl⟩, hafter⟩
        exact ⟨none, after, ⟨hnone, hafter⟩, rfl, a, hread, rfl⟩
      · rintro ⟨_, slots, ⟨hfills, hfilled⟩, rfl, a, hread, hafter⟩
        obtain ⟨rfl, rfl⟩ := Prod.mk.inj hafter
        exact ⟨⟨hfills, a, hread, rfl⟩, hfilled⟩
    · simp only [Filled, fills_concat_of_ne shape hkey, ih hrest, Prod.exists,
        readMember_other_iff hkey]
      constructor
      · rintro ⟨hfills, slots, hfilled, hread⟩
        exact ⟨slot, slots, ⟨hfills, hfilled⟩, after, hread, rfl⟩
      · rintro ⟨before, slots, ⟨hfills, hfilled⟩, slots', hread, hafter⟩
        obtain ⟨rfl, rfl⟩ := Prod.mk.inj hafter
        exact ⟨hfills, slots, hfilled, hread⟩

theorem readMembers_cons_iff (fs : Fields σ ρ) (key : String) (v : Json)
    (members : List (String × Json)) (slots after : σ) :
    fs.readMembers ((key, v) :: members) slots = .ok after ↔
      ∃ mid, fs.readMember key v slots = .ok mid ∧ fs.readMembers members mid = .ok after := by
  cases h : fs.readMember key v slots <;> simp [readMembers, h, bind, Except.bind]

theorem readMembers_concat (fs : Fields σ ρ) (members : List (String × Json)) (key : String)
    (v : Json) (slots : σ) :
    fs.readMembers (members ++ [(key, v)]) slots =
      (fs.readMembers members slots).bind (fs.readMember key v) := by
  induction members generalizing slots with
  | nil =>
    cases h : fs.readMember key v slots <;>
      simp [readMembers, h, bind, Except.bind]
  | cons m members ih =>
    obtain ⟨other, w⟩ := m
    cases h : fs.readMember other w slots <;>
      simp [readMembers, h, ih, bind, Except.bind]

/-- Reading the members of an object, whatever their order, ends in the slots that hold what they
say. The induction takes the members from the last one on, as slots are filled from the first. -/
theorem readMembers_iff (fs : Fields σ ρ) (h : fs.names.Nodup) (members : List (String × Json))
    (slots : σ) : fs.readMembers members fs.empty = .ok slots ↔ fs.Filled members slots := by
  induction members using List.reverseRecOn generalizing slots with
  | nil =>
    rw [filled_nil_iff]
    simp [readMembers, eq_comm]
  | append_singleton members m ih =>
    obtain ⟨key, v⟩ := m
    rw [filled_concat_iff fs h, readMembers_concat]
    cases hread : fs.readMembers members fs.empty with
    | error why => simp [Except.bind, ← ih, hread]
    | ok before => simp [Except.bind, ← ih, hread]

theorem row_field_iff (name : String) (shape : Shape α) (presence : Presence α)
    (rest : Fields σ ρ) (slot : Option α) (slots : σ) (a : α) (row : ρ) :
    (field name shape presence rest).row (slot, slots) = .ok (a, row) ↔
      slot.or presence.absent? = some a ∧ rest.row slots = .ok row := by
  cases hrow : rest.row slots with
  | error why =>
    cases slot <;> cases presence <;> simp [Fields.row, hrow, bind, Except.bind]
  | ok row' =>
    cases slot <;> cases presence <;>
      simp [Fields.row, hrow, bind, Except.bind, pure, Except.pure, Presence.absent?]

/-- The row of filled slots is the one the members give. -/
theorem row_iff (fs : Fields σ ρ) (members : List (String × Json)) (row : ρ) :
    (∃ slots, fs.Filled members slots ∧ fs.row slots = .ok row) ↔ fs.OfMembers members row := by
  induction fs with
  | done => simp [Filled, OfMembers, Fields.row]
  | field name shape presence rest ih =>
    obtain ⟨a, row⟩ := row
    simp only [OfMembers, ← ih]
    constructor
    · rintro ⟨⟨slot, slots⟩, ⟨hfills, hfilled⟩, hrow⟩
      obtain ⟨hslot, hrest⟩ := (row_field_iff ..).mp hrow
      refine ⟨?_, slots, hfilled, hrest⟩
      cases slot with
      | none => exact .inr ⟨hfills, by simpa using hslot⟩
      | some b =>
        obtain rfl : b = a := by simpa using hslot
        exact .inl hfills
    · rintro ⟨hone | ⟨hnone, habsent⟩, slots, hfilled, hrest⟩
      · exact ⟨(some a, slots), ⟨hone, hfilled⟩, (row_field_iff ..).mpr ⟨rfl, hrest⟩⟩
      · exact ⟨(none, slots), ⟨hnone, hfilled⟩, (row_field_iff ..).mpr ⟨habsent, hrest⟩⟩

theorem readItems_cons (name : String) (shape : Shape α) (presence : Presence α)
    (rest : Fields σ ρ) (expected : String) (index : Nat) (v : Json) (items : List Json) :
    (field name shape presence rest).readItems expected index (v :: items) = (do
      let a ← shape.read v
      let (row, items) ← rest.readItems expected (index + 1) items
      return ((a, row), items)) := rfl

theorem readItems_nil (name : String) (shape : Shape α) (presence : Presence α)
    (rest : Fields σ ρ) (expected : String) (index : Nat) :
    (field name shape presence rest).readItems expected index [] =
      match presence with
      | .optional a => do
        let (row, items) ← rest.readItems expected (index + 1) []
        return ((a, row), items)
      | _ => .error (.invalidLength index expected) := by
  cases presence <;> rfl

/-- Reading a list takes all its items exactly if they give the row. -/
theorem readItems_iff (fs : Fields σ ρ) (expected : String) (index : Nat) (items : List Json)
    (row : ρ) : fs.readItems expected index items = .ok (row, []) ↔ fs.OfItems items row := by
  induction fs generalizing index items with
  | done =>
    have hdone : (done).readItems expected index items = .ok ((), items) := rfl
    simp [hdone, OfItems]
  | field name shape presence rest ih =>
    obtain ⟨a, row⟩ := row
    cases items with
    | nil =>
      rw [readItems_nil]
      cases presence with
      | required => simp [OfItems]
      | nullable absent => simp [OfItems]
      | optional absent =>
        simp only [OfItems, ← ih (index + 1)]
        cases h : rest.readItems expected (index + 1) [] <;>
          simp [bind, Except.bind, pure, Except.pure, Prod.ext_iff, and_assoc]
    | cons v items =>
      simp only [readItems_cons, OfItems, ← ih (index + 1)]
      cases hv : shape.read v with
      | error why => simp [bind, Except.bind]
      | ok b =>
        cases h : rest.readItems expected (index + 1) items <;>
          simp [bind, Except.bind, pure, Except.pure, Prod.ext_iff, and_assoc]

/-- The value gives this row, as an object or as a list. -/
def Gives (fs : Fields σ ρ) : Json → ρ → Prop
  | .object members, row => fs.OfMembers members row
  | .array items, row => fs.OfItems items row
  | _, _ => False

end Fields

namespace Shape

theorem read_any_iff (v w : Json) : any.read v = .ok w ↔ v = w := by simp [any]

theorem read_string_iff (v : Json) (s : String) : string.read v = .ok s ↔ v = .string s := by
  cases v <;> simp [string, scalar]

theorem read_map_iff (f : α → β) (shape : Shape α) (v : Json) (b : β) :
    (shape.map f).read v = .ok b ↔ ∃ a, shape.read v = .ok a ∧ f a = b := by
  cases h : shape.read v <;> simp [map, h, Except.map]

theorem read_int_iff (name : String) (least greatest : Int) (v : Json) (n : Int) :
    (int name least greatest).read v = .ok n ↔
      ∃ h, v = .number (.int n h) ∧ least ≤ n ∧ n ≤ greatest := by
  cases v with
  | number m =>
    cases m with
    | int m fits =>
      by_cases h : least ≤ m ∧ m ≤ greatest
      · simp only [int, scalar, if_pos h, Option.getD_some]
        constructor
        · rintro ⟨⟩
          exact ⟨fits, rfl, h⟩
        · rintro ⟨fits', ⟨⟩, -⟩
          rfl
      · simp only [int, scalar, if_neg h, Option.getD_some]
        constructor
        · rintro ⟨⟩
        · rintro ⟨fits', ⟨⟩, hbounds⟩
          exact absurd hbounds h
    | float x => simp [int, scalar]
  | _ => simp [int, scalar]

theorem read_option_of_ne_null {v : Json} (h : v ≠ .null) (shape : Shape α) :
    shape.option.read v = (shape.read v).map some := by
  cases v <;> first | rfl | exact absurd rfl h

theorem readItems_cons_iff (shape : Shape α) (v : Json) (rest : List Json) (as : List α) :
    readItems shape (v :: rest) = .ok as ↔
      ∃ a bs, shape.read v = .ok a ∧ readItems shape rest = .ok bs ∧ a :: bs = as := by
  cases hv : shape.read v with
  | error why => simp [readItems, hv, bind, Except.bind]
  | ok a =>
    cases hrest : readItems shape rest <;>
      simp [readItems, hv, hrest, bind, Except.bind, pure, Except.pure]

/-- From an object a record is read by way of the slots that its members fill. -/
theorem read_record_object_iff (name : String) (fs : Fields σ ρ) (build : ρ → α)
    (members : List (String × Json)) (a : α) :
    (record name fs build).read (.object members) = .ok a ↔
      ∃ slots row, fs.readMembers members fs.empty = .ok slots ∧ fs.row slots = .ok row ∧
        build row = a := by
  have hread : (record name fs build).read (.object members) =
      (fs.readMembers members fs.empty).bind fun slots => (fs.row slots).map build := rfl
  rw [hread]
  cases hslots : fs.readMembers members fs.empty with
  | error why => simp [Except.bind]
  | ok slots => cases hrow : fs.row slots <;> simp [Except.bind, Except.map, hrow]

/-- A record is read from what gives its row. -/
theorem read_record_iff (name : String) {fs : Fields σ ρ} (build : ρ → α) (h : fs.names.Nodup)
    (v : Json) (a : α) :
    (record name fs build).read v = .ok a ↔ ∃ row, fs.Gives v row ∧ build row = a := by
  cases v with
  | object members =>
    simp only [read_record_object_iff, Fields.Gives, ← Fields.row_iff, ← Fields.readMembers_iff fs h]
    constructor
    · rintro ⟨slots, row, hslots, hrow, rfl⟩
      exact ⟨row, ⟨slots, hslots, hrow⟩, rfl⟩
    · rintro ⟨row, ⟨slots, hslots, hrow⟩, rfl⟩
      exact ⟨slots, row, hslots, hrow, rfl⟩
  | array items =>
    simp only [Fields.Gives, ← Fields.readItems_iff fs (record.expectedItems name fs) 0, record]
    cases hitems : fs.readItems (record.expectedItems name fs) 0 items with
    | error why => simp [bind, Except.bind]
    | ok r =>
      obtain ⟨row, beyond⟩ := r
      cases beyond <;> simp [bind, Except.bind, pure, Except.pure, throw, throwThe, MonadExceptOf.throw]
  | _ => simp [record, Fields.Gives]

/-- Where a record stands as an object or as a list, its reader is known from both. -/
theorem read_record_iff_of {R : Json → α → Prop} (name : String) {fs : Fields σ ρ}
    (build : ρ → α) (h : fs.names.Nodup)
    (hobject : ∀ members a, (∃ row, fs.OfMembers members row ∧ build row = a) ↔
      R (.object members) a)
    (harray : ∀ items a, (∃ row, fs.OfItems items row ∧ build row = a) ↔ R (.array items) a)
    (honly : ∀ v a, R v a → (∃ members, v = .object members) ∨ ∃ items, v = .array items)
    (v : Json) (a : α) : (record name fs build).read v = .ok a ↔ R v a := by
  rw [read_record_iff name build h]
  cases v with
  | object members => exact hobject members a
  | array items => exact harray items a
  | _ =>
    constructor
    · rintro ⟨row, ⟨⟩, -⟩
    · intro hR
      rcases honly _ _ hR with ⟨members, hv⟩ | ⟨items, hv⟩ <;> cases hv

end Shape

end GraphClient
