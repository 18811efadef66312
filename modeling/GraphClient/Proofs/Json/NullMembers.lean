import GraphClient.Proofs.Json.Records

/-!
# Members that are null and members that are absent

A member that a record can do without may be left out or be null. The record is read alike in both
spellings where the shape of its field reads null as what stands for an absent member, and a shape
that does not take null at all can be compared with one that does.
-/

namespace GraphClient

variable {σ ρ α : Type}

namespace Json

theorem under_append (name : String) (before after : List (String × Json)) :
    under name (before ++ after) = under name before ++ under name after := by
  simp [under]

theorem under_cons_self (name : String) (v : Json) (rest : List (String × Json)) :
    under name ((name, v) :: rest) = v :: under name rest := by
  simp [under]

theorem under_cons_of_ne {name key : String} (h : key ≠ name) (v : Json)
    (rest : List (String × Json)) : under name ((key, v) :: rest) = under name rest := by
  simp [under, h]

/-- There is one member more on the right. It is null, has one of the names, and no other member has
its name. -/
inductive GainsNull (names : List String) :
    List (String × Json) → List (String × Json) → Prop
  | intro {before after : List (String × Json)} {name : String} (listed : name ∈ names)
    (absent : under name (before ++ after) = []) :
    GainsNull names (before ++ after) (before ++ (name, null) :: after)

/-- The values that stand for a field of a record: by its name in an object, by its place in a
list. -/
def standing (name : String) (place : Nat) : Json → List Json
  | object members => under name members
  | array items => items[place]?.toList
  | _ => []

end Json

namespace Shape

def ReadsAlike (shape : Shape α) (v w : Json) : Prop :=
  ∀ a, shape.read v = .ok a ↔ shape.read w = .ok a

/-- The shape reads as another one does, except that it does not take some values. -/
def Refines (shape other : Shape α) (P : Json → Prop) : Prop :=
  ∀ v a, shape.read v = .ok a ↔ other.read v = .ok a ∧ ¬P v

def nullAs (absent : α) (shape : Shape α) : Shape α := (option shape).map (·.getD absent)

@[simp] theorem read_nullAs_null (absent : α) (shape : Shape α) :
    (shape.nullAs absent).read .null = .ok absent := rfl

theorem read_nullAs_of_ne_null (absent : α) (shape : Shape α) {v : Json} (h : v ≠ .null) :
    (shape.nullAs absent).read v = shape.read v := by
  have hread : (shape.nullAs absent).read v = ((shape.read v).map some).map (·.getD absent) := by
    cases v <;> first | rfl | exact absurd rfl h
  rw [hread]
  cases shape.read v <;> rfl

/-- Values that are read alike can take each other's place in a list. -/
theorem ReadsAlike.list {shape : Shape α} {v w : Json} (h : shape.ReadsAlike v w)
    (before after : List Json) :
    shape.list.ReadsAlike (.array (before ++ v :: after)) (.array (before ++ w :: after)) := by
  intro as
  change readItems shape _ = _ ↔ readItems shape _ = _
  induction before generalizing as with
  | nil => simp only [List.nil_append, readItems_cons_iff, h _]
  | cons x before ih => simp only [List.cons_append, readItems_cons_iff, ih]

theorem ReadsAlike.nullAs {shape : Shape α} {v w : Json} (h : shape.ReadsAlike v w)
    (hv : v ≠ .null) (hw : w ≠ .null) (absent : α) : (shape.nullAs absent).ReadsAlike v w := by
  intro a
  rw [read_nullAs_of_ne_null absent shape hv, read_nullAs_of_ne_null absent shape hw]
  exact h a

/-- What is not taken as an item is not taken in a list. A list of no items could not tell. -/
theorem Refines.readItems {shape other : Shape α} {P : Json → Prop} (h : shape.Refines other P)
    (items : List Json) (as : List α) :
    Shape.readItems shape items = .ok as ↔
      Shape.readItems other items = .ok as ∧ ∀ x ∈ items, ¬P x := by
  induction items generalizing as with
  | nil => simp [Shape.readItems]
  | cons v rest ih =>
    simp only [readItems_cons_iff, List.forall_mem_cons, h v, ih]
    constructor
    · rintro ⟨a, bs, ⟨hv, hnot⟩, ⟨hrest, hnone⟩, rfl⟩
      exact ⟨⟨a, bs, hv, hrest, rfl⟩, hnot, hnone⟩
    · rintro ⟨⟨a, bs, hv, hrest, rfl⟩, hnot, hnone⟩
      exact ⟨a, bs, ⟨hv, hnot⟩, ⟨hrest, hnone⟩, rfl⟩

end Shape

namespace Fields

/-- Under each of the names null is read as what stands for a field that is left out. -/
def NullIsAbsent {σ ρ : Type} (names : List String) : Fields σ ρ → Prop
  | done => True
  | field name shape presence rest =>
    (name ∈ names → ∃ a, presence.absent? = some a ∧ shape.read .null = .ok a) ∧
      rest.NullIsAbsent names

/-- A member more that is null changes nothing. -/
theorem ofMembers_gainsNull {fs : Fields σ ρ} {names : List String} (h : fs.NullIsAbsent names)
    {members members' : List (String × Json)} (hg : Json.GainsNull names members members')
    (row : ρ) : fs.OfMembers members row ↔ fs.OfMembers members' row := by
  cases hg with
  | @intro before after key listed absent =>
    induction fs with
    | done => exact Iff.rfl
    | field name shape presence rest ih =>
      obtain ⟨a, row⟩ := row
      obtain ⟨hhere, hrest⟩ := h
      simp only [OfMembers, ih hrest]
      apply and_congr_left
      intro _
      by_cases hkey : key = name
      · subst hkey
        obtain ⟨b, habsent, hnull⟩ := hhere listed
        have hgained : Json.under key (before ++ (key, .null) :: after) = [.null] := by
          rw [Json.under_append, List.append_eq_nil_iff] at absent
          rw [Json.under_append, Json.under_cons_self, absent.1, absent.2, List.nil_append]
        simp [Json.HasOne, absent, hgained, habsent, hnull]
      · have hsame : Json.under name (before ++ (key, .null) :: after) =
            Json.under name (before ++ after) := by
          rw [Json.under_append, Json.under_cons_of_ne hkey, Json.under_append]
        simp only [Json.HasOne, hsame]

def ReadsAlike {σ ρ : Type} (name : String) (v w : Json) : Fields σ ρ → Prop
  | done => True
  | field key shape _ rest => (key = name → shape.ReadsAlike v w) ∧ rest.ReadsAlike name v w

/-- Values that are read alike under a name can take each other's place there. -/
theorem ofMembers_replace {fs : Fields σ ρ} {name : String} {v w : Json}
    (h : fs.ReadsAlike name v w) (before after : List (String × Json)) (row : ρ) :
    fs.OfMembers (before ++ (name, v) :: after) row ↔
      fs.OfMembers (before ++ (name, w) :: after) row := by
  induction fs with
  | done => exact Iff.rfl
  | field key shape presence rest ih =>
    obtain ⟨a, row⟩ := row
    obtain ⟨hhere, hrest⟩ := h
    simp only [OfMembers, ih hrest]
    apply and_congr_left
    intro _
    by_cases hkey : name = key
    · subst hkey
      have hread := hhere rfl a
      simp only [Json.HasOne, Json.under_append, Json.under_cons_self]
      cases Json.under name before <;> cases Json.under name after <;> simp [hread]
    · simp only [Json.HasOne, Json.under_append, Json.under_cons_of_ne hkey]

/-- The fields take a value for a row as others do, except that they do not take some values. -/
def Refines (fs other : Fields σ ρ) (P : Json → Prop) : Prop :=
  ∀ v row, fs.Gives v row ↔ other.Gives v row ∧ ¬P v

theorem refines_field {shape other : Shape α} {P : Json → Prop} (h : shape.Refines other P)
    (name : String) (presence : Presence α) (rest : Fields σ ρ) :
    (field name shape presence rest).Refines (field name other presence rest)
      fun v => ∃ w ∈ v.standing name 0, P w := by
  rintro v ⟨a, row⟩
  cases v with
  | object members =>
    simp only [Gives, OfMembers, Json.standing, Json.HasOne, h _ a]
    cases hunder : Json.under name members with
    | nil => simp
    | cons w more =>
      cases more with
      | nil => simp; tauto
      | cons w' more => simp
  | array items =>
    cases items with
    | nil => simp [Gives, OfItems, Json.standing]
    | cons w items =>
      simp [Gives, OfItems, Json.standing, h w a]
      tauto
  | null | bool | number | string => simp [Gives]

theorem Refines.field {fs other : Fields σ ρ} {P : Json → Prop} {key : String} {place : Nat}
    (h : fs.Refines other fun v => ∃ w ∈ v.standing key place, P w) (name : String)
    (shape : Shape α) (presence : Presence α) :
    (field name shape presence fs).Refines (field name shape presence other)
      fun v => ∃ w ∈ v.standing key (place + 1), P w := by
  rintro v ⟨a, row⟩
  cases v with
  | object members =>
    have hrest := h (.object members) row
    simp only [Gives, Json.standing] at hrest
    simp only [Gives, OfMembers, Json.standing, hrest, and_assoc]
  | array items =>
    cases items with
    | nil =>
      have hrest := h (.array []) row
      simp only [Gives, Json.standing] at hrest
      simp [Gives, OfItems, Json.standing, hrest]
    | cons w items =>
      have hrest := h (.array items) row
      simp only [Gives, Json.standing] at hrest
      simp only [Gives, OfItems, Json.standing, hrest, List.getElem?_cons_succ, and_assoc]
  | null | bool | number | string => simp [Gives]

end Fields

namespace Shape

/-- A record is read alike from members whose rows are the same. -/
theorem readsAlike_record (name : String) {fs : Fields σ ρ} (build : ρ → α) (h : fs.names.Nodup)
    {members members' : List (String × Json)}
    (hrows : ∀ row, fs.OfMembers members row ↔ fs.OfMembers members' row) :
    (record name fs build).ReadsAlike (.object members) (.object members') := by
  intro a
  simp only [read_record_iff name build h]
  exact exists_congr fun row => and_congr_left fun _ => hrows row

/-- A record is not taken where its fields are not. -/
theorem refines_record (name : String) {fs other : Fields σ ρ} (build : ρ → α)
    {P : Json → Prop} (h : fs.Refines other P) (hfs : fs.names.Nodup) (hother : other.names.Nodup) :
    (record name fs build).Refines (record name other build) P := by
  intro v a
  simp only [read_record_iff name build hfs, read_record_iff name build hother, h v]
  constructor
  · rintro ⟨row, ⟨hrow, hnot⟩, rfl⟩
    exact ⟨⟨row, hrow, rfl⟩, hnot⟩
  · rintro ⟨⟨row, hrow, rfl⟩, hnot⟩
    exact ⟨row, ⟨hrow, hnot⟩, rfl⟩

end Shape

end GraphClient
