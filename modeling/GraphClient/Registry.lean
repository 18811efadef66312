import GraphClient.Scalar
import GraphClient.Error

/-!
The registry of custom scalars: the scalars a client knows, in the order they first came up, each
with its adapter once it has one. Registering and declaring a scalar leave the names that are known
where they are, and never take an adapter away.
-/

namespace GraphClient

variable {ι : Type} [Domains ι]

/-- A scalar that is known, and its adapter once it is registered. -/
structure RegistryEntry (ι : Type) [Domains ι] where
  scalar : ScalarType ι
  adapter : Option (Adapter ι)

/-- The known scalars, in the order in which their names came up. -/
structure Registry (ι : Type) [Domains ι] where
  entries : List (RegistryEntry ι) := []

namespace Registry

def empty : Registry ι := ⟨[]⟩

instance : Inhabited (Registry ι) := ⟨empty⟩

def names (r : Registry ι) : List String := r.entries.map (·.scalar.name)

def scalarTypes (r : Registry ι) : List (ScalarType ι) := r.entries.map (·.scalar)

def size (r : Registry ι) : Nat := r.entries.length

def isEmpty (r : Registry ι) : Bool := r.entries.isEmpty

def find? (r : Registry ι) (name : String) : Option (RegistryEntry ι) :=
  r.entries.find? fun e => e.scalar.name == name

def contains (r : Registry ι) (name : String) : Bool := (r.find? name).isSome

def hasAdapter (r : Registry ι) (name : String) : Bool :=
  (r.find? name).any (·.adapter.isSome)

/-- Puts an entry in the place of the one with its name, or at the end. -/
def put (entry : RegistryEntry ι) : List (RegistryEntry ι) → List (RegistryEntry ι)
  | [] => [entry]
  | e :: rest => if e.scalar.name = entry.scalar.name then entry :: rest else e :: put entry rest

/-- Registers the adapter of a scalar, in place of an earlier one. The adapter must handle the
domain type that the scalar maps to. -/
def register (r : Registry ι) (scalar : ScalarType ι) (adapter : Adapter ι) :
    Except ConfigurationError (Registry ι) :=
  if scalar.domain = adapter.domain then .ok ⟨put ⟨scalar, some adapter⟩ r.entries⟩
  else .error (.scalarTypeMismatch scalar.name scalar.typeName adapter.typeName)

/-- Makes a scalar known, unless its name is already. -/
def declare (r : Registry ι) (scalar : ScalarType ι) : Registry ι :=
  if r.contains scalar.name then r else ⟨r.entries ++ [⟨scalar, none⟩]⟩

/-- Every known scalar must have an adapter. -/
def validate (r : Registry ι) : Except ConfigurationError Unit :=
  match r.entries.find? (·.adapter.isNone) with
  | some e => .error (.missingScalarAdapter e.scalar.name)
  | none => .ok ()

inductive Reachable : Registry ι → Prop where
  | empty : Reachable empty
  | declare {r : Registry ι} (h : Reachable r) (scalar : ScalarType ι) :
    Reachable (r.declare scalar)
  | register {r r' : Registry ι} (h : Reachable r) {scalar : ScalarType ι} {adapter : Adapter ι}
    (ok : r.register scalar adapter = .ok r') : Reachable r'

/-- The second registry comes about from the first one by registrations under one name. -/
inductive Installs (name : String) (r : Registry ι) : Registry ι → Prop where
  | none : Installs name r r
  | register {r₁ r₂ : Registry ι} (h : Installs name r r₁) {scalar : ScalarType ι}
    {adapter : Adapter ι} (under : scalar.name = name)
    (ok : r₁.register scalar adapter = .ok r₂) : Installs name r r₂

def outline (r : Registry ι) : String :=
  Outline.list <| r.entries.map fun e =>
    Outline.tuple "" [e.scalar.outline, Outline.truth e.adapter.isSome]

@[simp] theorem names_empty : (empty : Registry ι).names = [] := rfl

theorem contains_iff (r : Registry ι) (name : String) :
    r.contains name = true ↔ name ∈ r.names := by
  simp [contains, find?, names]

/-- An entry goes into the place of its name; a new name stands at the end. -/
theorem map_name_put (entry : RegistryEntry ι) (es : List (RegistryEntry ι)) :
    (put entry es).map (·.scalar.name) =
      if entry.scalar.name ∈ es.map (·.scalar.name) then es.map (·.scalar.name)
      else es.map (·.scalar.name) ++ [entry.scalar.name] := by
  induction es with
  | nil => simp [put]
  | cons e rest ih =>
    unfold put
    by_cases h : e.scalar.name = entry.scalar.name
    · simp [h]
    · have h' : entry.scalar.name ≠ e.scalar.name := fun he => h he.symm
      simp only [h, if_false, List.map_cons, ih, List.mem_cons, h', false_or]
      split <;> simp

theorem find?_put (entry : RegistryEntry ι) (es : List (RegistryEntry ι)) (name : String) :
    (put entry es).find? (·.scalar.name == name) =
      if entry.scalar.name = name then some entry else es.find? (·.scalar.name == name) := by
  induction es with
  | nil => simp [put, List.find?]
  | cons e rest ih => grind [put]

/-- Neither a declaration nor a registration moves a name that is there. -/
theorem names_declare (r : Registry ι) (scalar : ScalarType ι) :
    (r.declare scalar).names =
      if scalar.name ∈ r.names then r.names else r.names ++ [scalar.name] := by
  unfold declare
  simp only [contains_iff]
  split <;> simp [names]

theorem names_register {r r' : Registry ι} {scalar : ScalarType ι} {adapter : Adapter ι}
    (h : r.register scalar adapter = .ok r') :
    r'.names = if scalar.name ∈ r.names then r.names else r.names ++ [scalar.name] := by
  unfold register at h
  split at h
  · obtain rfl := Except.ok.inj h
    exact map_name_put _ _
  · cases h

theorem hasAdapter_declare {r : Registry ι} {name : String} (scalar : ScalarType ι)
    (h : r.hasAdapter name = true) : (r.declare scalar).hasAdapter name = true := by
  unfold declare
  split
  · exact h
  · simp only [hasAdapter, find?, List.find?_append] at h ⊢
    cases hf : r.entries.find? (·.scalar.name == name) <;> simp_all

/-- A name never loses its adapter. -/
theorem hasAdapter_register {r r' : Registry ι} {scalar : ScalarType ι} {adapter : Adapter ι}
    {name : String} (hr : r.register scalar adapter = .ok r') (h : r.hasAdapter name = true) :
    r'.hasAdapter name = true := by
  unfold register at hr
  split at hr
  · obtain rfl := Except.ok.inj hr
    simp only [hasAdapter, find?, find?_put] at h ⊢
    split
    · rfl
    · exact h
  · cases hr

end Registry

end GraphClient
