import GraphClient.Proofs.Variables.Bindings
import GraphClient.Proofs.Variables.Encoding

/-!
# The last value of a name

The last value that was bound to a name counts, in the variables and in every object among them, and
a value that was replaced is not even looked at. Faults come from left to right, names in the order
in which they first came up, and each names the innermost binding around it.
-/

namespace GraphClient

variable {ι : Type} [Domains ι]

/-! ### The values that count -/

namespace Leaf

/-- What is wrong with a value that goes by a name. -/
def fault? (c : Codec ι) (name : String) : Leaf ι → Option EncodeError
  | plain value =>
    match value.toJson with
    | .ok _ => none
    | .error why => some (.invalidVariable name why.message)
  | custom scalar t _ =>
    match c.adapter? scalar.name with
    | none => some (.unknownScalar scalar.name name)
    | some a =>
      if t = a.domain then none
      else some (.scalarTypeMismatch scalar.name name a.typeName (Domains.typeName t))
  | null | json _ => none
  | invalid message => some (.invalidVariable name message)

inductive Writes (c : Codec ι) : Leaf ι → Json → Prop
  | plain {value : Plain} {v : Json} (h : value.toJson = .ok v) : Writes c (plain value) v
  | custom {scalar : ScalarType ι} {t : ι} {wire : Wire (Domains.Carrier t)}
    (x : Domains.Carrier t) (h : c.adapter? scalar.name = some ⟨t, wire⟩) :
    Writes c (custom scalar t x) (.string (wire.encode x))
  | null : Writes c null .null
  | json (v : Json) : Writes c (json v) v

end Leaf

namespace Draft

mutual

/-- All that counts in a value, from left to right, each with the name of the innermost binding
around it. The names of an object stand in the order in which they first came up, each with its last
value. -/
def leaves (name : String) : Draft ι → List (String × Leaf ι)
  | leaf l => [(name, l)]
  | customs scalar t xs => xs.map fun x => (name, .custom scalar t x)
  | list items => leavesOfItems name items
  | object history => (Entries.settled (leafTable history)).flatMap (·.2)

def leavesOfItems (name : String) : List (Draft ι) → List (String × Leaf ι)
  | [] => []
  | d :: rest => leaves name d ++ leavesOfItems name rest

def leafTable : List (String × Draft ι) → List (String × List (String × Leaf ι))
  | [] => []
  | (name, d) :: rest => (name, leaves name d) :: leafTable rest

end

def leavesOf (h : List (String × Draft ι)) : List (String × Leaf ι) :=
  (Entries.settled h).flatMap fun p => p.2.leaves p.1

/-- What a value is written as: a list item by item, an object in name order with the last value of
each name. -/
inductive Writes (c : Codec ι) : Draft ι → Json → Prop
  | leaf {l : Leaf ι} {v : Json} (h : l.Writes c v) : Writes c (leaf l) v
  | customs {scalar : ScalarType ι} {t : ι} {xs : List (Domains.Carrier t)} {vs : List Json}
    (h : List.Forall₂ (fun x v => (Leaf.custom scalar t x).Writes c v) xs vs) :
    Writes c (customs scalar t xs) (.array vs)
  | list {items : List (Draft ι)} {vs : List Json} (h : List.Forall₂ (Writes c) items vs) :
    Writes c (list items) (.array vs)
  | object {history : List (String × Draft ι)} {ms : Entries Json} (sorted : Entries.Sorted ms)
    (h : ∀ name, Option.Rel (Writes c) (Entries.last? name history) (Entries.find? name ms)) :
    Writes c (object history) (.object ms)

/-- The same, apart from one value that is replaced later, at whatever depth. -/
inductive ReplacedApart : Draft ι → Draft ι → Prop
  | here (before after : List (String × Draft ι)) {name : String} (d e : Draft ι)
    (h : name ∈ after.map (·.1)) :
    ReplacedApart (object (before ++ (name, d) :: after)) (object (before ++ (name, e) :: after))
  | item (before after : List (Draft ι)) {d e : Draft ι} (h : ReplacedApart d e) :
    ReplacedApart (list (before ++ d :: after)) (list (before ++ e :: after))
  | member (before after : List (String × Draft ι)) (name : String) {d e : Draft ι}
    (h : ReplacedApart d e) :
    ReplacedApart (object (before ++ (name, d) :: after)) (object (before ++ (name, e) :: after))

end Draft

/-! ### Leaves -/

namespace Leaf

@[simp] theorem writes_plain_iff {c : Codec ι} {value : Plain} {v : Json} :
    (plain value).Writes c v ↔ value.toJson = .ok v :=
  ⟨fun | .plain h => h, .plain⟩

theorem writes_custom_iff {c : Codec ι} {scalar : ScalarType ι} {t : ι} {x : Domains.Carrier t}
    {v : Json} :
    (custom scalar t x).Writes c v ↔
      ∃ wire, c.adapter? scalar.name = some ⟨t, wire⟩ ∧ v = .string (wire.encode x) := by
  constructor
  · rintro ⟨⟩
    rename_i wire h
    exact ⟨wire, h, rfl⟩
  · rintro ⟨wire, h, rfl⟩
    exact .custom x h

@[simp] theorem writes_null_iff {c : Codec ι} {v : Json} :
    (null : Leaf ι).Writes c v ↔ v = .null :=
  ⟨fun | .null => rfl, fun h => h ▸ .null⟩

@[simp] theorem writes_json_iff {c : Codec ι} {v w : Json} :
    (json v : Leaf ι).Writes c w ↔ w = v :=
  ⟨fun | .json _ => rfl, fun h => h ▸ .json w⟩

@[simp] theorem not_writes_invalid {c : Codec ι} {message : String} {v : Json} :
    ¬(invalid message : Leaf ι).Writes c v :=
  nofun

theorem encodeScalarFor_iff {c : Codec ι} {scalar : ScalarType ι} {t : ι} {x : Domains.Carrier t}
    {name : String} {v : Json} :
    c.encodeScalarFor scalar t x name = .ok v ↔ (custom scalar t x).Writes c v := by
  rw [writes_custom_iff, Codec.encodeScalarFor]
  cases ha : c.adapter? scalar.name with
  | none => simp
  | some a =>
    obtain ⟨domain, wire⟩ := a
    by_cases ht : t = domain
    · subst ht
      simp [eq_comm]
    · have hne : ¬domain = t := fun he => ht he.symm
      simp [ht, hne]

/-- A value is encoded to what it is written as, whatever its name. -/
theorem encode_iff (c : Codec ι) (name : String) (l : Leaf ι) (v : Json) :
    l.make.encode c name = .ok v ↔ l.Writes c v := by
  cases l with
  | plain value =>
    cases hvalue : value.toJson <;>
      simp [make, VariableValue.plain, hvalue, VariableValue.encode]
  | custom scalar t x =>
    rw [make, VariableValue.encode]
    exact encodeScalarFor_iff
  | null => simp [make, VariableValue.encode, eq_comm]
  | json w => simp [make, VariableValue.encode, eq_comm]
  | invalid message => simp [make, VariableValue.encode]

theorem of?_encode (c : Codec ι) (name : String) (l : Leaf ι) :
    EncodeError.of? (l.make.encode c name) = l.fault? c name := by
  cases l with
  | plain value =>
    cases hvalue : value.toJson <;>
      simp [make, VariableValue.plain, hvalue, VariableValue.encode, fault?, EncodeError.of?]
  | custom scalar t x =>
    rw [make, VariableValue.encode, fault?, Codec.encodeScalarFor]
    cases c.adapter? scalar.name with
    | none => rfl
    | some a => by_cases ht : t = a.domain <;> simp [ht, EncodeError.of?]
  | null => rfl
  | json v => rfl
  | invalid message => rfl

end Leaf

/-! ### Drafts -/

section Members

variable {α β γ : Type}

/-- The first find in several lists, one after the other. -/
theorem findSome?_flatMap {l : List α} {f : α → List β} {g : β → Option γ} {k : α → Option γ}
    (h : ∀ a ∈ l, k a = (f a).findSome? g) : (l.flatMap f).findSome? g = l.findSome? k := by
  induction l with
  | nil => rfl
  | cons a rest ih =>
    rw [List.forall_mem_cons] at h
    rw [List.flatMap_cons, List.findSome?_append, ← h.1, ih h.2, List.findSome?_cons]
    cases k a <;> rfl

/-- What two lists have to do with a third, where they agree item by item. -/
theorem forall₂_iff_of_forall₂ {T : α → β → Prop} {R : α → γ → Prop} {S : β → γ → Prop} {l : List α}
    {m : List β} (hT : List.Forall₂ T l m) (h : ∀ a ∈ l, ∀ b, T a b → ∀ c, R a c ↔ S b c)
    {n : List γ} : List.Forall₂ R l n ↔ List.Forall₂ S m n := by
  induction hT generalizing n with
  | nil => simp
  | cons hab _ ih =>
    rw [List.forall_mem_cons] at h
    simp only [List.forall₂_cons_left_iff, h.1 _ hab, ih h.2]

theorem forall₂_map_self (f : α → β) (l : List α) :
    List.Forall₂ (fun a b => f a = b) l (l.map f) :=
  List.forall₂_map_right_iff.mpr (List.forall₂_same.mpr fun _ _ => rfl)

theorem rel_iff_of_rel {T : α → β → Prop} {R : α → γ → Prop} {S : β → γ → Prop} {o : Option α}
    {p : Option β} (hT : Option.Rel T o p)
    (h : ∀ a, o = some a → ∀ b, T a b → ∀ c, R a c ↔ S b c) {q : Option γ} :
    Option.Rel R o q ↔ Option.Rel S p q := by
  cases hT with
  | none => cases q <;> simp
  | some hab =>
    cases q with
    | none => simp
    | some c => simpa using h _ rfl _ hab c

theorem rel_map_self (f : α → β) (o : Option α) :
    Option.Rel (fun a b => f a = b) o (o.map f) := by
  cases o with
  | none => exact .none
  | some a => exact .some rfl

end Members

namespace Draft

theorem leavesOfItems_eq_flatMap (name : String) (items : List (Draft ι)) :
    leavesOfItems name items = items.flatMap (leaves name) := by
  induction items with
  | nil => rfl
  | cons d rest ih => rw [leavesOfItems, ih, List.flatMap_cons]

theorem leafTable_eq_map (h : List (String × Draft ι)) :
    leafTable h = h.map fun p => (p.1, p.2.leaves p.1) := by
  induction h with
  | nil => rfl
  | cons p rest ih =>
    obtain ⟨name, d⟩ := p
    rw [leafTable, ih, List.map_cons]

theorem leaves_object (name : String) (h : List (String × Draft ι)) :
    (object h).leaves name = leavesOf h := by
  rw [leaves, leafTable_eq_map, Entries.settled_map fun n d => leaves n d, List.flatMap_map]
  rfl

@[simp] theorem writes_leaf_iff {c : Codec ι} {l : Leaf ι} {v : Json} :
    (leaf l).Writes c v ↔ l.Writes c v :=
  ⟨fun | .leaf h => h, .leaf⟩

theorem writes_customs_iff {c : Codec ι} {scalar : ScalarType ι} {t : ι}
    {xs : List (Domains.Carrier t)} {v : Json} :
    (customs scalar t xs).Writes c v ↔
      ∃ vs, List.Forall₂ (fun x v => (Leaf.custom scalar t x).Writes c v) xs vs ∧ v = .array vs :=
  ⟨fun | .customs h => ⟨_, h, rfl⟩, fun ⟨_, h, he⟩ => he ▸ .customs h⟩

theorem writes_list_iff {c : Codec ι} {items : List (Draft ι)} {v : Json} :
    (list items).Writes c v ↔ ∃ vs, List.Forall₂ (Writes c) items vs ∧ v = .array vs :=
  ⟨fun | .list h => ⟨_, h, rfl⟩, fun ⟨_, h, he⟩ => he ▸ .list h⟩

theorem writes_object_iff {c : Codec ι} {h : List (String × Draft ι)} {v : Json} :
    (object h).Writes c v ↔
      ∃ ms, (Entries.Sorted ms ∧
        ∀ name, Option.Rel (Writes c) (Entries.last? name h) (Entries.find? name ms)) ∧
      v = .object ms :=
  ⟨fun | .object sorted h => ⟨_, ⟨sorted, h⟩, rfl⟩, fun ⟨_, ⟨sorted, h⟩, he⟩ => he ▸ .object sorted h⟩

/-- The faults of what counts in a value are the faults of the value. -/
theorem of?_encode (c : Codec ι) (name : String) (d : Draft ι) :
    EncodeError.of? (d.make.encode c name) =
      (d.leaves name).findSome? fun p => p.2.fault? c p.1 := by
  induction d generalizing name with
  | leaf l =>
    rw [make, Leaf.of?_encode, leaves, List.findSome?_singleton]
  | customs scalar t xs =>
    rw [make, VariableValue.encode_list_eq, EncodeError.of?_map, VariableValue.of?_encodeItems,
      leaves, List.findSome?_map, List.findSome?_map]
    congr 1
    funext x
    exact Leaf.of?_encode c name (.custom scalar t x)
  | list items ih =>
    rw [make, VariableValue.encode_list_eq, EncodeError.of?_map, VariableValue.of?_encodeItems,
      makeItems_eq_map, List.findSome?_map, leaves, leavesOfItems_eq_flatMap]
    refine (findSome?_flatMap ?_).symm
    intro d hd
    exact ih d hd name
  | object h ih =>
    rw [leaves_object, make, VariableValue.encode_object_eq, EncodeError.of?_map,
      VariableValue.of?_encodeBindings, ← Variables.ofHistory, Variables.bindings_ofHistory,
      List.findSome?_map]
    refine (findSome?_flatMap ?_).symm
    rintro ⟨n, d⟩ hp
    exact ih (n, d) (Entries.mem_of_last? (Entries.mem_settled_iff.mp hp)) n

/-- A value is encoded to what it is written as, whatever its name. -/
theorem encode_iff (c : Codec ι) (name : String) (d : Draft ι) (v : Json) :
    d.make.encode c name = .ok v ↔ d.Writes c v := by
  induction d generalizing name v with
  | leaf l =>
    rw [make, Leaf.encode_iff, writes_leaf_iff]
  | customs scalar t xs =>
    rw [make, VariableValue.encode_list_iff, writes_customs_iff]
    refine exists_congr fun vs => and_congr_left fun _ =>
      (forall₂_iff_of_forall₂ (forall₂_map_self (VariableValue.custom scalar t) xs) ?_).symm
    rintro x - _ rfl w
    exact (Leaf.encode_iff c name (.custom scalar t x) w).symm
  | list items ih =>
    rw [make, makeItems_eq_map, VariableValue.encode_list_iff, writes_list_iff]
    refine exists_congr fun vs => and_congr_left fun _ =>
      (forall₂_iff_of_forall₂ (forall₂_map_self make items) ?_).symm
    rintro d hd _ rfl w
    exact (ih d hd name w).symm
  | object h ih =>
    rw [make, ← Variables.ofHistory,
      VariableValue.encode_object_iff (Variables.nodup_names_ofHistory h), writes_object_iff]
    refine exists_congr fun ms => and_congr_left fun _ => and_congr_right fun _ =>
      forall_congr' fun n => ?_
    rw [Variables.last?_bindings_ofHistory]
    refine (rel_iff_of_rel (rel_map_self make (Entries.last? n h)) ?_).symm
    rintro d hd _ rfl w
    exact (ih (n, d) (Entries.mem_of_last? hd) n w).symm

/-- What is replaced later leaves no trace in what a value is made to. -/
theorem ReplacedApart.make_eq {d e : Draft ι} (h : d.ReplacedApart e) : d.make = e.make := by
  induction h with
  | here before after d e h =>
    rw [make, make, ← Variables.ofHistory, ← Variables.ofHistory,
      Variables.ofHistory_replaced before after d e h]
  | item before after _ ih =>
    simp only [make, makeItems_eq_map, List.map_append, List.map_cons, ih]
  | member before after name _ ih =>
    rw [make, make, ← Variables.ofHistory, ← Variables.ofHistory,
      Variables.bindings_ofHistory_eq, Variables.bindings_ofHistory_eq]
    simp only [List.map_append, List.map_cons, ih]

end Draft

namespace Variables

structure LastWins (h : List (String × Draft ι)) : Prop where
  once : ((ofHistory h).bindings.map (·.1)).Nodup
  -- the names stand in the order in which they first came up
  order : (ofHistory h).bindings.map (·.1) = (h.map (·.1)).eraseDups
  last : ∀ name, (ofHistory h).get? name = (Entries.last? name h).map Draft.make
  size : (ofHistory h).size = (h.map (·.1)).toFinset.card
  encodes : ∀ c : Codec ι, (∃ ms, c.encodeVariables (ofHistory h) = .ok ms) ↔
    ∀ p ∈ Draft.leavesOf h, p.2.fault? c p.1 = none
  -- then each name, and no other, stands with what its last value is written as
  members : ∀ (c : Codec ι) ms, c.encodeVariables (ofHistory h) = .ok ms ↔
    Entries.Sorted ms ∧
      ∀ name, Option.Rel (Draft.Writes c) (Entries.last? name h) (Entries.find? name ms)
  fault : ∀ (c : Codec ι) why, c.encodeVariables (ofHistory h) = .error why ↔
    ∃ before name l after, Draft.leavesOf h = before ++ (name, l) :: after ∧
      l.fault? c name = some why ∧ ∀ p ∈ before, p.2.fault? c p.1 = none
  -- a value that is replaced later, at whatever depth, has no effect
  replaced : ∀ k, (Draft.object h).ReplacedApart (.object k) → ofHistory h = ofHistory k

theorem encodeVariables_iff (c : Codec ι) (h : List (String × Draft ι)) (ms : Entries Json) :
    c.encodeVariables (ofHistory h) = .ok ms ↔ (Draft.object h).Writes c (.object ms) := by
  rw [← Draft.encode_iff c "", Draft.make, ← ofHistory, VariableValue.encode_object_eq,
    Codec.encodeVariables]
  cases VariableValue.encodeBindings c (ofHistory h).bindings [] <;> simp [Except.map]

theorem of?_encodeVariables (c : Codec ι) (h : List (String × Draft ι)) :
    EncodeError.of? (c.encodeVariables (ofHistory h)) =
      (Draft.leavesOf h).findSome? fun p => p.2.fault? c p.1 := by
  rw [← Draft.leaves_object "", ← Draft.of?_encode, Draft.make, ← ofHistory,
    VariableValue.encode_object_eq, EncodeError.of?_map, Codec.encodeVariables]

/-- The last value of every name counts, at every depth, and of all faults of what counts the first
is reported. -/
theorem lastWins_ofHistory (h : List (String × Draft ι)) : LastWins h := by
  constructor
  · exact nodup_names_ofHistory h
  · exact names_ofHistory h
  · exact get?_ofHistory h
  · exact size_ofHistory h
  · intro c
    rw [← EncodeError.of?_eq_none_iff, of?_encodeVariables, List.findSome?_eq_none_iff]
  · intro c ms
    rw [encodeVariables_iff, Draft.writes_object_iff]
    simp
  · intro c why
    rw [← EncodeError.of?_eq_some_iff, of?_encodeVariables, List.findSome?_eq_some_iff]
    constructor
    · rintro ⟨before, ⟨name, l⟩, after, hsplit, hfault, hbefore⟩
      exact ⟨before, name, l, after, hsplit, hfault, hbefore⟩
    · rintro ⟨before, name, l, after, hsplit, hfault, hbefore⟩
      exact ⟨before, (name, l), after, hsplit, hfault, hbefore⟩
  · intro k hk
    have hmake := hk.make_eq
    rw [Draft.make, Draft.make, ← ofHistory, ← ofHistory] at hmake
    exact congrArg Variables.mk (VariableValue.object.inj hmake)

/-- A later value of a name takes its place among the others: of two faults, the one under the name
that came up first is reported. -/
example : Codec.standard.encodeVariables (ι := TextDomain)
    (ofHistory [("a", .leaf .null), ("b", .leaf (.invalid "late")),
      ("a", .list [.leaf .null, .leaf (.invalid "early")])]) =
    .error (.invalidVariable "a" "early") := rfl

end Variables

end GraphClient
