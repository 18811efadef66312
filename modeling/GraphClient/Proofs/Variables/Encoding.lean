import GraphClient.Proofs.Variables.ReadBack

/-!
# How variables are encoded

Lists and bindings are encoded from left to right, and the first item or binding that fails decides.
What does not fail is written item by item, and the members of an object in the order of names,
whatever the order of the bindings was.
-/

namespace GraphClient

variable {ι : Type} [Domains ι] {α β : Type}

theorem rel_unique {R : α → β → Prop} (h : ∀ a b c, R a b → R a c → b = c) {o : Option α}
    {p q : Option β} (hp : Option.Rel R o p) (hq : Option.Rel R o q) : p = q := by
  cases hp with
  | none =>
    cases hq with
    | none => rfl
  | some hb =>
    cases hq with
    | some hc => rw [h _ _ _ hb hc]

namespace EncodeError

def of? : Except EncodeError α → Option EncodeError
  | .ok _ => none
  | .error why => some why

theorem of?_eq_none_iff {r : Except EncodeError α} : of? r = none ↔ ∃ a, r = .ok a := by
  cases r <;> simp [of?]

theorem of?_eq_some_iff {r : Except EncodeError α} {why : EncodeError} :
    of? r = some why ↔ r = .error why := by
  cases r <;> simp [of?]

theorem of?_map (f : α → β) (r : Except EncodeError α) : of? (r.map f) = of? r := by
  cases r <;> rfl

end EncodeError

namespace VariableValue

theorem encode_list_eq (c : Codec ι) (name : String) (items : List (VariableValue ι)) :
    encode c name (list items) = (encodeItems c name items).map Json.array := by
  rw [encode]
  cases encodeItems c name items <;> rfl

theorem encode_object_eq (c : Codec ι) (name : String)
    (bindings : List (String × VariableValue ι)) :
    encode c name (object bindings) = (encodeBindings c bindings []).map Json.object := by
  rw [encode]
  cases encodeBindings c bindings [] <;> rfl

theorem encodeItems_of_ok {c : Codec ι} {name : String} {x : VariableValue ι} {v : Json}
    (h : encode c name x = .ok v) (rest : List (VariableValue ι)) :
    encodeItems c name (x :: rest) = (encodeItems c name rest).map (v :: ·) := by
  rw [encodeItems, h]
  cases encodeItems c name rest <;> rfl

theorem encodeItems_of_error {c : Codec ι} {name : String} {x : VariableValue ι}
    {why : EncodeError} (h : encode c name x = .error why) (rest : List (VariableValue ι)) :
    encodeItems c name (x :: rest) = .error why := by
  rw [encodeItems, h]
  rfl

theorem encodeBindings_of_ok {c : Codec ι} {name : String} {x : VariableValue ι} {v : Json}
    (h : encode c name x = .ok v) (rest : List (String × VariableValue ι)) (es : Entries Json) :
    encodeBindings c ((name, x) :: rest) es =
      encodeBindings c rest (Entries.insert name v es) := by
  rw [encodeBindings, h]
  rfl

theorem encodeBindings_of_error {c : Codec ι} {name : String} {x : VariableValue ι}
    {why : EncodeError} (h : encode c name x = .error why)
    (rest : List (String × VariableValue ι)) (es : Entries Json) :
    encodeBindings c ((name, x) :: rest) es = .error why := by
  rw [encodeBindings, h]
  rfl

/-- The first item that fails decides. -/
theorem of?_encodeItems (c : Codec ι) (name : String) (items : List (VariableValue ι)) :
    EncodeError.of? (encodeItems c name items) =
      items.findSome? fun x => EncodeError.of? (encode c name x) := by
  induction items with
  | nil => rfl
  | cons x rest ih =>
    cases h : encode c name x with
    | ok v =>
      rw [encodeItems_of_ok h, EncodeError.of?_map, ih]
      simp [h, EncodeError.of?]
    | error why =>
      rw [encodeItems_of_error h]
      simp [h, EncodeError.of?]

/-- The first binding that fails decides. -/
theorem of?_encodeBindings (c : Codec ι) (bindings : List (String × VariableValue ι))
    (es : Entries Json) :
    EncodeError.of? (encodeBindings c bindings es) =
      bindings.findSome? fun p => EncodeError.of? (encode c p.1 p.2) := by
  induction bindings generalizing es with
  | nil => rfl
  | cons p rest ih =>
    obtain ⟨name, x⟩ := p
    cases h : encode c name x with
    | ok v =>
      rw [encodeBindings_of_ok h, ih]
      simp [h, EncodeError.of?]
    | error why =>
      rw [encodeBindings_of_error h]
      simp [h, EncodeError.of?]

/-- A list is written item by item. -/
theorem encodeItems_iff {c : Codec ι} {name : String} {items : List (VariableValue ι)}
    {vs : List Json} :
    encodeItems c name items = .ok vs ↔
      List.Forall₂ (fun x v => encode c name x = .ok v) items vs := by
  induction items generalizing vs with
  | nil => simp [encodeItems, eq_comm]
  | cons x rest ih =>
    rw [List.forall₂_cons_left_iff]
    constructor
    · intro h
      obtain ⟨v, ws, rfl, hv, hws⟩ := encodeItems_cons h
      exact ⟨v, ws, hv, ih.mp hws, rfl⟩
    · rintro ⟨v, ws, hv, hws, rfl⟩
      rw [encodeItems_of_ok hv, ih.mpr hws]
      rfl

/-- Bindings are written in name order, each name with what its value is written as. -/
theorem encodeBindings_iff {c : Codec ι} {bindings : List (String × VariableValue ι)}
    (hnames : (bindings.map (·.1)).Nodup) {ms : Entries Json} :
    encodeBindings c bindings [] = .ok ms ↔
      Entries.Sorted ms ∧ ∀ name, Option.Rel (fun x v => encode c name x = .ok v)
        (Entries.last? name bindings) (Entries.find? name ms) := by
  have hwritten : ∀ ms, encodeBindings c bindings [] = .ok ms → ∀ name,
      Option.Rel (fun x v => encode c name x = .ok v)
        (Entries.last? name bindings) (Entries.find? name ms) := by
    intro ms h name
    cases hlast : Entries.last? name bindings with
    | none =>
      rw [find?_encodeBindings_of_none h hlast]
      exact .none
    | some x =>
      obtain ⟨v, hv, hfind⟩ := find?_encodeBindings h hlast
      rw [hfind]
      exact .some hv
  constructor
  · intro h
    exact ⟨sorted_encodeBindings h trivial, hwritten ms h⟩
  · rintro ⟨hsorted, hms⟩
    have hnone : EncodeError.of? (encodeBindings c bindings []) = none := by
      rw [of?_encodeBindings, List.findSome?_eq_none_iff]
      intro p hp
      have hlast := Entries.last?_of_mem hnames hp
      have hp := hms p.1
      rw [hlast] at hp
      generalize Entries.find? p.1 ms = found at hp
      cases hp with
      | some hv => exact EncodeError.of?_eq_none_iff.mpr ⟨_, hv⟩
    obtain ⟨ns, hns⟩ := EncodeError.of?_eq_none_iff.mp hnone
    have hsame : ns = ms := by
      refine Entries.eq_of_find?_eq (sorted_encodeBindings hns trivial) hsorted ?_
      intro name
      refine rel_unique ?_ (hwritten ns hns name) (hms name)
      intro x v w hv hw
      exact Except.ok.inj (hv.symm.trans hw)
    rw [hns, hsame]

theorem encode_list_iff {c : Codec ι} {name : String} {items : List (VariableValue ι)} {v : Json} :
    encode c name (list items) = .ok v ↔
      ∃ vs, List.Forall₂ (fun x v => encode c name x = .ok v) items vs ∧ v = .array vs := by
  constructor
  · intro h
    obtain ⟨vs, rfl, hvs⟩ := encode_list h
    exact ⟨vs, encodeItems_iff.mp hvs, rfl⟩
  · rintro ⟨vs, hvs, rfl⟩
    rw [encode_list_eq, encodeItems_iff.mpr hvs]
    rfl

theorem encode_object_iff {c : Codec ι} {name : String}
    {bindings : List (String × VariableValue ι)} (hnames : (bindings.map (·.1)).Nodup) {v : Json} :
    encode c name (object bindings) = .ok v ↔
      ∃ ms, (Entries.Sorted ms ∧ ∀ name, Option.Rel (fun x v => encode c name x = .ok v)
        (Entries.last? name bindings) (Entries.find? name ms)) ∧ v = .object ms := by
  constructor
  · intro h
    obtain ⟨ms, rfl, hms⟩ := encode_object h
    exact ⟨ms, (encodeBindings_iff hnames).mp hms, rfl⟩
  · rintro ⟨ms, hms, rfl⟩
    rw [encode_object_eq, (encodeBindings_iff hnames).mpr hms]
    rfl

end VariableValue

end GraphClient
