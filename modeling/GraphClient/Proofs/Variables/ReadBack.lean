import GraphClient.Proofs.Entries.Settled
import GraphClient.Proofs.Json.Canonical
import GraphClient.Proofs.Json.Values
import GraphClient.Proofs.Reader.Places

/-!
# Reading variables back from the body of a request

The variables of an operation travel as one member of the body. A reader that follows the names and
positions leading to a value among the variables stands at what was written for it, and reads it
back there.

The invariant is `Reader.Shows`: the reader stands at the canonical form of what a value was encoded
to. Every step into the value keeps it, so it holds at every leaf.
-/

namespace GraphClient

variable {ι : Type} [Domains ι]

namespace VariableValue

/-- Where a step from a value leads: to the value bound to a name, or to an item of a list. -/
def inside? : VariableValue ι → Step → Option (VariableValue ι)
  | object bindings, .field name => Entries.last? name bindings
  | list items, .element i => items[i]?
  | _, _ => none

def at? (x : VariableValue ι) : List Step → Option (VariableValue ι)
  | [] => some x
  | s :: rest => (x.inside? s).bind fun y => y.at? rest

theorem encode_list {c : Codec ι} {name : String} {items : List (VariableValue ι)} {v : Json}
    (h : encode c name (list items) = .ok v) :
    ∃ vs, v = .array vs ∧ encodeItems c name items = .ok vs := by
  simp only [encode, bind, Except.bind] at h
  split at h
  · cases h
  · rename_i vs hvs
    cases h
    exact ⟨vs, rfl, hvs⟩

theorem encode_object {c : Codec ι} {name : String} {bindings : List (String × VariableValue ι)}
    {v : Json} (h : encode c name (object bindings) = .ok v) :
    ∃ ms, v = .object ms ∧ encodeBindings c bindings [] = .ok ms := by
  simp only [encode, bind, Except.bind] at h
  split at h
  · cases h
  · rename_i ms hms
    cases h
    exact ⟨ms, rfl, hms⟩

theorem encodeItems_cons {c : Codec ι} {name : String} {x : VariableValue ι}
    {rest : List (VariableValue ι)} {vs : List Json}
    (h : encodeItems c name (x :: rest) = .ok vs) :
    ∃ w ws, vs = w :: ws ∧ encode c name x = .ok w ∧ encodeItems c name rest = .ok ws := by
  simp only [encodeItems, bind, Except.bind] at h
  split at h
  · cases h
  · rename_i w hw
    split at h
    · cases h
    · rename_i ws hws
      cases h
      exact ⟨w, ws, rfl, hw, hws⟩

theorem encodeBindings_cons {c : Codec ι} {name : String} {x : VariableValue ι}
    {rest : List (String × VariableValue ι)} {es ms : Entries Json}
    (h : encodeBindings c ((name, x) :: rest) es = .ok ms) :
    ∃ w, encode c name x = .ok w ∧ encodeBindings c rest (Entries.insert name w es) = .ok ms := by
  simp only [encodeBindings, bind, Except.bind] at h
  split at h
  · cases h
  · rename_i w hw
    exact ⟨w, hw, h⟩

/-- The items of a list keep their positions. -/
theorem encodeItems_getElem? {c : Codec ι} {name : String} {items : List (VariableValue ι)}
    {vs : List Json} (h : encodeItems c name items = .ok vs) {i : Nat} {x : VariableValue ι}
    (hx : items[i]? = some x) : ∃ w, encode c name x = .ok w ∧ vs[i]? = some w := by
  induction items generalizing vs i with
  | nil => cases hx
  | cons y rest ih =>
    obtain ⟨w, ws, rfl, hw, hws⟩ := encodeItems_cons h
    cases i with
    | zero =>
      obtain rfl : y = x := by simpa using hx
      exact ⟨w, hw, rfl⟩
    | succ i => exact ih hws hx

theorem sorted_encodeBindings {c : Codec ι} {bindings : List (String × VariableValue ι)}
    {es ms : Entries Json} (h : encodeBindings c bindings es = .ok ms)
    (hes : Entries.Sorted es) : Entries.Sorted ms := by
  induction bindings generalizing es with
  | nil =>
    cases h
    exact hes
  | cons p rest ih =>
    obtain ⟨name, x⟩ := p
    obtain ⟨w, -, hrest⟩ := encodeBindings_cons h
    exact ih hrest (Entries.sorted_insert name w hes)

/-- A name that is not bound keeps what was there before. -/
theorem find?_encodeBindings_of_none {c : Codec ι} {bindings : List (String × VariableValue ι)}
    {es ms : Entries Json} (h : encodeBindings c bindings es = .ok ms) {name : String}
    (hnone : Entries.last? name bindings = none) :
    Entries.find? name ms = Entries.find? name es := by
  induction bindings generalizing es with
  | nil =>
    cases h
    rfl
  | cons p rest ih =>
    obtain ⟨n, x⟩ := p
    obtain ⟨w, -, hrest⟩ := encodeBindings_cons h
    rw [Entries.last?, Option.or_eq_none_iff] at hnone
    have hne : name ≠ n := by
      rintro rfl
      simp at hnone
    rw [ih hrest hnone.1, Entries.find?_insert_of_ne w es hne]

/-- Under every name stands what the value bound last was encoded to. -/
theorem find?_encodeBindings {c : Codec ι} {bindings : List (String × VariableValue ι)}
    {es ms : Entries Json} (h : encodeBindings c bindings es = .ok ms) {name : String}
    {x : VariableValue ι} (hx : Entries.last? name bindings = some x) :
    ∃ w, encode c name x = .ok w ∧ Entries.find? name ms = some w := by
  induction bindings generalizing es with
  | nil => cases hx
  | cons p rest ih =>
    obtain ⟨n, y⟩ := p
    obtain ⟨w, hw, hrest⟩ := encodeBindings_cons h
    cases hlast : Entries.last? name rest with
    | some z =>
      obtain rfl : z = x := by simpa [Entries.last?, hlast] using hx
      exact ih hrest hlast
    | none =>
      by_cases hn : name = n
      · subst hn
        obtain rfl : y = x := by simpa [Entries.last?, hlast] using hx
        refine ⟨w, hw, ?_⟩
        rw [find?_encodeBindings_of_none hrest hlast, Entries.find?_insert_self]
      · simp [Entries.last?, hlast, hn] at hx

end VariableValue

namespace Codec

/-- The adapter that serves a scalar reads back what it writes for the value `x`. -/
def Restores (c : Codec ι) (scalar : ScalarType ι) (t : ι) (x : Domains.Carrier t) : Prop :=
  ∀ a, c.adapter? scalar.name = some a → ∀ h : t = a.domain,
    a.wire.decode (a.wire.encode (h ▸ x)) = .ok (h ▸ x)

/-- What a value was written to is read as the value, at whatever path. -/
theorem decodeScalarAt_of_encode {c : Codec ι} {scalar : ScalarType ι} {t : ι}
    {x : Domains.Carrier t} (hrestores : c.Restores scalar t x) {name : String} {v : Json}
    (h : c.encodeScalarFor scalar t x name = .ok v) (path : String) :
    (∃ s, v = .string s) ∧ c.decodeScalarAt scalar t v path = .ok x := by
  unfold encodeScalarFor at h
  cases ha : c.adapter? scalar.name with
  | none => simp [ha] at h
  | some a =>
    by_cases ht : t = a.domain
    · have hback := hrestores a ha ht
      subst ht
      simp only [ha, dif_pos] at h
      obtain rfl := Except.ok.inj h
      refine ⟨⟨_, rfl⟩, ?_⟩
      simp only [decodeScalarAt, ha, dif_pos]
      simp only [hback]
    · simp [ha, ht] at h

end Codec

namespace Reader

/-- The reader stands at what a value was encoded to, in canonical form. -/
def Shows (r : Reader ι) (x : VariableValue ι) : Prop :=
  ∃ name v, x.encode r.codec name = .ok v ∧ r.value = v.canonical

/-- One step into a value leads to what is inside it. -/
theorem Shows.step {r : Reader ι} {x y : VariableValue ι} {s : Step} (hr : r.Shows x)
    (hy : x.inside? s = some y) : ∃ r', r.step s = .ok r' ∧ r'.codec = r.codec ∧ r'.Shows y := by
  obtain ⟨name, v, hencode, hvalue⟩ := hr
  cases x with
  | list items =>
    cases s with
    | field n => cases hy
    | element i =>
      obtain ⟨vs, rfl, hvs⟩ := VariableValue.encode_list hencode
      obtain ⟨w, hw, hi⟩ := VariableValue.encodeItems_getElem? hvs hy
      rw [Json.canonical, Json.canonicalItems_eq_map] at hvalue
      have helement : (r.elements 0 (vs.map Json.canonical))[i]? =
          some { r with value := w.canonical, path := elementPath r.path (0 + i) } := by
        rw [elements_eq_mapIdx, List.getElem?_mapIdx, List.getElem?_map, hi]
        rfl
      refine ⟨{ r with value := w.canonical, path := elementPath r.path (0 + i) }, ?_, rfl, name,
        w, hw, rfl⟩
      simp only [Reader.step, Reader.list, hvalue, bind, Except.bind, helement]
  | object bindings =>
    cases s with
    | element i => cases hy
    | field n =>
      obtain ⟨ms, rfl, hms⟩ := VariableValue.encode_object hencode
      obtain ⟨w, hw, hfind⟩ := VariableValue.find?_encodeBindings hms hy
      have hsorted := VariableValue.sorted_encodeBindings hms trivial
      refine ⟨r.field n, rfl, rfl, n, w, hw, ?_⟩
      rw [field, hvalue, Json.member_canonical hsorted hfind]
  | json v => cases s <;> cases hy
  | custom scalar t x => cases s <;> cases hy
  | invalid message => cases s <;> cases hy

/-- Any number of steps into a value lead to what is inside it. -/
theorem Shows.follow {steps : List Step} {r : Reader ι} {x y : VariableValue ι} (hr : r.Shows x)
    (hy : x.at? steps = some y) :
    ∃ r', r.follow steps = .ok r' ∧ r'.codec = r.codec ∧ r'.Shows y := by
  induction steps generalizing r x with
  | nil =>
    obtain rfl : x = y := by simpa [VariableValue.at?] using hy
    exact ⟨r, rfl, rfl, hr⟩
  | cons s rest ih =>
    rw [VariableValue.at?, Option.bind_eq_some_iff] at hy
    obtain ⟨z, hz, hy⟩ := hy
    obtain ⟨r₁, hstep, hcodec₁, hr₁⟩ := hr.step hz
    obtain ⟨r₂, hfollow, hcodec₂, hr₂⟩ := ih hr₁ hy
    refine ⟨r₂, ?_, hcodec₂.trans hcodec₁, hr₂⟩
    simp only [Reader.follow, hstep, bind, Except.bind, hfollow]

/-- A custom scalar is read as the value that was bound. -/
theorem Shows.custom {r : Reader ι} {scalar : ScalarType ι} {t : ι} {x : Domains.Carrier t}
    (hr : r.Shows (.custom scalar t x)) (hrestores : r.codec.Restores scalar t x) :
    r.custom scalar t = .ok x := by
  obtain ⟨name, v, hencode, hvalue⟩ := hr
  obtain ⟨⟨s, rfl⟩, hdecode⟩ := Codec.decodeScalarAt_of_encode hrestores hencode r.path
  have hnull : r.isNull = false := by
    rw [isNull, hvalue]
    rfl
  rw [Reader.custom, hnull, hvalue]
  exact hdecode

/-- A plain value is read as it was bound, up to the order of members. -/
theorem Shows.value {r : Reader ι} {v : Json} (hr : r.Shows (.json v)) :
    r.value = v.canonical := by
  obtain ⟨name, w, hencode, hvalue⟩ := hr
  cases hencode
  exact hvalue

end Reader

namespace Request

theorem isIntegral_toJson {r : Request} (h : (Json.object r.vars).IsIntegral) :
    r.toJson.IsIntegral := by
  rw [toJson, Json.IsIntegral, Json.hasIntegralMembers_iff]
  intro p hp
  simp only [List.mem_append, List.mem_singleton] at hp
  rcases hp with (rfl | hp) | rfl
  · trivial
  · cases hname : r.operationName with
    | none => simp [hname] at hp
    | some name =>
      obtain rfl : p = ("operationName", .string name) := by simpa [hname] using hp
      trivial
  · exact h

end Request

/-- What is bound as a variable can be read back from the body of a request: the body parses, and a
reader that follows the steps to a value among the variables stands at that value. A custom scalar
is read as the value that was bound, if its adapter reads back what it writes for it; a plain value
is read as it was bound. -/
theorem Variables.restored_from_body (c : Codec ι) (vs : Variables ι) (r : Request)
    (hvars : c.encodeVariables vs = .ok r.vars) (hints : (Json.object r.vars).IsIntegral)
    (hdepth : r.toJson.depth ≤ Scan.maxDepth) :
    ∃ tree, c.parse r.body.toUTF8 = .ok tree ∧
      ∀ steps leaf, (VariableValue.object vs.bindings).at? steps = some leaf →
        ∃ r', (Reader.root c tree).follow (.field "variables" :: steps) = .ok r' ∧
          (∀ scalar t x, leaf = .custom scalar t x → c.Restores scalar t x →
            r'.custom scalar t = .ok x) ∧
          (∀ v, leaf = .json v → r'.value = v.canonical ∧ (v.IsCanonical → r'.value = v)) := by
  refine ⟨r.toJson.canonical, ?_, ?_⟩
  · have hparse := Json.parse_bytes (Request.isIntegral_toJson hints) hdepth
    rw [Json.bytes] at hparse
    exact c.parse_of_ok hparse
  intro steps leaf hleaf
  have hshows : ((Reader.root c r.toJson.canonical).field "variables").Shows
      (.object vs.bindings) := by
    refine ⟨"variables", .object r.vars, ?_, ?_⟩
    · rw [Codec.encodeVariables] at hvars
      simp only [VariableValue.encode, Reader.field, Reader.root, hvars]
      rfl
    · exact Json.member_canonical_append _ "variables" (.object r.vars)
  obtain ⟨r', hfollow, hcodec, hr'⟩ := hshows.follow hleaf
  refine ⟨r', ?_, ?_, ?_⟩
  · rw [Reader.follow, Reader.step]
    exact hfollow
  · rintro scalar t x rfl hrestores
    apply hr'.custom
    rw [hcodec]
    exact hrestores
  · rintro v rfl
    refine ⟨hr'.value, fun hv => ?_⟩
    rw [hr'.value, Json.canonical_of_isCanonical v hv]

/-- A label among the items of a nested list, with characters that have to be escaped. -/
theorem Variables.restored_from_body_label :
    ∃ tree r', Codec.labels.parse
        (Request.body ⟨"query", some "Find",
          [("filter", .object [("labels", .array [.null, .string "a\n\"b\""])])]⟩).toUTF8 =
        .ok tree ∧
      (Reader.root Codec.labels tree).follow
        [.field "variables", .field "filter", .field "labels", .element 1] = .ok r' ∧
      r'.custom .label .text = .ok "a\n\"b\"" := by
  obtain ⟨tree, hparse, hread⟩ := Variables.restored_from_body Codec.labels
    ⟨[("filter", .object [("labels", .list [.json .null, .custom .label .text "a\n\"b\""])])]⟩
    ⟨"query", some "Find",
      [("filter", .object [("labels", .array [.null, .string "a\n\"b\""])])]⟩
    rfl (by simp [Json.IsIntegral, Json.AreIntegral, Json.HasIntegralMembers]) (by decide)
  obtain ⟨r', hfollow, hcustom, -⟩ := hread
    [.field "filter", .field "labels", .element 1] (.custom .label .text "a\n\"b\"") rfl
  refine ⟨tree, r', hparse, hfollow, hcustom _ _ _ rfl ?_⟩
  intro a ha h
  obtain rfl : a = ⟨.text, Wire.text⟩ := by
    simpa [Codec.adapter?, Codec.labels, ScalarType.label] using ha.symm
  rfl

end GraphClient
