import GraphClient.Client.Minimal
import GraphClient.Codec.Erased
import GraphClient.Proofs.Client.Building

/-!
# Type safety of custom scalars

A codec finds the adapter of a scalar by the scalar's name alone, and holds it without its domain
type. Values are written and read as a domain type that the caller chooses, which may be any. Both
directions look at it before they use the adapter, and no registry that comes about has an adapter
whose values are of another type than it says.
-/

namespace GraphClient

variable {ι : Type} [Domains ι]

namespace Registry

structure Orderly (r : Registry ι) : Prop where
  names : r.names.Nodup
  fits : ∀ e ∈ r.entries, ∀ a, e.adapter = some a → e.scalar.domain = a.domain

theorem mem_put {entry e : RegistryEntry ι} {es : List (RegistryEntry ι)} (h : e ∈ put entry es) :
    e = entry ∨ e ∈ es := by
  induction es with
  | nil => exact .inl (List.mem_singleton.mp h)
  | cons d rest ih =>
    unfold put at h
    split at h
    · exact (List.mem_cons.mp h).imp id (List.mem_cons_of_mem d)
    · rcases List.mem_cons.mp h with rfl | h
      · exact .inr List.mem_cons_self
      · exact (ih h).imp id (List.mem_cons_of_mem d)

/-- A name that goes behind the others unless it is one of them does not come to stand twice. -/
theorem nodup_of_names_eq {r r' : Registry ι} {name : String} (hr : r.names.Nodup)
    (h : r'.names = if name ∈ r.names then r.names else r.names ++ [name]) : r'.names.Nodup := by
  rw [h]
  split
  · exact hr
  · rename_i hnew
    exact List.nodup_append.mpr ⟨hr, List.nodup_singleton name, fun m hm n hn hmn =>
      hnew (List.mem_singleton.mp hn ▸ hmn ▸ hm)⟩

theorem Orderly.declare {r : Registry ι} (h : r.Orderly) (scalar : ScalarType ι) :
    (r.declare scalar).Orderly := by
  refine ⟨nodup_of_names_eq h.names (r.names_declare scalar), ?_⟩
  intro e he a ha
  unfold Registry.declare at he
  split at he
  · exact h.fits e he a ha
  · rcases List.mem_append.mp he with he | he
    · exact h.fits e he a ha
    · obtain rfl := List.mem_singleton.mp he
      cases ha

theorem Orderly.register {r r' : Registry ι} (h : r.Orderly) {scalar : ScalarType ι}
    {adapter : Adapter ι} (ok : r.register scalar adapter = .ok r') : r'.Orderly := by
  refine ⟨nodup_of_names_eq h.names (names_register ok), ?_⟩
  unfold Registry.register at ok
  split at ok
  · rename_i hfit
    obtain rfl := Except.ok.inj ok
    intro e he a ha
    rcases mem_put he with rfl | he
    · exact Option.some.inj ha ▸ hfit
    · exact h.fits e he a ha
  · cases ok

theorem Reachable.orderly {r : Registry ι} (h : r.Reachable) : r.Orderly := by
  induction h with
  | empty => exact ⟨List.nodup_nil, fun e he => by cases he⟩
  | declare _ scalar ih => exact ih.declare scalar
  | register _ ok ih => exact ih.register ok

/-- The service of a name is an entry of that name whose adapter fits. -/
theorem Orderly.service? {r : Registry ι} (h : r.Orderly) {name : String} {own : ScalarType ι}
    {a : Adapter ι} (hs : r.service? name = some (own, a)) :
    own.name = name ∧ own.domain = a.domain := by
  obtain ⟨e, he, ha⟩ := Option.bind_eq_some_iff.mp hs
  obtain ⟨b, hb, hpair⟩ := Option.map_eq_some_iff.mp ha
  obtain ⟨rfl, rfl⟩ := Prod.mk.inj hpair
  have hname := List.find?_some he
  exact ⟨by simpa using hname, h.fits e (List.mem_of_find?_eq_some he) b hb⟩

end Registry

namespace Codec

/-- The codec of a registry finds under each name the adapter that the registry has there. -/
theorem adapter?_ofRegistry {r : Registry ι} {c : Codec ι} (hc : ofRegistry r = .ok c)
    (name : String) : c.adapter? name = (r.service? name).map (·.2) := by
  unfold ofRegistry Registry.validate at hc
  cases hv : r.entries.find? (·.adapter.isNone) with
  | some e =>
    rw [hv] at hc
    cases hc
  | none =>
    rw [hv] at hc
    obtain rfl := Except.ok.inj hc
    -- every entry has an adapter, so leaving out those without one leaves out none
    have hsame : ∀ e ∈ r.entries,
        ((e.adapter.map fun a => (e.scalar, a)).any fun p => p.1.name == name) =
          (e.scalar.name == name) := by
      intro e he
      have hadapter := List.find?_eq_none.mp hv e he
      cases h : e.adapter with
      | none => simp [h] at hadapter
      | some a => rfl
    unfold adapter? Registry.service? Registry.find?
    rw [List.find?_filterMap, List.find?_congr hsame]

structure Ignores (c : Codec ι) (s : ScalarType ι) (t : ι) : Prop where
  supports : c.supports s = false
  encode : ∀ x : Domains.Carrier t,
    c.encodeScalar s t x = .error (.unknownScalar s.name s.name)
  decode : ∀ v, c.decodeScalar s t v = .error (.unknownScalar s.name "")

/-- The adapter of the scalar handles values of the domain type `d`, which is not `t`. -/
structure Rejects (c : Codec ι) (s : ScalarType ι) (t d : ι) : Prop where
  differs : d ≠ t
  supports : c.supports s = true
  encode : ∀ x : Domains.Carrier t, c.encodeScalar s t x =
    .error (.scalarTypeMismatch s.name s.name (Domains.typeName d) (Domains.typeName t))
  decode : ∀ v, c.decodeScalar s t v =
    .error (.scalarTypeMismatch s.name (Domains.typeName d) (Domains.typeName t))

/-- Values of the domain type `t` are written and read as the scalar in this form. -/
structure Converts (c : Codec ι) (s : ScalarType ι) (t : ι) (wire : Wire (Domains.Carrier t)) :
    Prop where
  supports : c.supports s = true
  encode : ∀ x, c.encodeScalar s t x = .ok (.string (wire.encode x))
  decode_iff : ∀ v x, c.decodeScalar s t v = .ok x ↔
    ∃ text, v = .string text ∧ wire.decode text = .ok x
  notText : ∀ v, (∀ text, v ≠ .string text) →
    c.decodeScalar s t v = .error (.notAString s.name "" v.kind.name)
  refused : ∀ text message, wire.decode text = .error message →
    c.decodeScalar s t (.string text) = .error (.scalar s.name "" message)
  restores : ∀ x, wire.decode (wire.encode x) = .ok x →
    ∃ v, c.encodeScalar s t x = .ok v ∧ c.decodeScalar s t v = .ok x

theorem ignores_of_none {c : Codec ι} {s : ScalarType ι} (h : c.adapter? s.name = none) (t : ι) :
    c.Ignores s t where
  supports := by simp [supports, h]
  encode x := by simp [encodeScalar, encodeScalarFor, h]
  decode v := by simp [decodeScalar, decodeScalarAt, h]

theorem rejects_of_other {c : Codec ι} {s : ScalarType ι} {a : Adapter ι} {t : ι}
    (h : c.adapter? s.name = some a) (hd : a.domain ≠ t) : c.Rejects s t a.domain where
  differs := hd
  supports := by simp [supports, h]
  encode x := by simp [encodeScalar, encodeScalarFor, h, Ne.symm hd, Adapter.typeName]
  decode v := by simp [decodeScalar, decodeScalarAt, h, hd, Adapter.typeName]

theorem converts_of_same {c : Codec ι} {s : ScalarType ι} {t : ι}
    {wire : Wire (Domains.Carrier t)} (h : c.adapter? s.name = some ⟨t, wire⟩) :
    c.Converts s t wire := by
  have hencode : ∀ x, c.encodeScalar s t x = .ok (.string (wire.encode x)) := by
    intro x
    simp [encodeScalar, encodeScalarFor, h]
  have htext : ∀ text, c.decodeScalar s t (.string text) =
      (wire.decode text).mapError fun message => .scalar s.name "" message := by
    intro text
    simp only [decodeScalar, decodeScalarAt, h, dif_pos]
    cases wire.decode text <;> rfl
  have hother : ∀ v, (∀ text, v ≠ .string text) →
      c.decodeScalar s t v = .error (.notAString s.name "" v.kind.name) := by
    intro v hv
    cases v with
    | string text => exact absurd rfl (hv text)
    | null | bool | number | array | object => simp [decodeScalar, decodeScalarAt, h]
  refine ⟨by simp [supports, h], hencode, ?_, hother, ?_, ?_⟩
  · intro v x
    constructor
    · intro hx
      cases v with
      | string text =>
        refine ⟨text, rfl, ?_⟩
        rw [htext] at hx
        cases hd : wire.decode text with
        | error message => simp [hd, Except.mapError] at hx
        | ok y => simpa [hd, Except.mapError] using hx
      | null | bool | number | array | object => simp [hother] at hx
    · rintro ⟨text, rfl, hd⟩
      rw [htext, hd]
      rfl
  · intro text message hd
    rw [htext, hd]
    rfl
  · intro x hx
    refine ⟨_, hencode x, ?_⟩
    rw [htext, hx]
    rfl

theorem Ignores.not_rejects {c : Codec ι} {s : ScalarType ι} {t d : ι} (h : c.Ignores s t) :
    ¬c.Rejects s t d := by
  intro hr
  exact Bool.false_ne_true (h.supports.symm.trans hr.supports)

theorem Ignores.not_converts {c : Codec ι} {s : ScalarType ι} {t : ι}
    {wire : Wire (Domains.Carrier t)} (h : c.Ignores s t) : ¬c.Converts s t wire := by
  intro hw
  exact Bool.false_ne_true (h.supports.symm.trans hw.supports)

/-- Reading null already tells the two apart. -/
theorem Rejects.not_converts {c : Codec ι} {s : ScalarType ι} {t d : ι}
    {wire : Wire (Domains.Carrier t)} (h : c.Rejects s t d) : ¬c.Converts s t wire := by
  intro hw
  have hread := h.decode .null
  rw [hw.notText .null (by simp)] at hread
  cases hread

/-! ### Reading through boxes -/

theorem exit_of_none {c : Codec ι} {s : ScalarType ι} (h : c.adapter? s.name = none) (t : ι)
    (v : Json) : c.exit s t v = .unknown := by
  simp [exit, erased?, h]

theorem exit_of_other {c : Codec ι} {s : ScalarType ι} {a : Adapter ι} {t : ι}
    (h : c.adapter? s.name = some a) (hd : a.domain ≠ t) (v : Json) :
    c.exit s t v = .foreign a.typeName := by
  simp [exit, erased?, h, Adapter.erase, hd, Adapter.typeName, ErasedAdapter.typeName]

/-- The box that comes out of the adapter opens. -/
theorem exit_of_text {c : Codec ι} {s : ScalarType ι} {t : ι} {wire : Wire (Domains.Carrier t)}
    (h : c.adapter? s.name = some ⟨t, wire⟩) (text : String) :
    c.exit s t (.string text) =
      match wire.decode text with
      | .error message => .refused message
      | .ok x => .value x := by
  cases hd : wire.decode text <;> simp [exit, erased?, h, Adapter.erase, hd, Except.map]

theorem exit_of_not_text {c : Codec ι} {s : ScalarType ι} {t : ι}
    {wire : Wire (Domains.Carrier t)} (h : c.adapter? s.name = some ⟨t, wire⟩) {v : Json}
    (hv : ∀ text, v ≠ .string text) : c.exit s t v = .notText v.kind.name := by
  cases v with
  | string text => exact absurd rfl (hv text)
  | null | bool | number | array | object => simp [exit, erased?, h, Adapter.erase]

/-- Reading with the domain type known comes to what reading through boxes comes to, and the box
never holds a value of another domain type than that of its adapter. -/
theorem decodeScalarAt_eq_exit (c : Codec ι) (s : ScalarType ι) (t : ι) (v : Json)
    (path : String) :
    c.decodeScalarAt s t v path = (c.exit s t v).result s.name path (Domains.typeName t) ∧
      ∀ registered, c.exit s t v ≠ .stray registered := by
  cases ha : c.adapter? s.name with
  | none => simp [decodeScalarAt, ha, exit_of_none ha, ScalarExit.result]
  | some a =>
    obtain ⟨d, wire⟩ := a
    by_cases hd : d = t
    · subst hd
      cases v with
      | string text =>
        rw [exit_of_text ha]
        cases hw : wire.decode text <;> simp [decodeScalarAt, ha, hw, ScalarExit.result]
      | null | bool | number | array | object =>
        rw [exit_of_not_text ha (by simp)]
        simp [decodeScalarAt, ha, ScalarExit.result]
    · simp [decodeScalarAt, ha, hd, exit_of_other ha hd, ScalarExit.result]

/-- So does writing. -/
theorem encodeScalarFor_eq_encodeBoxed (c : Codec ι) (s : ScalarType ι) (t : ι)
    (x : Domains.Carrier t) (name : String) :
    c.encodeScalarFor s t x name = c.encodeBoxed s ⟨t, x⟩ name := by
  unfold encodeScalarFor encodeBoxed erased?
  cases ha : c.adapter? s.name with
  | none => rfl
  | some a =>
    obtain ⟨d, wire⟩ := a
    by_cases hd : t = d
    · subst hd
      simp [Adapter.erase]
    · simp [Adapter.erase, Boxed.open?_of_ne, hd, Adapter.typeName, ErasedAdapter.typeName]

/-- What there is to the use of the scalar `s` for values of the domain type `t`, by a codec that
was made of the registry. -/
structure TypeSafe (r : Registry ι) (c : Codec ι) (s : ScalarType ι) (t : ι) : Prop where
  -- there is no adapter, or one of another domain type, or one of this very type
  cases :
    (r.service? s.name = none ∧ c.Ignores s t) ∨
    (∃ own a, r.service? s.name = some (own, a) ∧ own.domain = a.domain ∧
      c.Rejects s t a.domain) ∨
    (∃ wire, r.service? s.name = some (⟨s.name, t⟩, ⟨t, wire⟩) ∧ c.Converts s t wire)
  -- what is seen of the codec tells these apart
  apart : ∀ d wire, ¬(c.Ignores s t ∧ c.Rejects s t d) ∧ ¬(c.Ignores s t ∧ c.Converts s t wire) ∧
    ¬(c.Rejects s t d ∧ c.Converts s t wire)
  -- reading goes by one of the ways out, and never by the one where an adapter has given a value of
  -- another domain type than its own
  decode : ∀ v path,
    c.decodeScalarAt s t v path = (c.exit s t v).result s.name path (Domains.typeName t) ∧
      ∀ registered, c.exit s t v ≠ .stray registered
  encode : ∀ (x : Domains.Carrier t) name,
    c.encodeScalarFor s t x name = c.encodeBoxed s ⟨t, x⟩ name

end Codec

/-- Custom scalars are type-safe, and writing and reading them are inverse as far as the adapter is.
With a codec made of any registry that came about by declarations and registrations, a scalar and a
domain type meet exactly one of three cases: there is no adapter of that name; there is one that
handles another domain type; there is one that handles this domain type, and was registered for a
scalar that maps to it. -/
theorem Registry.scalars_typeSafe {r : Registry ι} (hr : r.Reachable) {c : Codec ι}
    (hc : Codec.ofRegistry r = .ok c) (s : ScalarType ι) (t : ι) : c.TypeSafe r s t := by
  have hadapter := Codec.adapter?_ofRegistry hc s.name
  refine ⟨?_, ?_, c.decodeScalarAt_eq_exit s t, c.encodeScalarFor_eq_encodeBoxed s t⟩
  · cases hs : r.service? s.name with
    | none =>
      rw [hs] at hadapter
      exact .inl ⟨rfl, Codec.ignores_of_none hadapter t⟩
    | some p =>
      obtain ⟨own, a⟩ := p
      obtain ⟨hname, hfits⟩ := hr.orderly.service? hs
      rw [hs] at hadapter
      by_cases hd : a.domain = t
      · obtain ⟨d, wire⟩ := a
        obtain rfl : d = t := hd
        obtain rfl : own = ⟨s.name, d⟩ := by
          cases own
          simp_all
        exact .inr (.inr ⟨wire, rfl, Codec.converts_of_same hadapter⟩)
      · exact .inr (.inl ⟨own, a, rfl, hfits, Codec.rejects_of_other hadapter hd⟩)
  · intro d wire
    exact ⟨fun h => h.1.not_rejects h.2, fun h => h.1.not_converts h.2,
      fun h => h.1.not_converts h.2⟩

/-- A name that was declared for texts and then given an adapter of truth values: asked for texts,
the codec refuses in both directions; asked for truth values, it converts them. -/
theorem Registry.scalars_typeSafe_replaced :
    let s : ScalarType MixedDomain := ⟨"Flag", .text⟩
    ∃ r c, (Registry.empty.declare s).register ⟨"Flag", .truth⟩ ⟨.truth, .bool⟩ = .ok r ∧
      r.Reachable ∧ Codec.ofRegistry r = .ok c ∧ c.Rejects s .text .truth ∧
      c.Converts s .truth .bool := by
  intro s
  obtain ⟨r, hregister⟩ : ∃ r, (Registry.empty.declare s).register ⟨"Flag", .truth⟩
      ⟨MixedDomain.truth, .bool⟩ = .ok r := ⟨_, rfl⟩
  have hr : r.Reachable := (Reachable.empty.declare s).register hregister
  cases hregister
  refine ⟨_, _, rfl, hr, rfl, ?_, ?_⟩
  · rcases (Registry.scalars_typeSafe hr rfl s .text).cases with
      ⟨hnone, -⟩ | ⟨own, a, hs, -, hrejects⟩ | ⟨wire, hs, -⟩
    · cases hnone
    · obtain ⟨rfl, rfl⟩ := Prod.mk.inj (Option.some.inj hs)
      exact hrejects
    · cases hs
  · rcases (Registry.scalars_typeSafe hr rfl s .truth).cases with
      ⟨hnone, -⟩ | ⟨own, a, hs, -, hrejects⟩ | ⟨wire, hs, hconverts⟩
    · cases hnone
    · obtain ⟨rfl, rfl⟩ := Prod.mk.inj (Option.some.inj hs)
      exact absurd rfl hrejects.differs
    · obtain ⟨-, hwire⟩ := Prod.mk.inj (Option.some.inj hs)
      cases hwire
      exact hconverts

end GraphClient
