import GraphClient.Client.History

/-!
# What one setting does

Every setting of a builder touches one or two of its fields and leaves the others as they are. The
equations below say what it does to each field, for all settings at once. Proofs about histories go
through them and leave the builder's operations closed.
-/

namespace GraphClient

variable {ι : Type} [Domains ι] {τ : Type}

namespace Header

theorem fault?_eq_some {name : String} {bytes : List UInt8} {fault : HeaderFault}
    (h : fault? name bytes = some fault) :
    normalizeName? name = none ∨ HeaderValue.ofBytes? bytes = none := by
  unfold fault? at h
  cases hn : normalizeName? name with
  | none => exact .inl rfl
  | some key =>
    cases hv : HeaderValue.ofBytes? bytes with
    | none => exact .inr rfl
    | some value => simp [hn, hv] at h

end Header

namespace Headers

theorem set_of_fault {name : String} {bytes : List UInt8} {fault : HeaderFault} (hs : Headers)
    (h : Header.fault? name bytes = some fault) : hs.set name bytes = .error fault := by
  unfold Header.fault? at h
  unfold set
  cases hn : Header.normalizeName? name with
  | none =>
    simp only [hn, Option.isNone_none, if_true, Option.some.injEq] at h
    rw [h]
  | some key =>
    cases hv : HeaderValue.ofBytes? bytes with
    | none =>
      simp only [hn, hv, Option.isNone_none, Option.isNone_some, Bool.false_eq_true, if_false,
        if_true, Option.some.injEq] at h
      rw [h]
    | some value => simp [hn, hv] at h

theorem set_of_no_fault {name : String} {bytes : List UInt8} (hs : Headers)
    (h : Header.fault? name bytes = none) :
    ∃ key value, Header.normalizeName? name = some key ∧ HeaderValue.ofBytes? bytes = some value ∧
      hs.set name bytes = .ok (hs.insert key value) := by
  unfold Header.fault? at h
  cases hn : Header.normalizeName? name with
  | none => simp [hn] at h
  | some key =>
    cases hv : HeaderValue.ofBytes? bytes with
    | none => simp [hn, hv] at h
    | some value => exact ⟨key, value, rfl, rfl, by simp [set, hn, hv]⟩

theorem find?_insert (hs : Headers) (key other : String) (value : HeaderValue) :
    (hs.insert key value).find? other = if key = other then some value else hs.find? other := by
  unfold insert find?
  by_cases hk : key = other
  · subst hk
    simp [Entries.find?_insert_self]
  · simp [hk, Entries.find?_insert_of_ne _ _ (Ne.symm hk)]

end Headers

namespace Registry

/-- The scalar and the adapter of a name, if it has an adapter. -/
def service? (r : Registry ι) (name : String) : Option (ScalarType ι × Adapter ι) :=
  (r.find? name).bind fun e => e.adapter.map fun a => (e.scalar, a)

theorem register_of_mismatch {scalar : ScalarType ι} {adapter : Adapter ι}
    {why : ConfigurationError} (r : Registry ι) (h : scalar.mismatch? adapter = some why) :
    r.register scalar adapter = .error why := by
  unfold ScalarType.mismatch? at h
  unfold register
  split at h
  · cases h
  · rename_i hne
    rw [if_neg hne, Option.some.inj h]

theorem register_of_match {scalar : ScalarType ι} {adapter : Adapter ι} (r : Registry ι)
    (h : scalar.domain = adapter.domain) :
    r.register scalar adapter = .ok ⟨put ⟨scalar, some adapter⟩ r.entries⟩ := by
  unfold register
  rw [if_pos h]

theorem service?_declare (r : Registry ι) (scalar : ScalarType ι) (name : String) :
    (r.declare scalar).service? name = r.service? name := by
  unfold declare
  split
  · rfl
  · rename_i hno
    unfold service? find?
    rw [List.find?_append]
    cases hf : r.entries.find? (·.scalar.name == name) with
    | some e => rfl
    | none =>
      by_cases hn : scalar.name = name
      · simp [hn]
      · simp [hn]

theorem service?_put (r : Registry ι) (scalar : ScalarType ι) (adapter : Adapter ι)
    (name : String) :
    service? ⟨put ⟨scalar, some adapter⟩ r.entries⟩ name =
      if scalar.name = name then some (scalar, adapter) else r.service? name := by
  unfold service? find?
  simp only [find?_put]
  split <;> rfl

end Registry

namespace ScalarType

theorem mismatch?_eq_none_iff (scalar : ScalarType ι) (adapter : Adapter ι) :
    scalar.mismatch? adapter = none ↔ scalar.domain = adapter.domain := by
  simp [mismatch?]

end ScalarType

namespace Builder

theorem withHeader_of_fault {name : String} {bytes : List UInt8} {fault : HeaderFault}
    (b : Builder ι τ) (h : Header.fault? name bytes = some fault) :
    b.withHeader name bytes =
      { b with headerFault := some (b.headerFault.getD (.invalidHeader fault.message)) } := by
  unfold withHeader
  rw [b.headers.set_of_fault h]

theorem withHeader_of_no_fault {name : String} {bytes : List UInt8} (b : Builder ι τ)
    (h : Header.fault? name bytes = none) :
    ∃ key value, Header.normalizeName? name = some key ∧ HeaderValue.ofBytes? bytes = some value ∧
      b.withHeader name bytes = { b with headers := b.headers.insert key value } := by
  obtain ⟨key, value, hn, hv, hset⟩ := b.headers.set_of_no_fault h
  refine ⟨key, value, hn, hv, ?_⟩
  unfold withHeader
  rw [hset]

/-- A header touches nothing but the headers and their fault. -/
theorem withHeader_frame (b : Builder ι τ) (name : String) (bytes : List UInt8) :
    ∃ headers headerFault, b.withHeader name bytes = { b with headers, headerFault } := by
  unfold withHeader
  split
  · exact ⟨_, _, rfl⟩
  · exact ⟨_, _, rfl⟩

theorem withAdapter_of_match {scalar : ScalarType ι} {adapter : Adapter ι} (b : Builder ι τ)
    (h : scalar.domain = adapter.domain) :
    b.withAdapter scalar adapter =
      { b with
        registry := ⟨Registry.put ⟨scalar, some adapter⟩ b.registry.entries⟩
        scalarFaults := b.scalarFaults.filter (·.1 != scalar.name) } := by
  unfold withAdapter
  rw [b.registry.register_of_match h]

theorem withAdapter_of_mismatch {scalar : ScalarType ι} {adapter : Adapter ι}
    {why : ConfigurationError} (b : Builder ι τ) (h : scalar.mismatch? adapter = some why) :
    b.withAdapter scalar adapter =
      { b with
        scalarFaults := b.scalarFaults.filter (·.1 != scalar.name) ++ [(scalar.name, why)] } := by
  unfold withAdapter
  rw [b.registry.register_of_mismatch h]

/-- An adapter touches nothing but the registry and the faults of scalars. -/
theorem withAdapter_frame (b : Builder ι τ) (scalar : ScalarType ι) (adapter : Adapter ι) :
    ∃ registry scalarFaults,
      b.withAdapter scalar adapter = { b with registry, scalarFaults } := by
  unfold withAdapter
  split
  · exact ⟨_, _, rfl⟩
  · exact ⟨_, _, rfl⟩

theorem headerFault_withHeader (b : Builder ι τ) (name : String) (bytes : List UInt8) :
    (b.withHeader name bytes).headerFault =
      b.headerFault.or
        ((Header.fault? name bytes).map fun fault => .invalidHeader fault.message) := by
  cases h : Header.fault? name bytes with
  | some fault =>
    rw [b.withHeader_of_fault h]
    cases b.headerFault <;> rfl
  | none =>
    obtain ⟨_, _, -, -, hb⟩ := b.withHeader_of_no_fault h
    rw [hb]
    simp

theorem find?_withHeader (b : Builder ι τ) (name : String) (bytes : List UInt8) (key : String) :
    (b.withHeader name bytes).headers.find? key =
      (if Header.normalizeName? name = some key then HeaderValue.ofBytes? bytes else none).or
        (b.headers.find? key) := by
  cases h : Header.fault? name bytes with
  | some fault =>
    rw [b.withHeader_of_fault h]
    rcases Header.fault?_eq_some h with hn | hv
    · simp [hn]
    · simp [hv]
  | none =>
    obtain ⟨k, value, hn, hv, hb⟩ := b.withHeader_of_no_fault h
    rw [hb, Headers.find?_insert, hn, hv]
    by_cases hk : k = key
    · simp [hk]
    · simp [hk]

theorem sorted_withHeader {b : Builder ι τ} (name : String) (bytes : List UInt8)
    (hb : Entries.Sorted b.headers.entries) :
    Entries.Sorted (b.withHeader name bytes).headers.entries := by
  cases h : Header.fault? name bytes with
  | some fault =>
    rw [b.withHeader_of_fault h]
    exact hb
  | none =>
    obtain ⟨key, value, -, -, hw⟩ := b.withHeader_of_no_fault h
    rw [hw]
    exact Entries.sorted_insert key value hb

theorem names_withAdapter (b : Builder ι τ) (scalar : ScalarType ι) (adapter : Adapter ι) :
    (b.withAdapter scalar adapter).registry.names =
      if scalar.domain = adapter.domain ∧ scalar.name ∉ b.registry.names then
        b.registry.names ++ [scalar.name]
      else b.registry.names := by
  cases h : scalar.mismatch? adapter with
  | none =>
    have hm := (scalar.mismatch?_eq_none_iff adapter).mp h
    rw [b.withAdapter_of_match hm, Registry.names_register (b.registry.register_of_match hm)]
    by_cases hn : scalar.name ∈ b.registry.names
    · simp [hn]
    · simp [hn, hm]
  | some why =>
    rw [b.withAdapter_of_mismatch h]
    have hm : scalar.domain ≠ adapter.domain := by
      intro hm
      simp [(scalar.mismatch?_eq_none_iff adapter).mpr hm] at h
    simp [hm]

theorem service?_withAdapter (b : Builder ι τ) (scalar : ScalarType ι) (adapter : Adapter ι)
    (name : String) :
    (b.withAdapter scalar adapter).registry.service? name =
      if scalar.name = name ∧ scalar.domain = adapter.domain then some (scalar, adapter)
      else b.registry.service? name := by
  cases h : scalar.mismatch? adapter with
  | none =>
    have hm := (scalar.mismatch?_eq_none_iff adapter).mp h
    rw [b.withAdapter_of_match hm, Registry.service?_put]
    simp [hm]
  | some why =>
    rw [b.withAdapter_of_mismatch h]
    have hm : scalar.domain ≠ adapter.domain := by
      intro hm
      simp [(scalar.mismatch?_eq_none_iff adapter).mpr hm] at h
    simp [hm]

theorem scalarFaults_withAdapter (b : Builder ι τ) (scalar : ScalarType ι) (adapter : Adapter ι) :
    (b.withAdapter scalar adapter).scalarFaults =
      b.scalarFaults.filter (·.1 != scalar.name) ++
        ((scalar.mismatch? adapter).map fun why => (scalar.name, why)).toList := by
  cases h : scalar.mismatch? adapter with
  | none =>
    rw [b.withAdapter_of_match ((scalar.mismatch?_eq_none_iff adapter).mp h)]
    simp
  | some why =>
    rw [b.withAdapter_of_mismatch h]
    rfl

/-! ### The equations of the fields -/

theorem parts_configure (b : Builder ι τ) (s : Setting ι τ) :
    (b.configure s).transport = s.transport?.or b.transport ∧
    (b.configure s).endpoint = s.endpoint?.or b.endpoint ∧
    (b.configure s).delivery = s.delivery?.or b.delivery := by
  cases s with
  | header name bytes =>
    obtain ⟨_, _, h⟩ := b.withHeader_frame name bytes
    rw [configure, h]
    exact ⟨rfl, rfl, rfl⟩
  | bearerToken token =>
    obtain ⟨_, _, h⟩ := b.withHeader_frame "authorization" ("Bearer " ++ token).toUTF8.toList
    rw [configure, withBearerToken, h]
    exact ⟨rfl, rfl, rfl⟩
  | adapter scalar a =>
    obtain ⟨_, _, h⟩ := b.withAdapter_frame scalar a
    rw [configure, h]
    exact ⟨rfl, rfl, rfl⟩
  | transport | endpoint | delivery | scalar => exact ⟨rfl, rfl, rfl⟩

theorem headerFault_configure (b : Builder ι τ) (s : Setting ι τ) :
    (b.configure s).headerFault =
      b.headerFault.or (s.headerFault?.map fun fault => .invalidHeader fault.message) := by
  cases s with
  | header name bytes => exact b.headerFault_withHeader name bytes
  | bearerToken token => exact b.headerFault_withHeader "authorization" _
  | adapter scalar a =>
    obtain ⟨_, _, h⟩ := b.withAdapter_frame scalar a
    rw [configure, h]
    exact Option.or_none.symm
  | transport | endpoint | delivery | scalar => exact Option.or_none.symm

theorem headers_configure (b : Builder ι τ) (s : Setting ι τ) (key : String) :
    (b.configure s).headers.find? key = (s.headerValue? key).or (b.headers.find? key) := by
  cases s with
  | header name bytes => exact b.find?_withHeader name bytes key
  | bearerToken token => exact b.find?_withHeader "authorization" _ key
  | adapter scalar a =>
    obtain ⟨_, _, h⟩ := b.withAdapter_frame scalar a
    rw [configure, h]
    rfl
  | transport | endpoint | delivery | scalar => rfl

theorem sorted_configure {b : Builder ι τ} (s : Setting ι τ)
    (hb : Entries.Sorted b.headers.entries) :
    Entries.Sorted (b.configure s).headers.entries := by
  cases s with
  | header name bytes => exact sorted_withHeader name bytes hb
  | bearerToken token => exact sorted_withHeader "authorization" _ hb
  | adapter scalar a =>
    obtain ⟨_, _, h⟩ := b.withAdapter_frame scalar a
    rw [configure, h]
    exact hb
  | transport | endpoint | delivery | scalar => exact hb

/-- Names come up at the end, and none goes away. -/
theorem names_configure (b : Builder ι τ) (s : Setting ι τ) :
    (b.configure s).registry.names =
      b.registry.names ++ (s.entered?.filter (· ∉ b.registry.names)).toList := by
  cases s with
  | header name bytes =>
    obtain ⟨_, _, h⟩ := b.withHeader_frame name bytes
    rw [configure, h]
    exact (List.append_nil _).symm
  | bearerToken token =>
    obtain ⟨_, _, h⟩ := b.withHeader_frame "authorization" ("Bearer " ++ token).toUTF8.toList
    rw [configure, withBearerToken, h]
    exact (List.append_nil _).symm
  | adapter scalar a =>
    rw [configure, names_withAdapter]
    by_cases hm : scalar.domain = a.domain
    · by_cases hn : scalar.name ∈ b.registry.names
      · simp [Setting.entered?, hm, hn]
      · simp [Setting.entered?, hm, hn, Option.filter_some]
    · simp [Setting.entered?, hm]
  | scalar s =>
    rw [configure, withScalar, Registry.names_declare]
    by_cases hn : s.name ∈ b.registry.names
    · simp [Setting.entered?, hn]
    · simp [Setting.entered?, hn, Option.filter_some]
  | transport | endpoint | delivery => exact (List.append_nil _).symm

theorem service?_configure (b : Builder ι τ) (s : Setting ι τ) (name : String) :
    (b.configure s).registry.service? name =
      (s.matching? name).or (b.registry.service? name) := by
  cases s with
  | header name' bytes =>
    obtain ⟨_, _, h⟩ := b.withHeader_frame name' bytes
    rw [configure, h]
    rfl
  | bearerToken token =>
    obtain ⟨_, _, h⟩ := b.withHeader_frame "authorization" ("Bearer " ++ token).toUTF8.toList
    rw [configure, withBearerToken, h]
    rfl
  | adapter scalar a =>
    rw [configure, service?_withAdapter, Setting.matching?_adapter]
    split <;> rfl
  | scalar s => exact b.registry.service?_declare s name
  | transport | endpoint | delivery => rfl

theorem scalarFaults_configure_of_registration {s : Setting ι τ} {r : ScalarType ι × Adapter ι}
    (b : Builder ι τ) (hs : s.registration? = some r) :
    (b.configure s).scalarFaults =
      b.scalarFaults.filter (·.1 != r.1.name) ++
        ((r.1.mismatch? r.2).map fun why => (r.1.name, why)).toList := by
  cases s with
  | adapter scalar a =>
    obtain rfl := Option.some.inj hs
    exact b.scalarFaults_withAdapter scalar a
  | transport | endpoint | delivery | header | bearerToken | scalar => cases hs

theorem scalarFaults_configure_of_none {s : Setting ι τ} (b : Builder ι τ)
    (hs : s.registration? = none) : (b.configure s).scalarFaults = b.scalarFaults := by
  cases s with
  | header name bytes =>
    obtain ⟨_, _, h⟩ := b.withHeader_frame name bytes
    rw [configure, h]
  | bearerToken token =>
    obtain ⟨_, _, h⟩ := b.withHeader_frame "authorization" ("Bearer " ++ token).toUTF8.toList
    rw [configure, withBearerToken, h]
  | adapter => cases hs
  | transport | endpoint | delivery | scalar => rfl

end Builder

end GraphClient
