import GraphClient.Proofs.Client.History

/-!
# Building after a history of settings

What building a builder reports, or the client it gives, is determined by the history of the
settings, and can be read off it. Building looks at the fields in a fixed order; the first fault it
meets there is the first fault of the history in the same order.
-/

namespace GraphClient

variable {ι : Type} [Domains ι] {τ : Type}

namespace Registry

/-- An entry is the one of its name, as no name stands twice. -/
theorem find?_of_mem {r : Registry ι} (hr : r.names.Nodup) {e : RegistryEntry ι}
    (he : e ∈ r.entries) : r.find? e.scalar.name = some e := by
  obtain ⟨entries⟩ := r
  unfold names at hr
  unfold find?
  simp only at hr he ⊢
  induction entries with
  | nil => cases he
  | cons d rest ih =>
    rw [List.map_cons, List.nodup_cons] at hr
    rcases List.mem_cons.mp he with rfl | he
    · simp
    · have hne : d.scalar.name ≠ e.scalar.name := by
        intro heq
        exact hr.1 (heq ▸ List.mem_map_of_mem he)
      simp [hne, ih hr.2 he]

theorem service?_of_mem {r : Registry ι} (hr : r.names.Nodup) {e : RegistryEntry ι}
    (he : e ∈ r.entries) :
    r.service? e.scalar.name = e.adapter.map fun a => (e.scalar, a) := by
  unfold service?
  rw [find?_of_mem hr he]
  rfl

def unserved? (r : Registry ι) : Option ConfigurationError :=
  (r.names.find? fun name => (r.service? name).isNone).map .missingScalarAdapter

theorem validate_eq {r : Registry ι} (hr : r.names.Nodup) :
    r.validate = match r.unserved? with
      | some why => .error why
      | none => .ok () := by
  have hsame : ∀ e ∈ r.entries, (r.service? e.scalar.name).isNone = e.adapter.isNone := by
    intro e he
    rw [service?_of_mem hr he]
    cases e.adapter <;> rfl
  unfold validate unserved? names
  rw [List.find?_map, Function.comp_def, List.find?_congr hsame]
  cases r.entries.find? (·.adapter.isNone) <;> rfl

def services (r : Registry ι) : List (ScalarType ι × Adapter ι) := r.names.filterMap r.service?

theorem services_eq {r : Registry ι} (hr : r.names.Nodup) :
    r.services = r.entries.filterMap fun e => e.adapter.map fun a => (e.scalar, a) := by
  unfold services names
  rw [List.filterMap_map]
  exact List.filterMap_congr fun e he => service?_of_mem hr he

/-- Where every name has a service, the services are all there is. -/
theorem entries_eq {r : Registry ι} (hr : r.names.Nodup) (h : r.unserved? = none) :
    r.entries = r.services.map fun p => ⟨p.1, some p.2⟩ := by
  have hall : ∀ e ∈ r.entries, (e.adapter.map fun a => (⟨e.scalar, some a⟩ : RegistryEntry ι)) =
      some e := by
    intro e he
    have hserved := List.find?_eq_none.mp (Option.map_eq_none_iff.mp h) e.scalar.name
      (List.mem_map_of_mem he)
    rw [service?_of_mem hr he] at hserved
    obtain ⟨scalar, _ | a⟩ := e
    · simp at hserved
    · rfl
  rw [services_eq hr, List.map_filterMap]
  simp only [Option.map_map, Function.comp_def]
  rw [List.filterMap_congr hall, List.filterMap_some]

end Registry

namespace Codec

theorem error?_ofRegistry {r : Registry ι} (hr : r.names.Nodup) :
    error? (ofRegistry r) = r.unserved? := by
  unfold ofRegistry
  rw [Registry.validate_eq hr]
  cases r.unserved? <;> rfl

theorem adapters_ofRegistry {r : Registry ι} {c : Codec ι} (hr : r.names.Nodup)
    (h : ofRegistry r = .ok c) : c.adapters = r.services := by
  have hserved : r.unserved? = none := by
    rw [← error?_ofRegistry hr, h]
    rfl
  unfold ofRegistry at h
  rw [Registry.validate_eq hr, hserved] at h
  obtain rfl := Except.ok.inj h
  exact (Registry.services_eq hr).symm

end Codec

namespace Builder

/-- What building finds wrong, in the order in which it looks. -/
def fault? (b : Builder ι τ) : Option ConfigurationError :=
  [missingPart? b.transport b.endpoint b.delivery, b.endpoint.bind fun e => error? e.resolve,
    b.headerFault, b.scalarFaults.head?.map (·.2),
    error? (Codec.ofRegistry b.registry)].findSome? id

structure Frozen (b : Builder ι τ) (c : Client ι τ) : Prop where
  transport : b.transport = some c.transport
  endpoint : ∃ e, b.endpoint = some e ∧ e.resolve = .ok c.endpoint
  delivery : b.delivery = some c.delivery
  headerFault : b.headerFault = none
  headers : b.headers = c.headers
  scalarFaults : b.scalarFaults = []
  registry : b.registry = c.registry
  codec : Codec.ofRegistry b.registry = .ok c.codec

theorem build_of_missing {b : Builder ι τ} {why : ConfigurationError}
    (h : missingPart? b.transport b.endpoint b.delivery = some why) : b.build = .error why := by
  unfold build
  cases ht : b.transport with
  | none =>
    rw [ht] at h
    exact Option.some.inj h ▸ rfl
  | some t =>
    cases he : b.endpoint with
    | none =>
      rw [ht, he] at h
      exact Option.some.inj h ▸ rfl
    | some e =>
      cases hd : b.delivery with
      | none =>
        rw [ht, he, hd] at h
        exact Option.some.inj h ▸ rfl
      | some d =>
        rw [ht, he, hd] at h
        cases h

theorem parts_of_none_missing {b : Builder ι τ}
    (h : missingPart? b.transport b.endpoint b.delivery = none) :
    ∃ t e d, b.transport = some t ∧ b.endpoint = some e ∧ b.delivery = some d := by
  cases ht : b.transport with
  | none => simp [missingPart?, ht] at h
  | some t =>
    cases he : b.endpoint with
    | none => simp [missingPart?, ht, he] at h
    | some e =>
      cases hd : b.delivery with
      | none => simp [missingPart?, ht, he, hd] at h
      | some d => exact ⟨t, e, d, rfl, rfl, rfl⟩

theorem build_of_parts {b : Builder ι τ} {t : τ} {e : Endpoint} {d : Delivery}
    (ht : b.transport = some t) (he : b.endpoint = some e) (hd : b.delivery = some d) :
    b.build = (do
      let url ← e.resolve
      noFault b.headerFault
      noFault (b.scalarFaults.head?.map (·.2))
      let codec ← Codec.ofRegistry b.registry
      return { endpoint := url, transport := t, codec, registry := b.registry, delivery := d,
               headers := b.headers }) := by
  unfold build
  rw [ht, he, hd]
  rfl

/-- Building fails with the first fault it finds, and where it finds none, it gives a client that
holds what the builder does. -/
theorem build_eq (b : Builder ι τ) :
    match b.fault? with
    | some why => b.build = .error why
    | none => ∃ c, b.build = .ok c ∧ b.Frozen c := by
  unfold fault?
  cases hm : missingPart? b.transport b.endpoint b.delivery with
  | some why => exact build_of_missing hm
  | none =>
    obtain ⟨t, e, d, ht, he, hd⟩ := parts_of_none_missing hm
    rw [build_of_parts ht he hd, he, Option.bind_some]
    cases hr : e.resolve with
    | error why => rfl
    | ok url =>
      cases hf : b.headerFault with
      | some why => rfl
      | none =>
        cases hs : b.scalarFaults with
        | cons fault rest => rfl
        | nil =>
          cases hc : Codec.ofRegistry b.registry with
          | error why => rfl
          | ok codec => exact ⟨_, rfl, ht, ⟨e, he, hr⟩, hd, hf, rfl, hs, rfl, hc⟩

theorem frozen_of_build {b : Builder ι τ} {c : Client ι τ} (h : b.build = .ok c) : b.Frozen c := by
  have hb := b.build_eq
  cases hf : b.fault? with
  | some why =>
    rw [hf, h] at hb
    cases hb
  | none =>
    rw [hf, h] at hb
    obtain ⟨d, hd, hfrozen⟩ := hb
    obtain rfl := Except.ok.inj hd
    exact hfrozen

/-! ### Faults and parts after a history -/

theorem nodup_ofHistory (h : History ι τ) : (ofHistory h).registry.names.Nodup := by
  rw [names_ofHistory]
  exact h.nodup_entered

theorem scalarFault_ofHistory (h : History ι τ) :
    (ofHistory h).scalarFaults.head?.map (·.2) = h.mismatched? := by
  rw [scalarFaults_ofHistory]
  unfold History.faults History.mismatched?
  rw [List.head?_filterMap, List.map_findSome?]
  congr 1
  funext name
  cases hm : h.mismatch? name <;> simp [hm]

theorem unserved?_ofHistory (h : History ι τ) :
    (ofHistory h).registry.unserved? = h.unserved? := by
  unfold Registry.unserved? History.unserved?
  simp only [names_ofHistory, service?_ofHistory]
  rw [h.find?_entered]

theorem fault?_ofHistory (h : History ι τ) : (ofHistory h).fault? = h.fault? := by
  unfold fault? History.fault?
  rw [transport_ofHistory, endpoint_ofHistory, delivery_ofHistory, headerFault_ofHistory,
    scalarFault_ofHistory, Codec.error?_ofRegistry (nodup_ofHistory h), unserved?_ofHistory]
  rfl

theorem services_ofHistory (h : History ι τ) : (ofHistory h).registry.services = h.scalars := by
  unfold Registry.services History.scalars
  simp only [names_ofHistory, service?_ofHistory]

theorem describes_of_frozen {h : History ι τ} {c : Client ι τ} (hc : (ofHistory h).Frozen c) :
    h.Describes c := by
  have hnodup := nodup_ofHistory h
  have hserved : (ofHistory h).registry.unserved? = none := by
    rw [← Codec.error?_ofRegistry hnodup, hc.codec]
    rfl
  constructor
  · rw [← transport_ofHistory, hc.transport]
  · rw [← endpoint_ofHistory]
    exact hc.endpoint
  · rw [← delivery_ofHistory, hc.delivery]
  · intro key
    rw [← hc.headers, headers_ofHistory]
  · rw [← hc.headers]
    exact sorted_ofHistory h
  · rw [← hc.registry, names_ofHistory]
  · rw [← hc.registry, Registry.entries_eq hnodup hserved, services_ofHistory]
  · rw [Codec.adapters_ofRegistry hnodup hc.codec, services_ofHistory]

end Builder

/-- A history describes one client at most. -/
theorem History.Describes.unique {h : History ι τ} {c d : Client ι τ} (hc : h.Describes c)
    (hd : h.Describes d) : c = d := by
  obtain ⟨url, transport, ⟨adapters⟩, ⟨entries⟩, delivery, ⟨headers⟩⟩ := c
  obtain ⟨url', transport', ⟨adapters'⟩, ⟨entries'⟩, delivery', ⟨headers'⟩⟩ := d
  obtain rfl : transport = transport' := Option.some.inj (hc.transport.symm.trans hd.transport)
  obtain rfl : delivery = delivery' := Option.some.inj (hc.delivery.symm.trans hd.delivery)
  obtain rfl : entries = entries' := hc.registry.trans hd.registry.symm
  obtain rfl : adapters = adapters' := hc.codec.trans hd.codec.symm
  obtain rfl : headers = headers' := Entries.eq_of_find?_eq hc.sorted hd.sorted fun key =>
    (hc.headers key).trans (hd.headers key).symm
  obtain ⟨e, he, hr⟩ := hc.endpoint
  obtain ⟨e', he', hr'⟩ := hd.endpoint
  obtain rfl : e = e' := Option.some.inj (he.symm.trans he')
  obtain rfl : url = url' := Except.ok.inj (hr.symm.trans hr')
  rfl

/-- Building reports the first fault of the history of settings, and where the history has none,
gives the one client that it describes. -/
theorem History.build_ofHistory (h : History ι τ) :
    match h.fault? with
    | some why => (Builder.ofHistory h).build = .error why
    | none => ∃ c, (Builder.ofHistory h).build = .ok c ∧ ∀ d, h.Describes d ↔ d = c := by
  have hb := (Builder.ofHistory h).build_eq
  rw [Builder.fault?_ofHistory] at hb
  cases hf : h.fault? with
  | some why =>
    rw [hf] at hb
    exact hb
  | none =>
    rw [hf] at hb
    obtain ⟨c, hc, hfrozen⟩ := hb
    have hdescribes := Builder.describes_of_frozen hfrozen
    refine ⟨c, hc, fun d => ⟨fun hd => hd.unique hdescribes, ?_⟩⟩
    rintro rfl
    exact hdescribes

end GraphClient
