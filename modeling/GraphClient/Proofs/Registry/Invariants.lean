import GraphClient.Registry.Calls
import GraphClient.Proofs.Codec.TypeSafety
import GraphClient.Proofs.Entries.Settled

/-!
# What holds of a registry after every history

A registry is known by the calls that were made on it. A call adds at most one name, behind the
others; it never takes a name or an adapter away, and one that is refused changes nothing. A codec
that is made of the registry knows the same names in the same order.
-/

namespace GraphClient

variable {ι : Type} [Domains ι]

namespace Registry

/-! ### One call -/

inductive Becomes (r : Registry ι) : Registry ι → Prop
  | same : Becomes r r
  | declared (scalar : ScalarType ι) : Becomes r (r.declare scalar)
  | registered {r' : Registry ι} {scalar : ScalarType ι} {adapter : Adapter ι}
    (ok : r.register scalar adapter = .ok r') : Becomes r r'

theorem call_register_of_match (r : Registry ι) {scalar : ScalarType ι} {adapter : Adapter ι}
    (h : scalar.domain = adapter.domain) :
    r.call (.register scalar adapter) =
      (.ok (), ⟨put ⟨scalar, some adapter⟩ r.entries⟩) := by
  simp [call, register, h]

theorem call_register_of_mismatch (r : Registry ι) {scalar : ScalarType ι} {adapter : Adapter ι}
    (h : scalar.domain ≠ adapter.domain) :
    r.call (.register scalar adapter) =
      (.error (.scalarTypeMismatch scalar.name scalar.typeName adapter.typeName), r) := by
  simp [call, register, h]

theorem becomes_call (r : Registry ι) (c : RegistryCall ι) : r.Becomes (r.call c).2 := by
  cases c with
  | declare scalar => exact .declared scalar
  | register scalar adapter =>
    by_cases h : scalar.domain = adapter.domain
    · rw [call_register_of_match r h]
      exact .registered (if_pos h)
    · rw [call_register_of_mismatch r h]
      exact .same

theorem Becomes.names {r r' : Registry ι} (h : r.Becomes r') : r.names <+: r'.names := by
  have hadded : ∀ name, r.names <+: if name ∈ r.names then r.names else r.names ++ [name] := by
    intro name
    split
    · exact List.prefix_rfl
    · exact List.prefix_append r.names [name]
  cases h with
  | same => exact List.prefix_rfl
  | declared scalar =>
    rw [names_declare]
    exact hadded _
  | registered ok =>
    rw [names_register ok]
    exact hadded _

theorem Becomes.hasAdapter {r r' : Registry ι} (h : r.Becomes r') {name : String}
    (ha : r.hasAdapter name = true) : r'.hasAdapter name = true := by
  cases h with
  | same => exact ha
  | declared scalar => exact hasAdapter_declare scalar ha
  | registered ok => exact hasAdapter_register ok ha

theorem Becomes.reachable {r r' : Registry ι} (h : r.Becomes r') (hr : r.Reachable) :
    r'.Reachable := by
  cases h with
  | same => exact hr
  | declared scalar => exact hr.declare scalar
  | registered ok => exact hr.register ok

/-- A call that is carried out enters the name of its scalar, unless it stands there already. -/
theorem names_call {r : Registry ι} {c : RegistryCall ι} (h : (r.call c).1 = .ok ()) :
    (r.call c).2.names =
      if c.scalar.name ∈ r.names then r.names else r.names ++ [c.scalar.name] := by
  cases c with
  | declare scalar => exact r.names_declare scalar
  | register scalar adapter =>
    by_cases hd : scalar.domain = adapter.domain
    · rw [call_register_of_match r hd]
      exact map_name_put _ _
    · rw [call_register_of_mismatch r hd] at h
      cases h

theorem service?_call (r : Registry ι) (c : RegistryCall ι) (name : String) :
    (r.call c).2.service? name = (c.installed? name).or (r.service? name) := by
  cases c with
  | register scalar adapter =>
    by_cases hd : scalar.domain = adapter.domain
    · rw [call_register_of_match r hd, service?_put]
      by_cases hn : scalar.name = name <;> simp [RegistryCall.installed?, hd, hn]
    · rw [call_register_of_mismatch r hd]
      simp [RegistryCall.installed?, hd]
  | declare scalar => exact r.service?_declare scalar name

/-- Declaring a scalar leaves the entries that are there. -/
theorem entries_declare (r : Registry ι) (scalar : ScalarType ι) :
    r.entries <+: (r.declare scalar).entries := by
  rw [declare]
  split
  · exact List.prefix_rfl
  · exact List.prefix_append _ _

/-! ### Histories -/

theorem ofCalls_append (before after : List (RegistryCall ι)) :
    ofCalls (before ++ after) = (ofCalls before).callAll after := by
  simp [ofCalls, callAll]

theorem ofCalls_concat (calls : List (RegistryCall ι)) (c : RegistryCall ι) :
    ofCalls (calls ++ [c]) = ((ofCalls calls).call c).2 :=
  ofCalls_append calls [c]

theorem names_callAll (r : Registry ι) (calls : List (RegistryCall ι)) :
    r.names <+: (r.callAll calls).names := by
  induction calls generalizing r with
  | nil => exact List.prefix_rfl
  | cons c rest ih => exact (r.becomes_call c).names.trans (ih (r.call c).2)

theorem hasAdapter_callAll {r : Registry ι} {name : String} (calls : List (RegistryCall ι))
    (h : r.hasAdapter name = true) : (r.callAll calls).hasAdapter name = true := by
  induction calls generalizing r with
  | nil => exact h
  | cons c rest ih => exact ih ((r.becomes_call c).hasAdapter h)

theorem reachable_ofCalls (calls : List (RegistryCall ι)) : (ofCalls calls).Reachable := by
  induction calls using List.reverseRecOn with
  | nil => exact .empty
  | append_singleton calls c ih =>
    rw [ofCalls_concat]
    exact (becomes_call _ c).reachable ih

theorem lastInstalled?_concat (calls : List (RegistryCall ι)) (c : RegistryCall ι)
    (name : String) :
    lastInstalled? (calls ++ [c]) name = (c.installed? name).or (lastInstalled? calls name) := by
  rw [lastInstalled?, lastInstalled?]
  cases hc : c.installed? name <;> simp [List.filterMap_append, hc]

/-- What stands under a name is what was put there last. -/
theorem service?_ofCalls (calls : List (RegistryCall ι)) (name : String) :
    (ofCalls calls).service? name = lastInstalled? calls name := by
  induction calls using List.reverseRecOn with
  | nil => rfl
  | append_singleton calls c ih =>
    rw [ofCalls_concat, service?_call, ih, lastInstalled?_concat]

/-! ### The codec of a registry -/

theorem ofRegistry_of_lacking {r : Registry ι} {e : RegistryEntry ι}
    (h : r.entries.find? (·.adapter.isNone) = some e) :
    Codec.ofRegistry r = .error (.missingScalarAdapter e.scalar.name) := by
  simp [Codec.ofRegistry, validate, h, bind, Except.bind]

theorem exists_ofRegistry_iff (r : Registry ι) :
    (∃ c, Codec.ofRegistry r = .ok c) ↔ ∀ e ∈ r.entries, e.adapter ≠ none := by
  cases h : r.entries.find? (·.adapter.isNone) with
  | some e =>
    have hnone : e.adapter = none := by simpa using List.find?_some h
    rw [ofRegistry_of_lacking h]
    refine iff_of_false (by simp) ?_
    intro hall
    exact hall e (List.mem_of_find?_eq_some h) hnone
  | none =>
    refine iff_of_true ?_ ?_
    · simp [Codec.ofRegistry, validate, h, bind, Except.bind, pure, Except.pure]
    · intro e he hnone
      exact List.find?_eq_none.mp h e he (by simp [hnone])

/-- The codec lists the scalars of the registry, all of them and in their order. -/
theorem scalarTypes_ofRegistry {r : Registry ι} (hr : r.names.Nodup) {c : Codec ι}
    (hc : Codec.ofRegistry r = .ok c) : c.scalarTypes = r.scalarTypes := by
  have hserved : r.unserved? = none := by
    rw [← Codec.error?_ofRegistry hr, hc]
    rfl
  rw [Codec.scalarTypes, scalarTypes]
  rw [Codec.adapters_ofRegistry hr hc, entries_eq hr hserved, List.map_map]
  rfl

/-- The map of the adapters holds under each name the one that the registry has there. -/
theorem find?_adaptersByName {r : Registry ι} (hr : r.names.Nodup) (name : String) :
    Entries.find? name r.adaptersByName = (r.service? name).map (·.2) := by
  rw [adaptersByName, Entries.find?_ofList]
  cases hlast : Entries.last? name (r.entries.filterMap fun e =>
      e.adapter.map fun a => (e.scalar.name, a)) with
  | some a =>
    obtain ⟨e, he, hpair⟩ := List.mem_filterMap.mp (Entries.mem_of_last? hlast)
    obtain ⟨b, hb, hname⟩ := Option.map_eq_some_iff.mp hpair
    obtain ⟨rfl, rfl⟩ := Prod.mk.inj hname
    rw [service?_of_mem hr he, hb]
    rfl
  | none =>
    cases hs : r.service? name with
    | none => rfl
    | some p =>
      obtain ⟨e, he, hp⟩ := Option.bind_eq_some_iff.mp hs
      obtain ⟨a, ha, -⟩ := Option.map_eq_some_iff.mp hp
      obtain rfl : e.scalar.name = name := by simpa using List.find?_some he
      have hmem : (e.scalar.name, a) ∈ r.entries.filterMap fun e =>
          e.adapter.map fun a => (e.scalar.name, a) :=
        List.mem_filterMap.mpr ⟨e, List.mem_of_find?_eq_some he, by simp [ha]⟩
      exact absurd (List.mem_map_of_mem hmem) (Entries.last?_eq_none_iff.mp hlast)

/-- What holds of the registry that calls have made, and of the codec that is made of it. -/
structure Upheld (calls : List (RegistryCall ι)) : Prop where
  names : (ofCalls calls).names.Nodup
  -- the names that the first calls made known stand in front, in their places
  grown : ∀ before after, calls = before ++ after →
    (ofCalls before).names <+: (ofCalls calls).names
  -- a call that is carried out enters a name that is new behind all others
  entered : ∀ c : RegistryCall ι, ((ofCalls calls).call c).1 = .ok () →
    ((ofCalls calls).call c).2.names =
      if c.scalar.name ∈ (ofCalls calls).names then (ofCalls calls).names
      else (ofCalls calls).names ++ [c.scalar.name]
  fits : ∀ e ∈ (ofCalls calls).entries, ∀ a, e.adapter = some a → a.domain = e.scalar.domain
  -- a name that has an adapter keeps having one
  kept : ∀ before after name, calls = before ++ after →
    (ofCalls before).hasAdapter name = true → (ofCalls calls).hasAdapter name = true
  declared : ∀ scalar (i : Nat) e, (ofCalls calls).entries[i]? = some e →
    ((ofCalls calls).call (.declare scalar)).2.entries[i]? = some e
  -- an adapter of another domain type is refused, and nothing changes
  refused : ∀ scalar adapter, adapter.domain ≠ scalar.domain →
    (ofCalls calls).call (.register scalar adapter) =
      (.error (.scalarTypeMismatch scalar.name scalar.typeName adapter.typeName), ofCalls calls)
  built : (∃ c, Codec.ofRegistry (ofCalls calls) = .ok c) ↔
    ∀ e ∈ (ofCalls calls).entries, e.adapter ≠ none
  -- otherwise the first entry without one is named
  lacking : ∀ first e rest, (ofCalls calls).entries = first ++ e :: rest →
    (∀ d ∈ first, d.adapter ≠ none) → e.adapter = none →
    Codec.ofRegistry (ofCalls calls) = .error (.missingScalarAdapter e.scalar.name)
  scalars : ∀ c, Codec.ofRegistry (ofCalls calls) = .ok c →
    c.scalarTypes = (ofCalls calls).scalarTypes
  adapters : ∀ c, Codec.ofRegistry (ofCalls calls) = .ok c → ∀ name,
    c.adapter? name = (lastInstalled? calls name).map (·.2)
  byName : ∀ name,
    Entries.find? name (ofCalls calls).adaptersByName = (lastInstalled? calls name).map (·.2)

/-- The invariants of the registry hold after every history of calls, and carry over to the codec
that is made of it. -/
theorem upheld_ofCalls (calls : List (RegistryCall ι)) : Upheld calls := by
  have horderly := (reachable_ofCalls calls).orderly
  constructor
  · exact horderly.names
  · rintro before after rfl
    rw [ofCalls_append]
    exact names_callAll _ after
  · intro c hc
    exact names_call hc
  · intro e he a ha
    exact (horderly.fits e he a ha).symm
  · rintro before after name rfl ha
    rw [ofCalls_append]
    exact hasAdapter_callAll after ha
  · intro scalar i e he
    obtain ⟨hi, rfl⟩ := List.getElem?_eq_some_iff.mp he
    exact ((entries_declare _ scalar).getElem hi).symm ▸ List.getElem?_eq_getElem _
  · intro scalar adapter h
    exact call_register_of_mismatch _ (Ne.symm h)
  · exact exists_ofRegistry_iff _
  · intro first e rest hentries hfirst he
    apply ofRegistry_of_lacking
    rw [hentries, List.find?_append, List.find?_eq_none.mpr]
    · simp [he]
    · intro d hd
      simpa using hfirst d hd
  · intro c hc
    exact scalarTypes_ofRegistry horderly.names hc
  · intro c hc name
    rw [Codec.adapter?_ofRegistry hc, service?_ofCalls]
  · intro name
    rw [find?_adaptersByName horderly.names, service?_ofCalls]

end Registry

end GraphClient
