import GraphClient.Client.Minimal
import GraphClient.Proofs.Client.Building
import GraphClient.Reader
import GraphClient.Variables

/-!
# Which scalars a client serves

A client that was built has an adapter for every scalar that was declared, found by the scalar's
name. The domain type of the declaration is not compared with the one the adapter handles. A scalar
that was declared with one domain type and registered with another is not served, which shows only
when it is used.
-/

namespace GraphClient

theorem ScalarType.eq_of_name_of_domain {κ : Type} {s t : ScalarType κ} (hn : s.name = t.name)
    (hd : s.domain = t.domain) : s = t := by
  cases s
  cases t
  simp_all

variable {ι : Type} [Domains ι] {τ α : Type}

namespace DecodeError

/-- The fault is one of the codec's configuration, not of the value. -/
def blamesCodec : DecodeError → Bool
  | unknownScalar _ _ | scalarTypeMismatch _ _ _ => true
  | notAString _ _ _ | scalar _ _ _ | unexpectedType _ _ _ | missingField _ | json _ _ => false

end DecodeError

namespace Codec

/-- The scalar can be used with its own domain type: every value of that is written, and where
reading fails, it is because of what is read. -/
structure Serves (codec : Codec ι) (s : ScalarType ι) : Prop where
  encode : ∀ x : Domains.Carrier s.domain, ∃ v, codec.encodeScalar s s.domain x = .ok v
  encodeVariable : ∀ name (x : Domains.Carrier s.domain),
    ∃ v, VariableValue.encode codec name (.custom s s.domain x) = .ok v
  decode : ∀ v why, codec.decodeScalar s s.domain v = .error why → why.blamesCodec = false
  read : ∀ r : Reader ι, r.codec = codec → r.isNull = false → ∀ why,
    r.custom s s.domain = .error why → why.blamesCodec = false

/-- Every use of the scalar with its own domain type fails, because the codec's adapter handles
another one. -/
structure Refuses (codec : Codec ι) (s : ScalarType ι) (a : Adapter ι) : Prop where
  encode : ∀ x : Domains.Carrier s.domain, codec.encodeScalar s s.domain x =
    .error (.scalarTypeMismatch s.name s.name a.typeName s.typeName)
  encodeVariable : ∀ name (x : Domains.Carrier s.domain),
    VariableValue.encode codec name (.custom s s.domain x) =
      .error (.scalarTypeMismatch s.name name a.typeName s.typeName)
  decode : ∀ v, codec.decodeScalar s s.domain v =
    .error (.scalarTypeMismatch s.name a.typeName s.typeName)
  read : ∀ r : Reader ι, r.codec = codec → r.isNull = false →
    r.custom s s.domain = .error (.scalarTypeMismatch s.name a.typeName s.typeName)

theorem Refuses.not_serves {codec : Codec ι} {s : ScalarType ι} {a : Adapter ι}
    (h : codec.Refuses s a) : ¬codec.Serves s := by
  intro hs
  have hblame := hs.decode .null _ (h.decode .null)
  simp [DecodeError.blamesCodec] at hblame

theorem encodeScalarFor_of_domain {codec : Codec ι} {s : ScalarType ι} {a : Adapter ι}
    (ha : codec.adapter? s.name = some a) (hd : s.domain = a.domain)
    (x : Domains.Carrier s.domain) (name : String) :
    ∃ v, codec.encodeScalarFor s s.domain x name = .ok v := by
  unfold encodeScalarFor
  rw [ha]
  exact ⟨_, dif_pos hd⟩

theorem encodeScalarFor_of_other {codec : Codec ι} {s : ScalarType ι} {a : Adapter ι}
    (ha : codec.adapter? s.name = some a) (hd : s.domain ≠ a.domain)
    (x : Domains.Carrier s.domain) (name : String) :
    codec.encodeScalarFor s s.domain x name =
      .error (.scalarTypeMismatch s.name name a.typeName s.typeName) := by
  unfold encodeScalarFor
  rw [ha]
  exact dif_neg hd

theorem decodeScalarAt_of_domain {codec : Codec ι} {s : ScalarType ι} {a : Adapter ι}
    (ha : codec.adapter? s.name = some a) (hd : s.domain = a.domain) {v : Json} {path : String}
    {why : DecodeError} (h : codec.decodeScalarAt s s.domain v path = .error why) :
    why.blamesCodec = false := by
  unfold decodeScalarAt at h
  rw [ha] at h
  simp only [hd.symm, dite_true] at h
  split at h
  · split at h
    · cases h
    · obtain rfl := Except.error.inj h
      rfl
  · obtain rfl := Except.error.inj h
    rfl

theorem decodeScalarAt_of_other {codec : Codec ι} {s : ScalarType ι} {a : Adapter ι}
    (ha : codec.adapter? s.name = some a) (hd : s.domain ≠ a.domain) (v : Json) (path : String) :
    codec.decodeScalarAt s s.domain v path =
      .error (.scalarTypeMismatch s.name a.typeName s.typeName) := by
  unfold decodeScalarAt
  rw [ha]
  exact dif_neg (Ne.symm hd)

/-- A value that is not null is read by the codec of the reader. -/
theorem custom_of_not_null {r : Reader ι} (h : r.isNull = false) (s : ScalarType ι) (t : ι) :
    r.custom s t = r.codec.decodeScalarAt s t r.value r.path := by
  unfold Reader.custom
  rw [h]
  rfl

theorem serves_of_adapter {codec : Codec ι} {s : ScalarType ι} {a : Adapter ι}
    (ha : codec.adapter? s.name = some a) (hd : s.domain = a.domain) : codec.Serves s := by
  constructor
  · intro x
    exact encodeScalarFor_of_domain ha hd x s.name
  · intro name x
    rw [VariableValue.encode]
    exact encodeScalarFor_of_domain ha hd x name
  · intro v why h
    exact decodeScalarAt_of_domain ha hd h
  · rintro r rfl hr why h
    rw [custom_of_not_null hr] at h
    exact decodeScalarAt_of_domain ha hd h

theorem refuses_of_adapter {codec : Codec ι} {s : ScalarType ι} {a : Adapter ι}
    (ha : codec.adapter? s.name = some a) (hd : s.domain ≠ a.domain) : codec.Refuses s a := by
  constructor
  · intro x
    exact encodeScalarFor_of_other ha hd x s.name
  · intro name x
    rw [VariableValue.encode]
    exact encodeScalarFor_of_other ha hd x name
  · intro v
    exact decodeScalarAt_of_other ha hd v ""
  · rintro r rfl hr
    rw [custom_of_not_null hr]
    exact decodeScalarAt_of_other ha hd r.value r.path

end Codec

namespace History

theorem last?_eq_some {h : History ι τ} {get : Setting ι τ → Option α} {a : α}
    (hl : h.last? get = some a) : ∃ s ∈ h, get s = some a :=
  List.mem_filterMap.mp (List.mem_of_getLast? hl)

/-- A registration that fits comes up under its name. -/
theorem mem_entered_of_matching {h : History ι τ} {name : String} {r : ScalarType ι × Adapter ι}
    (hl : h.last? (Setting.matching? name) = some r) : name ∈ h.entered ∧ r.1.name = name := by
  obtain ⟨s, hs, hm⟩ := last?_eq_some hl
  cases s with
  | adapter scalar a =>
    rw [Setting.matching?_adapter] at hm
    split at hm
    · rename_i hfit
      obtain rfl := Option.some.inj hm
      refine ⟨?_, hfit.1⟩
      unfold entered
      rw [List.mem_eraseDups]
      exact List.mem_filterMap.mpr ⟨_, hs, by simp [Setting.entered?, hfit]⟩
    · cases hm
  | transport | endpoint | delivery | header | bearerToken | scalar => cases hm

/-- Of the scalars of a history the one of a name is found. -/
theorem find?_scalars (h : History ι τ) (name : String) :
    (h.scalars.find? fun p => p.1.name == name) = h.last? (Setting.matching? name) := by
  have hname : ∀ {n : String} {r : ScalarType ι × Adapter ι},
      h.last? (Setting.matching? n) = some r → r.1.name = n := fun hl =>
    (mem_entered_of_matching hl).2
  cases hl : h.last? (Setting.matching? name) with
  | none =>
    rw [List.find?_eq_none]
    intro r hr hrn
    obtain ⟨n, -, hn⟩ := List.mem_filterMap.mp hr
    have hsame : n = name := (hname hn).symm.trans (beq_iff_eq.mp hrn)
    rw [hsame, hl] at hn
    cases hn
  | some r =>
    have hmem : r ∈ h.scalars := List.mem_filterMap.mpr ⟨name, (mem_entered_of_matching hl).1, hl⟩
    cases hf : h.scalars.find? fun p => p.1.name == name with
    | none => exact absurd (beq_iff_eq.mpr (hname hl)) (List.find?_eq_none.mp hf r hmem)
    | some q =>
      obtain ⟨n, -, hn⟩ := List.mem_filterMap.mp (List.mem_of_find?_eq_some hf)
      have hq : q.1.name = name := by simpa using List.find?_some hf
      have hsame : n = name := (hname hn).symm.trans hq
      rw [hsame, hl] at hn
      exact hn.symm

/-- If the last registration under a name fits, it is the last that fits. -/
theorem matching_of_registration {h : History ι τ} {name : String}
    {r : ScalarType ι × Adapter ι} (hl : h.last? (Setting.registrationOf? name) = some r)
    (hfit : r.1.domain = r.2.domain) : h.last? (Setting.matching? name) = some r := by
  induction h using List.reverseRecOn with
  | nil => cases hl
  | append_singleton h s ih =>
    rw [last?_concat] at hl ⊢
    cases hs : s.registrationOf? name with
    | some q =>
      rw [hs, Option.some_or] at hl
      obtain rfl := Option.some.inj hl
      rw [Setting.matching?, hs, Option.filter_some, if_pos (decide_eq_true hfit), Option.some_or]
    | none =>
      rw [hs, Option.none_or] at hl
      rw [Setting.matching?, hs, Option.filter_none, Option.none_or, ih hl]

/-- Where no last registration is faulty, each of them fits. -/
theorem fits_of_no_mismatch {h : History ι τ} (hm : h.mismatched? = none) {name : String}
    {r : ScalarType ι × Adapter ι} (hl : h.last? (Setting.registrationOf? name) = some r) :
    r.1.domain = r.2.domain := by
  obtain ⟨s, hs, hreg⟩ := last?_eq_some hl
  obtain ⟨hr, hname⟩ := Option.filter_eq_some_iff.mp hreg
  have hmem : name ∈ h.registered := by
    unfold registered
    rw [List.mem_dedup, ← of_decide_eq_true hname]
    exact List.mem_map_of_mem (List.mem_filterMap.mpr ⟨s, hs, hr⟩)
  have hnone := List.findSome?_eq_none_iff.mp hm name hmem
  unfold mismatch? at hnone
  rw [hl] at hnone
  exact (r.1.mismatch?_eq_none_iff r.2).mp hnone

/-- Where no declared scalar is without service, each of them has a registration. -/
theorem registered_of_declared {h : History ι τ} (hu : h.unserved? = none) {s : ScalarType ι}
    (hs : .scalar s ∈ h) : ∃ r, h.last? (Setting.registrationOf? s.name) = some r := by
  have hmem : s.name ∈ h.filterMap Setting.declared? := List.mem_filterMap.mpr ⟨_, hs, rfl⟩
  have hserved := List.find?_eq_none.mp (Option.map_eq_none_iff.mp hu) s.name hmem
  cases hl : h.last? (Setting.registrationOf? s.name) with
  | some r => exact ⟨r, rfl⟩
  | none =>
    have hnone : h.last? (Setting.matching? s.name) = none := by
      rw [last?_eq_none_iff] at hl ⊢
      intro t ht
      rw [Setting.matching?, hl t ht]
      rfl
    simp [hnone] at hserved

/-- The adapter under the name of a declared scalar is that of the last registration under the name,
and this one fits. -/
theorem adapter_of_declared {h : History ι τ} {c : Client ι τ}
    (hc : (Builder.ofHistory h).build = .ok c) {s : ScalarType ι} (hs : .scalar s ∈ h) :
    ∃ r, h.last? (Setting.registrationOf? s.name) = some r ∧ r.1.domain = r.2.domain ∧
      c.codec.adapter? s.name = some r.2 := by
  -- a client was built, so the history has neither of the two faults of scalars
  have hfrozen := Builder.frozen_of_build hc
  have hm : h.mismatched? = none := by
    rw [← Builder.scalarFault_ofHistory, hfrozen.scalarFaults]
    rfl
  have hu : h.unserved? = none := by
    rw [← Builder.unserved?_ofHistory, ← Codec.error?_ofRegistry (Builder.nodup_ofHistory h),
      hfrozen.codec]
    rfl
  obtain ⟨r, hr⟩ := registered_of_declared hu hs
  have hfit := fits_of_no_mismatch hm hr
  refine ⟨r, hr, hfit, ?_⟩
  unfold Codec.adapter?
  rw [(Builder.describes_of_frozen hfrozen).codec, find?_scalars, matching_of_registration hr hfit]
  rfl

/-- A built client has an adapter for every scalar that was declared. It serves the scalar if the
last registration under the name was one of this scalar; if it was one of another scalar of the same
name, every use of the scalar fails. -/
theorem serves_iff {h : History ι τ} {c : Client ι τ} (hc : (Builder.ofHistory h).build = .ok c)
    {s : ScalarType ι} (hs : .scalar s ∈ h) :
    ∃ r, h.last? (Setting.registrationOf? s.name) = some r ∧ c.codec.supports s = true ∧
      (c.codec.Serves s ↔ r.1 = s) ∧ (r.1 ≠ s → c.codec.Refuses s r.2) := by
  obtain ⟨r, hr, hfit, ha⟩ := adapter_of_declared hc hs
  have hname : r.1.name = s.name := by
    obtain ⟨t, -, ht⟩ := last?_eq_some hr
    exact of_decide_eq_true (Option.filter_eq_some_iff.mp ht).2
  have hrefuses : r.1 ≠ s → c.codec.Refuses s r.2 := by
    intro hne
    apply Codec.refuses_of_adapter ha
    intro hd
    exact hne (ScalarType.eq_of_name_of_domain hname (hfit.trans hd.symm))
  refine ⟨r, hr, ?_, ⟨?_, ?_⟩, hrefuses⟩
  · unfold Codec.supports
    rw [ha]
    rfl
  · intro hserves
    by_contra hne
    exact (hrefuses hne).not_serves hserves
  · rintro rfl
    exact Codec.serves_of_adapter ha hfit

/-- An adapter of another scalar that was replaced does no harm. -/
theorem serves_iff_label :
    let s : ScalarType MixedDomain := ⟨"Label", .text⟩
    let h : History MixedDomain Unit := History.minimal ++
      [.scalar s, .adapter ⟨"Label", .truth⟩ ⟨.truth, .bool⟩, .adapter s ⟨.text, .text⟩]
    ∃ c, (Builder.ofHistory h).build = .ok c ∧ .scalar s ∈ h ∧ c.codec.Serves s := by
  intro s h
  have hs : .scalar s ∈ h := List.mem_append_right _ List.mem_cons_self
  refine ⟨_, rfl, hs, ?_⟩
  obtain ⟨r, hr, -, hserves, -⟩ := serves_iff (h := h) rfl hs
  obtain rfl : _ = r := Option.some.inj hr
  exact hserves.mpr rfl

/-- One that was not replaced takes the place of the declared scalar, and building does not notice. -/
theorem not_serves_declared :
    let s : ScalarType MixedDomain := ⟨"Label", .text⟩
    let h : History MixedDomain Unit := History.minimal ++
      [.scalar s, .adapter ⟨"Label", .truth⟩ ⟨.truth, .bool⟩]
    ∃ c, (Builder.ofHistory h).build = .ok c ∧ .scalar s ∈ h ∧
      c.codec.decodeScalar s .text (.string "a") =
        .error (.scalarTypeMismatch "Label" "truth" "text") ∧ ¬c.codec.Serves s := by
  intro s h
  have hs : .scalar s ∈ h := List.mem_append_right _ List.mem_cons_self
  refine ⟨_, rfl, hs, rfl, ?_⟩
  intro hserves
  have hblame := hserves.decode (.string "a") _ rfl
  cases hblame

end History

end GraphClient
