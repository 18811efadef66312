import GraphClient.Proofs.Client.Settings
import GraphClient.Proofs.Entries.Settled
import Mathlib.Data.List.Find

/-!
# What a history leaves in a builder

Each field of a builder holds what the history of its settings says of that field. The inductions
are on the history from its end: the last setting meets the builder that the others have left.
-/

namespace GraphClient

variable {ι : Type} [Domains ι] {τ α : Type}

/-! ### Orders of names -/

section Order

variable [DecidableEq α]

/-- The first element of a kind is found without repetitions too. -/
theorem find?_eraseDups (p : α → Bool) (l : List α) : l.eraseDups.find? p = l.find? p := by
  induction l using List.reverseRecOn with
  | nil => rfl
  | append_singleton l a ih =>
    rw [eraseDups_concat, List.find?_append]
    by_cases ha : a ∈ l
    · rw [if_pos ha, ih]
      cases hf : l.find? p with
      | some b => rfl
      | none =>
        have hp : p a = false := by simpa using List.find?_eq_none.mp hf a ha
        simp [hp]
    · rw [if_neg ha, List.find?_append, ih]

/-- A last element goes behind the others, and from the place it had. -/
theorem dedup_concat (l : List α) (a : α) : (l ++ [a]).dedup = l.dedup.filter (· ≠ a) ++ [a] := by
  induction l with
  | nil => rfl
  | cons b l ih =>
    rw [List.cons_append, List.dedup_cons, List.dedup_cons, ih]
    by_cases hb : b ∈ l
    · simp [hb]
    · by_cases hba : b = a
      · rw [hba] at hb ⊢
        simp [hb]
      · simp [hb, hba]

end Order

namespace History

theorem last?_concat (h : History ι τ) (s : Setting ι τ) (get : Setting ι τ → Option α) :
    History.last? (h ++ [s]) get = (get s).or (h.last? get) := by
  unfold last?
  rw [List.filterMap_append, List.getLast?_append]
  cases hs : get s with
  | none => simp [hs]
  | some a => simp [hs]

theorem last?_eq_none_iff (h : History ι τ) (get : Setting ι τ → Option α) :
    h.last? get = none ↔ ∀ s ∈ h, get s = none := by
  unfold last?
  rw [List.getLast?_eq_none_iff, List.filterMap_eq_nil_iff]

theorem entered_concat (h : History ι τ) (s : Setting ι τ) :
    History.entered (h ++ [s]) = h.entered ++ (s.entered?.filter (· ∉ h.entered)).toList := by
  have hs : [s].filterMap Setting.entered? = s.entered?.toList := by
    cases h : s.entered? <;> simp [h]
  have hmem : ∀ name, name ∈ h.filterMap Setting.entered? ↔ name ∈ h.entered := fun name =>
    List.mem_eraseDups.symm
  unfold entered at hmem ⊢
  rw [List.filterMap_append, hs, eraseDups_append_toList]
  simp only [hmem]

theorem nodup_entered (h : History ι τ) : h.entered.Nodup := nodup_eraseDups _

/-- A name that comes up in a history is declared in it or has a registration that fits. -/
theorem find?_entered (h : History ι τ) :
    (h.entered.find? fun name => (h.last? (Setting.matching? name)).isNone) =
      (h.filterMap Setting.declared?).find? fun name =>
        (h.last? (Setting.matching? name)).isNone := by
  -- the names come from a part that shrinks, while the registrations stay those of all of `h`
  have hpart : ∀ part : History ι τ, part ⊆ h →
      ((part.filterMap Setting.entered?).find? fun name =>
        (h.last? (Setting.matching? name)).isNone) =
      (part.filterMap Setting.declared?).find? fun name =>
        (h.last? (Setting.matching? name)).isNone := by
    intro part hsub
    induction part with
    | nil => rfl
    | cons s rest ih =>
      have hrest := ih fun t ht => hsub (List.mem_cons_of_mem s ht)
      cases s with
      | adapter scalar a =>
        by_cases hm : scalar.domain = a.domain
        · have hserved : h.last? (Setting.matching? scalar.name) ≠ none := by
            intro hnone
            have := (last?_eq_none_iff _ _).mp hnone _ (hsub List.mem_cons_self)
            simp [Setting.matching?_adapter, hm] at this
          simpa [Setting.entered?, Setting.declared?, hm, hserved] using hrest
        · simpa [Setting.entered?, Setting.declared?, hm] using hrest
      | scalar scalar =>
        simp only [Setting.entered?, Setting.declared?, List.filterMap_cons, List.find?_cons, hrest]
      | transport | endpoint | delivery | header | bearerToken => exact hrest
  unfold entered
  rw [find?_eraseDups]
  exact hpart h fun _ hs => hs

theorem registered_concat_of_none {h : History ι τ} {s : Setting ι τ}
    (hs : s.registration? = none) : History.registered (h ++ [s]) = h.registered := by
  simp [registered, hs]

theorem registered_concat_of_some {h : History ι τ} {s : Setting ι τ}
    {r : ScalarType ι × Adapter ι} (hs : s.registration? = some r) :
    History.registered (h ++ [s]) = h.registered.filter (· ≠ r.1.name) ++ [r.1.name] := by
  unfold registered
  rw [List.filterMap_append, List.map_append]
  simp only [List.filterMap_cons, hs, List.filterMap_nil, List.map_cons, List.map_nil]
  exact dedup_concat _ _

theorem mismatch?_concat (h : History ι τ) (s : Setting ι τ) (name : String) :
    History.mismatch? (h ++ [s]) name =
      match s.registrationOf? name with
      | some r => r.1.mismatch? r.2
      | none => h.mismatch? name := by
  unfold mismatch?
  rw [last?_concat]
  cases s.registrationOf? name <;> rfl

/-- The names whose last registration does not fit, each with what is wrong with it. -/
def faults (h : History ι τ) : List (String × ConfigurationError) :=
  h.registered.filterMap fun name => (h.mismatch? name).map fun why => (name, why)

theorem faults_concat_of_none {h : History ι τ} {s : Setting ι τ} (hs : s.registration? = none) :
    History.faults (h ++ [s]) = h.faults := by
  have hother : ∀ name, s.registrationOf? name = none := by
    intro name
    simp [Setting.registrationOf?, hs]
  unfold faults
  rw [registered_concat_of_none hs]
  simp only [mismatch?_concat, hother]

/-- Without those of one name, the faults are those of the other names. -/
theorem filter_faults (h : History ι τ) (name : String) :
    h.faults.filter (·.1 != name) =
      (h.registered.filter (· ≠ name)).filterMap fun n =>
        (h.mismatch? n).map fun why => (n, why) := by
  unfold faults
  rw [List.filter_filterMap, List.filterMap_filter]
  apply List.filterMap_congr
  intro n _
  cases h.mismatch? n <;> by_cases hn : n = name <;> simp [hn, Option.filter_some]

theorem faults_concat_of_some {h : History ι τ} {s : Setting ι τ} {r : ScalarType ι × Adapter ι}
    (hs : s.registration? = some r) :
    History.faults (h ++ [s]) =
      h.faults.filter (·.1 != r.1.name) ++
        ((r.1.mismatch? r.2).map fun why => (r.1.name, why)).toList := by
  have hof : ∀ name, s.registrationOf? name = if r.1.name = name then some r else none := by
    intro name
    simp [Setting.registrationOf?, hs, Option.filter_some]
  have hold : ∀ name ∈ h.registered.filter (· ≠ r.1.name),
      ((History.mismatch? (h ++ [s]) name).map fun why => (name, why)) =
        (h.mismatch? name).map fun why => (name, why) := by
    intro name hname
    have hne : r.1.name ≠ name := by
      rintro rfl
      simp at hname
    rw [mismatch?_concat, hof, if_neg hne]
  have hnew : History.mismatch? (h ++ [s]) r.1.name = r.1.mismatch? r.2 := by
    rw [mismatch?_concat, hof, if_pos rfl]
  rw [filter_faults]
  unfold faults
  rw [registered_concat_of_some hs, List.filterMap_append, List.filterMap_congr hold,
    List.filterMap_cons, hnew]
  cases r.1.mismatch? r.2 <;> rfl

end History

namespace Builder

theorem ofHistory_concat (h : History ι τ) (s : Setting ι τ) :
    ofHistory (h ++ [s]) = (ofHistory h).configure s := by
  simp [ofHistory, configureAll]

/-- A field that each setting overwrites or leaves as it is holds what the last setting that
overwrites it says. -/
theorem field_ofHistory (field : Builder ι τ → Option α) {get : Setting ι τ → Option α}
    (start : field empty = none)
    (step : ∀ b s, field (b.configure s) = (get s).or (field b)) (h : History ι τ) :
    field (ofHistory h) = h.last? get := by
  induction h using List.reverseRecOn with
  | nil => exact start
  | append_singleton h s ih => rw [ofHistory_concat, step, History.last?_concat, ih]

theorem transport_ofHistory (h : History ι τ) :
    (ofHistory h).transport = h.last? Setting.transport? :=
  field_ofHistory transport rfl (fun b s => (b.parts_configure s).1) h

theorem endpoint_ofHistory (h : History ι τ) :
    (ofHistory h).endpoint = h.last? Setting.endpoint? :=
  field_ofHistory endpoint rfl (fun b s => (b.parts_configure s).2.1) h

theorem delivery_ofHistory (h : History ι τ) :
    (ofHistory h).delivery = h.last? Setting.delivery? :=
  field_ofHistory delivery rfl (fun b s => (b.parts_configure s).2.2) h

theorem headers_ofHistory (h : History ι τ) (key : String) :
    (ofHistory h).headers.find? key = h.last? (Setting.headerValue? key) :=
  field_ofHistory (fun b => b.headers.find? key) rfl (fun b s => b.headers_configure s key) h

theorem service?_ofHistory (h : History ι τ) (name : String) :
    (ofHistory h).registry.service? name = h.last? (Setting.matching? name) :=
  field_ofHistory (fun b => b.registry.service? name) rfl
    (fun b s => b.service?_configure s name) h

theorem sorted_ofHistory (h : History ι τ) : Entries.Sorted (ofHistory h).headers.entries := by
  induction h using List.reverseRecOn with
  | nil => trivial
  | append_singleton h s ih =>
    rw [ofHistory_concat]
    exact sorted_configure s ih

/-- Of header faults the first one stays. -/
theorem headerFault_ofHistory (h : History ι τ) : (ofHistory h).headerFault = h.refusedHeader? := by
  induction h using List.reverseRecOn with
  | nil => rfl
  | append_singleton h s ih =>
    rw [ofHistory_concat, headerFault_configure, ih]
    unfold History.refusedHeader?
    rw [List.findSome?_append]
    cases hf : h.findSome? Setting.headerFault? with
    | some fault => simp
    | none => cases hs : s.headerFault? <;> simp [hs]

theorem names_ofHistory (h : History ι τ) : (ofHistory h).registry.names = h.entered := by
  induction h using List.reverseRecOn with
  | nil => rfl
  | append_singleton h s ih =>
    rw [ofHistory_concat, names_configure, ih, History.entered_concat]

/-- The faults of scalars are those of the last registrations, in the order of these. -/
theorem scalarFaults_ofHistory (h : History ι τ) : (ofHistory h).scalarFaults = h.faults := by
  induction h using List.reverseRecOn with
  | nil => rfl
  | append_singleton h s ih =>
    rw [ofHistory_concat]
    cases hs : s.registration? with
    | none => rw [scalarFaults_configure_of_none _ hs, ih, History.faults_concat_of_none hs]
    | some r =>
      rw [scalarFaults_configure_of_registration _ hs, ih, History.faults_concat_of_some hs]

end Builder

end GraphClient
