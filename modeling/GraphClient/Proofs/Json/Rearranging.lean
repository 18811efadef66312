import GraphClient.Proofs.Json.Canonical
import GraphClient.Proofs.Json.Records

/-!
# Members in another order

A record is read alike from objects whose members differ in nothing but their order. A value may be
kept as it is written, or as a tree in which the members of every object come in name order: in
both, the members stand for the same fields.
-/

namespace GraphClient

variable {σ ρ α : Type}

/-! ### Entries in another order -/

namespace Entries

theorem insert_perm {es : Entries α} {name : String} (value : α) (h : name ∉ es.map (·.1)) :
    (insert name value es).Perm ((name, value) :: es) := by
  induction es with
  | nil => exact .refl _
  | cons p rest ih =>
    obtain ⟨n, v⟩ := p
    rw [List.map_cons, List.mem_cons, not_or] at h
    unfold insert
    rw [if_neg h.1]
    split
    · exact .refl _
    · exact ((ih h.2).cons (n, v)).trans (.swap _ _ _)

theorem foldl_insert_perm {pairs : List (String × α)} {es : Entries α}
    (h : (es.map (·.1) ++ pairs.map (·.1)).Nodup) :
    (pairs.foldl (fun es (n, v) => insert n v es) es).Perm (es ++ pairs) := by
  induction pairs generalizing es with
  | nil => simp
  | cons p rest ih =>
    obtain ⟨n, v⟩ := p
    have hnew : n ∉ es.map (·.1) := by
      intro hn
      exact (List.nodup_append.mp h).2.2 n hn n (by simp) rfl
    have hinsert := insert_perm v hnew
    have hfront : (insert n v es ++ rest).Perm (es ++ (n, v) :: rest) :=
      (hinsert.append_right rest).trans List.perm_middle.symm
    have hnodup : ((insert n v es).map (·.1) ++ rest.map (·.1)).Nodup := by
      rw [← List.map_append]
      refine (hfront.map (·.1)).nodup_iff.mpr ?_
      rwa [List.map_append]
    exact (ih hnodup).trans hfront

/-- Where no name stands twice, entries are put in order and none is lost. -/
theorem ofList_perm {pairs : List (String × α)} (h : (pairs.map (·.1)).Nodup) :
    (ofList pairs).Perm pairs :=
  foldl_insert_perm h

end Entries

namespace Json

/-- Every value is written as one that differs from it in the order of members alone. -/
structure Rearranges (f : Json → Json) : Prop where
  null_iff : ∀ v, f v = null ↔ v = null
  number : ∀ n, f (number n) = number n
  string : ∀ s, f (string s) = string s
  array : ∀ items, f (array items) = array (items.map f)
  object : ∀ members : List (String × Json), (members.map (·.1)).Nodup →
    ∃ members', f (object members) = object members' ∧
      members'.Perm (members.map fun p => (p.1, f p.2))

theorem rearranges_id : Rearranges id where
  null_iff _ := Iff.rfl
  number _ := rfl
  string _ := rfl
  array items := by rw [List.map_id, id]
  object members _ := ⟨members, rfl, by simp⟩

theorem canonicalMembers_eq_map (members : List (String × Json)) :
    canonicalMembers members = members.map fun p => (p.1, p.2.canonical) := by
  induction members with
  | nil => rfl
  | cons p rest ih =>
    obtain ⟨name, v⟩ := p
    rw [canonicalMembers, ih, List.map_cons]

theorem rearranges_canonical : Rearranges canonical where
  null_iff v := by cases v <;> simp [canonical]
  number _ := rfl
  string _ := rfl
  array items := by rw [canonical, canonicalItems_eq_map]
  object members hnames := by
    refine ⟨_, rfl, ?_⟩
    rw [canonicalMembers_eq_map]
    apply Entries.ofList_perm
    simpa [Function.comp_def] using hnames

theorem Rearranges.ofNat {f : Json → Json} (hf : Rearranges f) (n : Nat)
    (h : n < 18446744073709551616) : f (.ofNat n h) = .ofNat n h :=
  hf.number _

theorem mem_iff_mem_under {name : String} {v : Json} {members : List (String × Json)} :
    (name, v) ∈ members ↔ v ∈ under name members := by
  simp [under]

theorem under_perm {members members' : List (String × Json)} (h : members.Perm members')
    (name : String) : (under name members).Perm (under name members') :=
  (h.filter _).map _

theorem under_map (f : Json → Json) (name : String) (members : List (String × Json)) :
    under name (members.map fun p => (p.1, f p.2)) = (under name members).map f := by
  simp [under, List.filter_map, Function.comp_def]

end Json

/-- A record is read alike from members in any order. -/
theorem Fields.ofMembers_perm (fs : Fields σ ρ) {members members' : List (String × Json)}
    (h : members.Perm members') (row : ρ) : fs.OfMembers members row ↔ fs.OfMembers members' row := by
  induction fs with
  | done => exact Iff.rfl
  | field name shape presence rest ih =>
    obtain ⟨a, row⟩ := row
    have hunder := Json.under_perm h name
    have hone : ∀ v, Json.under name members = [v] ↔ Json.under name members' = [v] := by
      intro v
      constructor
      · intro hv
        exact List.perm_singleton.mp (hv ▸ hunder.symm)
      · intro hv
        exact List.perm_singleton.mp (hv ▸ hunder)
    have hnone : Json.under name members = [] ↔ Json.under name members' = [] := by
      constructor
      · intro hv
        exact List.perm_nil.mp (hv ▸ hunder.symm)
      · intro hv
        exact List.perm_nil.mp (hv ▸ hunder)
    simp only [OfMembers, Json.HasOne, hone, hnone, ih]

namespace Shape

/-- A record is read from an object that has the members of a row, in any order. -/
theorem read_record_of_perm {name : String} {fs : Fields σ ρ} {build : ρ → α} (h : fs.names.Nodup)
    {members members' : List (String × Json)} (hperm : members'.Perm members) (row : ρ)
    (hrow : fs.OfMembers members row) :
    (record name fs build).read (.object members') = .ok (build row) := by
  rw [read_record_iff name build h]
  exact ⟨row, (fs.ofMembers_perm hperm row).mpr hrow, rfl⟩

end Shape

end GraphClient
