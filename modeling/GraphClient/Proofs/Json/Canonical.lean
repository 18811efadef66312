import GraphClient.Json.Basic

/-!
# Values in canonical form

An object whose members stand in name order, each name once, is made of the same members again when
they are put in one by one. A canonical value is therefore its own canonical form, and the members
of a canonical form are the canonical forms of the members.
-/

namespace GraphClient

namespace Entries

variable {α : Type}

/-- A name behind all others is put at the end. -/
theorem insert_of_forall_lt {es : Entries α} {name : String} (value : α)
    (h : ∀ p ∈ es, p.1 < name) : insert name value es = es ++ [(name, value)] := by
  induction es with
  | nil => rfl
  | cons p rest ih =>
    obtain ⟨n, v⟩ := p
    have hn : n < name := h (n, v) List.mem_cons_self
    have hne : name ≠ n := by
      rintro rfl
      exact String.lt_irrefl _ hn
    have hge : ¬name < n := String.lt_asymm hn
    have hrest := ih fun p hp => h p (List.mem_cons_of_mem _ hp)
    rw [insert, if_neg hne, if_neg hge, hrest, List.cons_append]

/-- Entries in order stay as they are when they are put in one by one. -/
theorem foldl_insert_of_sorted {front : Entries α} {es : Entries α} (hsorted : Sorted es)
    (hfront : ∀ p ∈ front, ∀ q ∈ es, p.1 < q.1) :
    es.foldl (fun es (n, v) => insert n v es) front = front ++ es := by
  induction es generalizing front with
  | nil => simp
  | cons p rest ih =>
    obtain ⟨n, v⟩ := p
    obtain ⟨hlt, hrest⟩ := hsorted
    have hinsert : insert n v front = front ++ [(n, v)] :=
      insert_of_forall_lt v fun p hp => hfront p hp (n, v) List.mem_cons_self
    have hnext : ∀ p ∈ front ++ [(n, v)], ∀ q ∈ rest, p.1 < q.1 := by
      intro p hp q hq
      rcases List.mem_append.1 hp with hp | hp
      · exact hfront p hp q (List.mem_cons_of_mem _ hq)
      · obtain rfl := List.mem_singleton.1 hp
        exact hlt q hq
    simp only [List.foldl_cons, hinsert]
    rw [ih hrest hnext, List.append_assoc, List.singleton_append]

theorem ofList_of_sorted {es : Entries α} (hsorted : Sorted es) : ofList es = es :=
  foldl_insert_of_sorted hsorted fun p hp => by cases hp

end Entries

namespace Json

mutual

/-- A canonical value is its own canonical form. -/
theorem canonical_of_isCanonical (v : Json) (hv : v.IsCanonical) : v.canonical = v := by
  cases v with
  | null => rfl
  | bool b => rfl
  | number n => rfl
  | string s => rfl
  | array items => rw [canonical, canonicalItems_of_areCanonical items hv]
  | object members =>
    rw [canonical, canonicalMembers_of_hasCanonicalMembers members hv.2,
      Entries.ofList_of_sorted hv.1]

theorem canonicalItems_of_areCanonical (items : List Json) (hitems : AreCanonical items) :
    canonicalItems items = items := by
  cases items with
  | nil => rfl
  | cons v rest =>
    rw [canonicalItems, canonical_of_isCanonical v hitems.1,
      canonicalItems_of_areCanonical rest hitems.2]

theorem canonicalMembers_of_hasCanonicalMembers (members : List (String × Json))
    (hmembers : HasCanonicalMembers members) : canonicalMembers members = members := by
  cases members with
  | nil => rfl
  | cons p rest =>
    obtain ⟨name, v⟩ := p
    rw [canonicalMembers, canonical_of_isCanonical v hmembers.1,
      canonicalMembers_of_hasCanonicalMembers rest hmembers.2]

end

theorem canonicalItems_eq_map (items : List Json) : canonicalItems items = items.map canonical := by
  induction items with
  | nil => rfl
  | cons v rest ih => rw [canonicalItems, ih, List.map_cons]

/-- Canonical forms stand under the names that their values stand under. -/
theorem mem_canonicalMembers {p : String × Json} {members : List (String × Json)}
    (hp : p ∈ canonicalMembers members) : ∃ v, (p.1, v) ∈ members := by
  induction members with
  | nil => cases hp
  | cons q rest ih =>
    obtain ⟨name, v⟩ := q
    rcases List.mem_cons.1 hp with rfl | hp
    · exact ⟨v, List.mem_cons_self⟩
    · obtain ⟨w, hw⟩ := ih hp
      exact ⟨w, List.mem_cons_of_mem _ hw⟩

theorem sorted_canonicalMembers {members : List (String × Json)}
    (hsorted : Entries.Sorted members) : Entries.Sorted (canonicalMembers members) := by
  induction members with
  | nil => trivial
  | cons q rest ih =>
    obtain ⟨name, v⟩ := q
    refine ⟨?_, ih hsorted.2⟩
    intro p hp
    obtain ⟨w, hw⟩ := mem_canonicalMembers hp
    exact hsorted.1 (p.1, w) hw

theorem find?_canonicalMembers (name : String) (members : List (String × Json)) :
    Entries.find? name (canonicalMembers members) =
      (Entries.find? name members).map canonical := by
  induction members with
  | nil => rfl
  | cons q rest ih =>
    obtain ⟨n, v⟩ := q
    by_cases hn : name = n
    · simp only [canonicalMembers, Entries.find?, hn, if_true, Option.map_some]
    · simp only [canonicalMembers, Entries.find?, hn, if_false, ih]

/-- A member of an object in order, once the object is in canonical form. -/
theorem member_canonical {members : List (String × Json)} (hsorted : Entries.Sorted members)
    {name : String} {v : Json} (hv : Entries.find? name members = some v) :
    (object members).canonical.member name = v.canonical := by
  rw [canonical, Entries.ofList_of_sorted (sorted_canonicalMembers hsorted), member,
    find?_canonicalMembers, hv]
  rfl

theorem canonicalMembers_append (front back : List (String × Json)) :
    canonicalMembers (front ++ back) = canonicalMembers front ++ canonicalMembers back := by
  induction front with
  | nil => rfl
  | cons p rest ih =>
    obtain ⟨n, v⟩ := p
    simp only [List.cons_append, canonicalMembers, ih]

/-- The member at the end counts, whatever stands in front of it. -/
theorem member_canonical_append (front : List (String × Json)) (name : String) (v : Json) :
    (object (front ++ [(name, v)])).canonical.member name = v.canonical := by
  have hlast : Entries.ofList (canonicalMembers front ++ [(name, v.canonical)]) =
      Entries.insert name v.canonical (Entries.ofList (canonicalMembers front)) := by
    simp [Entries.ofList]
  rw [canonical, canonicalMembers_append, canonicalMembers, canonicalMembers, hlast, member,
    Entries.find?_insert_self]
  rfl

end Json

end GraphClient
