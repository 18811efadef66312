import GraphClient.Entries
import Mathlib.Data.List.Basic
import Mathlib.Data.List.Induction

/-!
# What is left of entries that replace each other

Values are put under names one after the other, and a later value of a name takes the place of the
earlier one. What is left has each name once, in the order in which the names first came up, with the
value that came last; a value that was replaced leaves no trace. One pass over the entries that
replaces values in their places comes to the same.
-/

namespace GraphClient

variable {α β : Type}

/-! ### Orders of names -/

section Order

variable [DecidableEq α]

/-- A last element goes behind the others unless it is one of them. -/
theorem eraseDups_append_toList (l : List α) (o : Option α) :
    (l ++ o.toList).eraseDups = l.eraseDups ++ (o.filter (· ∉ l)).toList := by
  rw [List.eraseDups_append]
  cases o with
  | none => rfl
  | some a =>
    by_cases ha : a ∈ l
    · simp [ha, List.cons_removeAll]
    · simp [ha, List.cons_removeAll, List.eraseDups_cons, Option.filter_some]

theorem eraseDups_concat (l : List α) (a : α) :
    (l ++ [a]).eraseDups = if a ∈ l then l.eraseDups else l.eraseDups ++ [a] := by
  have h := eraseDups_append_toList l (some a)
  rw [Option.toList_some] at h
  rw [h]
  by_cases ha : a ∈ l <;> simp [ha, Option.filter_some]

theorem nodup_eraseDups (l : List α) : l.eraseDups.Nodup := by
  induction l using List.reverseRecOn with
  | nil => exact List.nodup_nil
  | append_singleton l a ih =>
    rw [eraseDups_concat]
    by_cases ha : a ∈ l
    · simpa [ha] using ih
    · have hnew : ∀ b ∈ l, ¬b = a := by
        rintro b hb rfl
        exact ha hb
      simpa [ha, List.nodup_append] using ⟨ih, hnew⟩

end Order

namespace Entries

/-- The value that stands under a name, of several the last. -/
def last? (name : String) : List (String × α) → Option α
  | [] => none
  | (n, v) :: rest => (last? name rest).or (if name = n then some v else none)

theorem last?_append (name : String) (before after : List (String × α)) :
    last? name (before ++ after) = (last? name after).or (last? name before) := by
  induction before with
  | nil => simp [last?]
  | cons p rest ih =>
    obtain ⟨n, v⟩ := p
    simp only [List.cons_append, last?, ih, Option.or_assoc]

theorem last?_concat (name key : String) (v : α) (pairs : List (String × α)) :
    last? name (pairs ++ [(key, v)]) = if name = key then some v else last? name pairs := by
  rw [last?_append]
  by_cases h : name = key <;> simp [last?, h]

theorem last?_eq_none_iff {name : String} {pairs : List (String × α)} :
    last? name pairs = none ↔ name ∉ pairs.map (·.1) := by
  induction pairs with
  | nil => simp [last?]
  | cons p rest ih =>
    obtain ⟨n, v⟩ := p
    simp [last?, ih]
    tauto

theorem last?_map (f : String → α → β) (name : String) (pairs : List (String × α)) :
    last? name (pairs.map fun p => (p.1, f p.1 p.2)) = (last? name pairs).map (f name) := by
  induction pairs with
  | nil => rfl
  | cons p rest ih =>
    obtain ⟨n, v⟩ := p
    rw [List.map_cons, last?, last?, ih]
    by_cases hn : name = n
    · subst hn
      cases last? name rest <;> simp
    · simp [hn]

theorem mem_of_last? {name : String} {v : α} {pairs : List (String × α)}
    (h : last? name pairs = some v) : (name, v) ∈ pairs := by
  induction pairs with
  | nil => cases h
  | cons p rest ih =>
    obtain ⟨n, w⟩ := p
    cases hrest : last? name rest with
    | some u =>
      obtain rfl : u = v := by simpa [last?, hrest] using h
      exact List.mem_cons_of_mem _ (ih hrest)
    | none =>
      by_cases hn : name = n
      · subst hn
        obtain rfl : w = v := by simpa [last?, hrest] using h
        exact List.mem_cons_self
      · simp [last?, hrest, hn] at h

/-- Where no name stands twice, the last value of a name is the only one. -/
theorem last?_of_mem {name : String} {v : α} {pairs : List (String × α)}
    (hnames : (pairs.map (·.1)).Nodup) (h : (name, v) ∈ pairs) : last? name pairs = some v := by
  induction pairs with
  | nil => cases h
  | cons p rest ih =>
    obtain ⟨n, w⟩ := p
    rw [List.map_cons, List.nodup_cons] at hnames
    rcases List.mem_cons.mp h with heq | h
    · obtain ⟨rfl, rfl⟩ := Prod.mk.inj heq
      simp [last?, last?_eq_none_iff.mpr hnames.1]
    · simp [last?, ih hnames.2 h]

/-- Then it is also the first one. -/
theorem find?_eq_last? {pairs : List (String × α)} (hnames : (pairs.map (·.1)).Nodup)
    (name : String) : (pairs.find? fun p => p.1 == name).map (·.2) = last? name pairs := by
  cases hf : pairs.find? fun p => p.1 == name with
  | none =>
    rw [List.find?_eq_none] at hf
    refine (last?_eq_none_iff.mpr ?_).symm
    intro hmem
    obtain ⟨p, hp, rfl⟩ := List.mem_map.mp hmem
    exact hf p hp (beq_self_eq_true _)
  | some p =>
    obtain rfl : p.1 = name := by simpa using List.find?_some hf
    exact (last?_of_mem hnames (List.mem_of_find?_eq_some hf)).symm

/-- What is found among entries that were put in one by one. -/
theorem find?_foldl_insert (name : String) (pairs : List (String × α)) (es : Entries α) :
    find? name (pairs.foldl (fun es p => insert p.1 p.2 es) es) =
      (last? name pairs).or (find? name es) := by
  induction pairs generalizing es with
  | nil => rfl
  | cons p rest ih =>
    obtain ⟨n, v⟩ := p
    rw [List.foldl_cons, ih, last?]
    by_cases hn : name = n
    · subst hn
      rw [find?_insert_self]
      cases last? name rest <;> simp
    · rw [find?_insert_of_ne v es hn]
      simp [hn]

theorem find?_ofList (name : String) (pairs : List (String × α)) :
    find? name (ofList pairs) = last? name pairs := by
  have h := find?_foldl_insert name pairs []
  rwa [find?_nil, Option.or_none] at h

/-- The names in the order in which they first stand, each with its last value. -/
def settled (pairs : List (String × α)) : List (String × α) :=
  (pairs.map (·.1)).eraseDups.filterMap fun name => (last? name pairs).map fun v => (name, v)

@[simp] theorem settled_nil : settled ([] : List (String × α)) = [] := rfl

theorem names_settled (pairs : List (String × α)) :
    (settled pairs).map (·.1) = (pairs.map (·.1)).eraseDups := by
  have hnamed : ∀ name ∈ (pairs.map (·.1)).eraseDups,
      ((last? name pairs).map fun v => (name, v)).map (·.1) = some name := by
    intro name hname
    rw [List.mem_eraseDups] at hname
    cases h : last? name pairs with
    | none => exact absurd hname (last?_eq_none_iff.mp h)
    | some v => rfl
  rw [settled, List.map_filterMap, List.filterMap_congr hnamed, List.filterMap_some]

theorem nodup_names_settled (pairs : List (String × α)) :
    ((settled pairs).map (·.1)).Nodup := by
  rw [names_settled]
  exact nodup_eraseDups _

theorem mem_settled_iff {name : String} {v : α} {pairs : List (String × α)} :
    (name, v) ∈ settled pairs ↔ last? name pairs = some v := by
  simp only [settled, List.mem_filterMap, List.mem_eraseDups, Option.map_eq_some_iff,
    Prod.mk.injEq]
  constructor
  · rintro ⟨n, -, w, h, rfl, rfl⟩
    exact h
  · intro h
    exact ⟨name, List.mem_map_of_mem (mem_of_last? h), v, h, rfl, rfl⟩

theorem last?_settled (name : String) (pairs : List (String × α)) :
    last? name (settled pairs) = last? name pairs := by
  cases h : last? name pairs with
  | none =>
    rw [last?_eq_none_iff] at h ⊢
    rwa [names_settled, List.mem_eraseDups]
  | some v => exact last?_of_mem (nodup_names_settled pairs) (mem_settled_iff.mpr h)

theorem settled_map (f : String → α → β) (pairs : List (String × α)) :
    settled (pairs.map fun p => (p.1, f p.1 p.2)) =
      (settled pairs).map fun p => (p.1, f p.1 p.2) := by
  simp only [settled, List.map_filterMap, List.map_map, Function.comp_def, last?_map,
    Option.map_map]

/-- One entry more: its value takes the place of the one of its name, or goes to the end. -/
theorem settled_concat (pairs : List (String × α)) (key : String) (v : α) :
    settled (pairs ++ [(key, v)]) =
      if key ∈ pairs.map (·.1) then
        (settled pairs).map fun p => (p.1, if p.1 = key then v else p.2)
      else settled pairs ++ [(key, v)] := by
  have hnames : (pairs ++ [(key, v)]).map (·.1) = pairs.map (·.1) ++ [key] := by simp
  rw [settled, settled, hnames, eraseDups_concat]
  by_cases hkey : key ∈ pairs.map (·.1)
  · rw [if_pos hkey, if_pos hkey, List.map_filterMap]
    apply List.filterMap_congr
    intro name hname
    rw [last?_concat]
    by_cases hn : name = key
    · cases hlast : last? name pairs with
      | none => exact absurd (hn ▸ hkey) (last?_eq_none_iff.mp hlast)
      | some w => simp [hn]
    · cases last? name pairs <;> simp [hn]
  · rw [if_neg hkey, if_neg hkey, List.filterMap_append]
    have hold : ∀ name ∈ (pairs.map (·.1)).eraseDups,
        ((last? name (pairs ++ [(key, v)])).map fun v => (name, v)) =
          (last? name pairs).map fun v => (name, v) := by
      intro name hname
      have hne : name ≠ key := by
        rintro rfl
        exact hkey (List.mem_eraseDups.mp hname)
      rw [last?_concat, if_neg hne]
    rw [List.filterMap_congr hold]
    simp [last?_concat]

/-- A value that is replaced later leaves no trace. -/
theorem settled_replaced (before after : List (String × α)) {key : String} (v w : α)
    (h : key ∈ after.map (·.1)) :
    settled (before ++ (key, v) :: after) = settled (before ++ (key, w) :: after) := by
  have hlast : ∀ name, last? name (before ++ (key, v) :: after) =
      last? name (before ++ (key, w) :: after) := by
    intro name
    simp only [last?_append, last?]
    by_cases hname : name = key
    · subst hname
      cases hafter : last? name after with
      | none => exact absurd h (last?_eq_none_iff.mp hafter)
      | some u => simp
    · simp [hname]
  rw [settled, settled]
  simp only [hlast, List.map_append, List.map_cons]

end Entries

end GraphClient
