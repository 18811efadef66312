/-!
Lists of named values kept in name order, each name once. The order is that of the code points,
which is also the order of the UTF-8 bytes. A list in name order is determined by what is found in
it, and so does not tell in which order the values were put there.
-/

namespace GraphClient

/-- Named values, in name order when built by `Entries.insert`. -/
abbrev Entries (α : Type) := List (String × α)

namespace Entries

variable {α β : Type}

/-- Puts a value under a name; a value already there is replaced. -/
def insert (name : String) (value : α) : Entries α → Entries α
  | [] => [(name, value)]
  | (n, v) :: rest =>
    if name = n then (name, value) :: rest
    else if name < n then (name, value) :: (n, v) :: rest
    else (n, v) :: insert name value rest

def find? (name : String) : Entries α → Option α
  | [] => none
  | (n, v) :: rest => if name = n then some v else find? name rest

/-- Puts all pairs in turn, so that the last one of a name stays. -/
def ofList (pairs : List (String × α)) : Entries α :=
  pairs.foldl (fun es (n, v) => insert n v es) []

def contains (name : String) (es : Entries α) : Bool := (es.find? name).isSome

/-- Every name is smaller than all that follow it. -/
def Sorted : Entries α → Prop
  | [] => True
  | (n, _) :: rest => (∀ p ∈ rest, n < p.1) ∧ Sorted rest

@[simp] theorem find?_nil (name : String) : find? name ([] : Entries α) = none := rfl

/-- What was put under a name is found there. -/
theorem find?_insert_self (name : String) (value : α) (es : Entries α) :
    find? name (insert name value es) = some value := by
  induction es with
  | nil => simp [insert, find?]
  | cons p rest ih =>
    obtain ⟨n, v⟩ := p
    unfold insert
    split
    · simp [find?]
    · split
      · simp [find?]
      · rename_i hne _
        simp [find?, hne, ih]

/-- All other names are left as they are. -/
theorem find?_insert_of_ne {name other : String} (value : α) (es : Entries α) (h : other ≠ name) :
    find? other (insert name value es) = find? other es := by
  induction es with
  | nil => simp [insert, find?, h]
  | cons p rest ih =>
    obtain ⟨n, v⟩ := p
    unfold insert
    split
    · rename_i he
      subst he
      simp [find?, h]
    · split
      · simp [find?, h]
      · simp [find?, ih]

theorem mem_insert {p : String × α} {name : String} {value : α} {es : Entries α}
    (h : p ∈ insert name value es) : p = (name, value) ∨ p ∈ es := by
  induction es with
  | nil => simp [insert] at h; exact .inl h
  | cons q rest ih =>
    obtain ⟨n, v⟩ := q
    unfold insert at h
    split at h
    · simp only [List.mem_cons] at h ⊢
      rcases h with h | h
      · exact .inl h
      · exact .inr (.inr h)
    · split at h
      · simp only [List.mem_cons] at h ⊢
        rcases h with h | h | h
        · exact .inl h
        · exact .inr (.inl h)
        · exact .inr (.inr h)
      · simp only [List.mem_cons] at h ⊢
        rcases h with h | h
        · exact .inr (.inl h)
        · rcases ih h with h | h
          · exact .inl h
          · exact .inr (.inr h)

/-- The names stay in order. -/
theorem sorted_insert {es : Entries α} (name : String) (value : α) (h : Sorted es) :
    Sorted (insert name value es) := by
  induction es with
  | nil => simp [insert, Sorted]
  | cons q rest ih =>
    obtain ⟨n, v⟩ := q
    obtain ⟨hn, hr⟩ := h
    unfold insert
    split
    · rename_i he
      subst he
      exact ⟨hn, hr⟩
    · split
      · rename_i hlt
        refine ⟨?_, hn, hr⟩
        intro p hp
        simp only [List.mem_cons] at hp
        rcases hp with hp | hp
        · subst hp; exact hlt
        · exact String.lt_trans hlt (hn p hp)
      · rename_i hne hge
        refine ⟨?_, ih hr⟩
        intro p hp
        rcases mem_insert hp with hp | hp
        · subst hp
          exact Std.lt_of_le_of_ne (String.not_lt.1 hge) (fun e => hne e.symm)
        · exact hn p hp

theorem mem_of_find? {name : String} {value : α} {es : Entries α} (h : find? name es = some value) :
    (name, value) ∈ es := by
  induction es with
  | nil => cases h
  | cons p rest ih =>
    obtain ⟨n, v⟩ := p
    unfold find? at h
    split at h
    · rename_i he
      rw [he, Option.some.inj h]
      exact List.mem_cons_self
    · exact List.mem_cons_of_mem _ (ih h)

/-- Nothing is found before the first name. -/
theorem find?_eq_none_of_forall_lt {name : String} {es : Entries α} (h : ∀ p ∈ es, name < p.1) :
    find? name es = none := by
  cases hf : find? name es with
  | none => rfl
  | some value => exact absurd (h _ (mem_of_find? hf)) (String.lt_irrefl name)

/-- The first name of a sorted list is not smaller than one that is found in it. -/
theorem Sorted.not_lt_head {name other : String} {value found : α} {rest : Entries α}
    (hs : Sorted ((other, value) :: rest))
    (h : find? name ((other, value) :: rest) = some found) : ¬name < other := by
  intro hlt
  have hnone : find? name ((other, value) :: rest) = none := by
    apply find?_eq_none_of_forall_lt
    intro p hp
    rcases List.mem_cons.mp hp with rfl | hp
    · exact hlt
    · exact String.lt_trans hlt (hs.1 p hp)
  rw [hnone] at h
  cases h

/-- Entries in order are the same if the same is found in them. -/
theorem eq_of_find?_eq {es fs : Entries α} (hes : Sorted es) (hfs : Sorted fs)
    (h : ∀ name, find? name es = find? name fs) : es = fs := by
  induction es generalizing fs with
  | nil =>
    cases fs with
    | nil => rfl
    | cons q fs =>
      have hq := h q.1
      simp [find?] at hq
  | cons p es ih =>
    obtain ⟨n, v⟩ := p
    cases fs with
    | nil =>
      have hn := h n
      simp [find?] at hn
    | cons q fs =>
      obtain ⟨m, w⟩ := q
      have hnm : n = m := by
        have hv : find? n ((n, v) :: es) = some v := by simp [find?]
        have hw : find? m ((m, w) :: fs) = some w := by simp [find?]
        have hn := hfs.not_lt_head ((h n).symm.trans hv)
        have hm := hes.not_lt_head ((h m).trans hw)
        exact String.le_antisymm (String.not_lt.1 hm) (String.not_lt.1 hn)
      subst hnm
      have hvw : v = w := by simpa [find?] using h n
      subst hvw
      have hrest : ∀ name, find? name es = find? name fs := by
        intro name
        by_cases hname : name = n
        · rw [hname, find?_eq_none_of_forall_lt hes.1, find?_eq_none_of_forall_lt hfs.1]
        · simpa [find?, hname] using h name
      rw [ih hes.2 hfs.2 hrest]

end Entries

end GraphClient
