import GraphClient.Variables.Draft
import GraphClient.Proofs.Entries.Settled
import Mathlib.Data.Finset.Card
import Mathlib.Data.List.Nodup

/-!
# What a history of bindings leaves bound

Binding a name once more replaces its value in its place. The variables that a history makes are
therefore what is left of the history once its entries have replaced each other: each name once, in
the order in which the names first came up, with the value that was bound last. What was replaced
leaves no trace, in the variables and in the objects among them.
-/

namespace GraphClient

variable {ι : Type} [Domains ι]

namespace Draft

/-- What holds of the values without drafts inside, and of a list and of an object when it holds of
all that is in them, holds of every draft. -/
@[elab_as_elim, induction_eliminator]
theorem inside_out {motive : Draft ι → Prop} (leaf : ∀ l, motive (leaf l))
    (customs : ∀ scalar t xs, motive (customs scalar t xs))
    (list : ∀ items, (∀ d ∈ items, motive d) → motive (list items))
    (object : ∀ history, (∀ p ∈ history, motive p.2) → motive (object history)) (d : Draft ι) :
    motive d := by
  refine @Draft.rec ι _ motive (fun items => ∀ d ∈ items, motive d)
    (fun history => ∀ p ∈ history, motive p.2) (fun p => motive p.2) leaf customs list object
    ?_ ?_ ?_ ?_ ?_ d
  · simp
  · intro d rest hd hrest
    simpa using ⟨hd, hrest⟩
  · simp
  · intro p rest hp hrest
    rw [List.forall_mem_cons]
    exact ⟨hp, hrest⟩
  · intro name d hd
    exact hd

/-- Every way of binding a value adds what the value is made to. -/
theorem bindTo_eq (vs : Variables ι) (name : String) (d : Draft ι) :
    d.bindTo vs name = vs.add name d.make := by
  cases d with
  | leaf l => cases l <;> rfl
  | customs scalar t xs => rfl
  | list items => rfl
  | object history => rfl

theorem makeItems_eq_map (items : List (Draft ι)) : makeItems items = items.map make := by
  induction items with
  | nil => rfl
  | cons d rest ih => rw [makeItems, ih, List.map_cons]

theorem bindAll_append (vs : Variables ι) (before after : List (String × Draft ι)) :
    bindAll vs (before ++ after) = bindAll (bindAll vs before) after := by
  induction before generalizing vs with
  | nil => rfl
  | cons p rest ih =>
    obtain ⟨name, d⟩ := p
    exact ih (d.bindTo vs name)

end Draft

namespace Variables

theorem bind_of_mem {name : String} {bindings : List (String × VariableValue ι)}
    (hnames : (bindings.map (·.1)).Nodup) (x : VariableValue ι) (h : name ∈ bindings.map (·.1)) :
    bind name x bindings = bindings.map fun p => (p.1, if p.1 = name then x else p.2) := by
  induction bindings with
  | nil => cases h
  | cons p rest ih =>
    obtain ⟨n, y⟩ := p
    rw [List.map_cons, List.nodup_cons] at hnames
    by_cases hn : n = name
    · subst hn
      have hrest : rest.map (fun p => (p.1, if p.1 = n then x else p.2)) = rest := by
        refine (List.map_congr_left ?_).trans (List.map_id rest)
        intro p hp
        have hmem : p.1 ∈ rest.map (·.1) := List.mem_map_of_mem hp
        have hne : p.1 ≠ n := fun he => hnames.1 (he ▸ hmem)
        simp [hne]
      simp [bind, hrest]
    · have hmem : name ∈ rest.map (·.1) := by
        rw [List.map_cons, List.mem_cons] at h
        exact h.resolve_left fun he => hn he.symm
      simp [bind, hn, ih hnames.2 hmem]

theorem bind_of_notMem {name : String} {bindings : List (String × VariableValue ι)}
    (x : VariableValue ι) (h : name ∉ bindings.map (·.1)) :
    bind name x bindings = bindings ++ [(name, x)] := by
  induction bindings with
  | nil => rfl
  | cons p rest ih =>
    obtain ⟨n, y⟩ := p
    rw [List.map_cons, List.mem_cons, not_or] at h
    have hn : n ≠ name := fun he => h.1 he.symm
    simp [bind, hn, ih h.2]

/-- Binding one value more to a name settles the values so far with one more at their end. -/
theorem bind_settled (name : String) (x : VariableValue ι)
    (pairs : List (String × VariableValue ι)) :
    bind name x (Entries.settled pairs) = Entries.settled (pairs ++ [(name, x)]) := by
  have hmem : name ∈ (Entries.settled pairs).map (·.1) ↔ name ∈ pairs.map (·.1) := by
    rw [Entries.names_settled, List.mem_eraseDups]
  rw [Entries.settled_concat]
  by_cases h : name ∈ pairs.map (·.1)
  · rw [if_pos h, bind_of_mem (Entries.nodup_names_settled pairs) x (hmem.mpr h)]
  · rw [if_neg h, bind_of_notMem x fun hn => h (hmem.mp hn)]

theorem ofHistory_concat (h : List (String × Draft ι)) (name : String) (d : Draft ι) :
    ofHistory (h ++ [(name, d)]) = (ofHistory h).add name d.make := by
  rw [ofHistory, Draft.bindAll_append, ← ofHistory]
  exact d.bindTo_eq (ofHistory h) name

theorem bindings_ofHistory_eq (h : List (String × Draft ι)) :
    (ofHistory h).bindings = Entries.settled (h.map fun p => (p.1, p.2.make)) := by
  induction h using List.reverseRecOn with
  | nil => rfl
  | append_singleton h p ih =>
    obtain ⟨name, d⟩ := p
    rw [ofHistory_concat, add, ih, bind_settled, List.map_append]
    rfl

/-- The variables are what is left of the history. -/
theorem bindings_ofHistory (h : List (String × Draft ι)) :
    (ofHistory h).bindings = (Entries.settled h).map fun p => (p.1, p.2.make) := by
  rw [bindings_ofHistory_eq, Entries.settled_map fun _ => Draft.make]

theorem names_ofHistory (h : List (String × Draft ι)) :
    (ofHistory h).bindings.map (·.1) = (h.map (·.1)).eraseDups := by
  rw [bindings_ofHistory, List.map_map, ← Entries.names_settled]
  rfl

theorem nodup_names_ofHistory (h : List (String × Draft ι)) :
    ((ofHistory h).bindings.map (·.1)).Nodup := by
  rw [names_ofHistory]
  exact nodup_eraseDups _

/-- Under a name stands the value that was bound to it last. -/
theorem last?_bindings_ofHistory (h : List (String × Draft ι)) (name : String) :
    Entries.last? name (ofHistory h).bindings = (Entries.last? name h).map Draft.make := by
  rw [bindings_ofHistory, Entries.last?_map fun _ => Draft.make, Entries.last?_settled]

theorem get?_ofHistory (h : List (String × Draft ι)) (name : String) :
    (ofHistory h).get? name = (Entries.last? name h).map Draft.make := by
  rw [← last?_bindings_ofHistory]
  exact Entries.find?_eq_last? (nodup_names_ofHistory h) name

theorem size_ofHistory (h : List (String × Draft ι)) :
    (ofHistory h).size = (h.map (·.1)).toFinset.card := by
  have hsame : (h.map (·.1)).toFinset = (h.map (·.1)).eraseDups.toFinset := by
    ext name
    rw [List.mem_toFinset, List.mem_toFinset, List.mem_eraseDups]
  rw [hsame, List.toFinset_card_of_nodup (nodup_eraseDups _), ← names_ofHistory, List.length_map,
    size]

/-- A value that is replaced later has no effect. -/
theorem ofHistory_replaced (before after : List (String × Draft ι)) {name : String}
    (d e : Draft ι) (h : name ∈ after.map (·.1)) :
    ofHistory (before ++ (name, d) :: after) = ofHistory (before ++ (name, e) :: after) := by
  have hbindings : (ofHistory (before ++ (name, d) :: after)).bindings =
      (ofHistory (before ++ (name, e) :: after)).bindings := by
    rw [bindings_ofHistory, bindings_ofHistory, Entries.settled_replaced before after d e h]
  exact congrArg Variables.mk hbindings

end Variables

end GraphClient
