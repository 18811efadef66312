import GraphClient.Reader.Reading
import Mathlib.Data.List.Forall2

/-!
# Readers that cannot be told apart

Two readers may stand at different values, or read with different codecs, and still answer alike
whatever they are asked of some sort of question. A relation of such readers that is kept on the way
to fields and elements is a bisimulation, and code that asks no other questions makes the same of
both, however its steps depend on the answers.
-/

namespace GraphClient

variable {ι : Type} [Domains ι] {α D : Type}
variable {Rel : Reader ι → Reader ι → Prop} {allowed : ∀ {α : Type}, Question ι α → Prop}

namespace Reader

/-- Both values are lists with their elements in relation, or neither is a list and the error is the
same. -/
inductive ListsAgree (Rel : Reader ι → Reader ι → Prop) :
    Except DecodeError (List (Reader ι)) → Except DecodeError (List (Reader ι)) → Prop where
  | elements {rs ss : List (Reader ι)} (h : List.Forall₂ Rel rs ss) :
    ListsAgree Rel (.ok rs) (.ok ss)
  | refused (why : DecodeError) : ListsAgree Rel (.error why) (.error why)

/-- Readers in relation give the same answers as far as questions are allowed, and lead to readers
in relation. -/
structure Bisimulation (Rel : Reader ι → Reader ι → Prop)
    (allowed : ∀ {α : Type}, Question ι α → Prop) : Prop where
  isNull : ∀ {r s}, Rel r s → r.isNull = s.isNull
  answer : ∀ {r s}, Rel r s → ∀ {α : Type} (q : Question ι α), allowed q → q.answer r = q.answer s
  field : ∀ {r s}, Rel r s → ∀ name, Rel (r.field name) (s.field name)
  list : ∀ {r s}, Rel r s → ListsAgree Rel r.list s.list

end Reader

structure Readers.Related (Rel : Reader ι → Reader ι → Prop) (rs ss : Readers ι) : Prop where
  root : Rel rs.root ss.root
  others : List.Forall₂ Rel rs.others ss.others

namespace Readers.Related

variable {rs ss : Readers ι}

theorem next (h : Related Rel rs ss) : rs.next = ss.next := by
  rw [Readers.next, Readers.next, h.others.length_eq]

theorem get (h : Related Rel rs ss) (i : Nat) : Rel (rs.get i) (ss.get i) := by
  cases i with
  | zero => exact h.root
  | succ i =>
    have hlength := h.others.length_eq
    simp only [Readers.get]
    by_cases hi : i < rs.others.length
    · rw [List.getElem?_eq_getElem hi, List.getElem?_eq_getElem (hlength ▸ hi)]
      exact h.others.get hi (hlength ▸ hi)
    · rw [List.getElem?_eq_none (Nat.le_of_not_lt hi),
        List.getElem?_eq_none (hlength ▸ Nat.le_of_not_lt hi)]
      exact h.root

theorem add (h : Related Rel rs ss) {more others : List (Reader ι)}
    (hmore : List.Forall₂ Rel more others) : Related Rel (rs.add more) (ss.add others) :=
  ⟨h.root, List.rel_append h.others hmore⟩

end Readers.Related

namespace Reading

open Reader

/-- Code that asks what is allowed comes to the same result with readers in relation, and gets
readers in relation on the way. The induction is on the code, for all readers that it may have got
before. -/
theorem run_related (sim : Bisimulation Rel allowed) {p : Reading ι D} (hp : p.Asks allowed)
    {rs ss : Readers ι} (h : rs.Related Rel ss) :
    (p.run rs).1 = (p.run ss).1 ∧ (p.run rs).2.Related Rel (p.run ss).2 := by
  induction p generalizing rs ss with
  | done result => exact ⟨rfl, h⟩
  | ask i q next ih =>
    obtain ⟨hq, hnext⟩ := hp
    have hanswer := sim.answer (h.get i) q hq
    simp only [run, hanswer]
    exact ih _ (hnext _) h
  | field i name next ih =>
    have hfield := sim.field (h.get i) name
    simp only [run, h.next]
    exact ih _ (hp _) (h.add (.cons hfield .nil))
  | list i next ih =>
    have hlist := sim.list (h.get i)
    simp only [run]
    generalize (rs.get i).list = l at hlist ⊢
    generalize (ss.get i).list = m at hlist ⊢
    cases hlist with
    | elements helements =>
      simp only [h.next, helements.length_eq]
      exact ih _ (hp _) (h.add helements)
    | refused why => exact ih _ (hp _) h
  | optional i read next ihread ihnext =>
    obtain ⟨hread, hnext⟩ := hp
    have hnull := sim.isNull (h.get i)
    obtain ⟨hresult, hafter⟩ := ihread hread h
    simp only [run, Reader.optional, hnull, hresult]
    split
    · exact ihnext _ (hnext _) h
    · exact ihnext _ (hnext _) hafter

theorem read_related (sim : Bisimulation Rel allowed) {p : Reading ι D} (hp : p.Asks allowed)
    {r s : Reader ι} (h : Rel r s) : p.read r = p.read s := by
  have hstart : Readers.Related Rel ⟨r, []⟩ ⟨s, []⟩ := ⟨h, .nil⟩
  exact (run_related sim hp hstart).1

end Reading

end GraphClient
