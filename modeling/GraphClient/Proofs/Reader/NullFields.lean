import GraphClient.Client.Minimal
import GraphClient.Proofs.Reader.Simulation

/-!
# Null fields and absent fields

A reader at a field that is absent stands at null, as one at a field that is null does. Two values
are similar when null fields are all they differ by, wherever these are; so they are when nothing
is left to tell them apart once all null fields are taken out. Only code that asks for a value as a
whole can tell similar values apart.
-/

namespace GraphClient

namespace Json

mutual

/-- The values differ by nothing but null fields that only one of them has, at any depth. -/
inductive Similar : Json → Json → Prop where
  | null : Similar null null
  | bool (b : Bool) : Similar (bool b) (bool b)
  | number (n : JsonNumber) : Similar (number n) (number n)
  | string (s : String) : Similar (string s) (string s)
  | array {items items' : List Json} (h : SimilarItems items items') :
    Similar (array items) (array items')
  | object {members members' : List (String × Json)} (h : SimilarMembers members members') :
    Similar (object members) (object members')

/-- The items correspond one to one, those that are null among them. -/
inductive SimilarItems : List Json → List Json → Prop where
  | nil : SimilarItems [] []
  | cons {v w : Json} {rest rest' : List Json} (h : Similar v w) (ht : SimilarItems rest rest') :
    SimilarItems (v :: rest) (w :: rest')

inductive SimilarMembers : List (String × Json) → List (String × Json) → Prop where
  | nil : SimilarMembers [] []
  | both {v w : Json} {rest rest' : List (String × Json)} (name : String) (h : Similar v w)
    (ht : SimilarMembers rest rest') : SimilarMembers ((name, v) :: rest) ((name, w) :: rest')
  | left {rest members : List (String × Json)} (name : String) (ht : SimilarMembers rest members) :
    SimilarMembers ((name, .null) :: rest) members
  | right {members rest : List (String × Json)} (name : String)
    (ht : SimilarMembers members rest) : SimilarMembers members ((name, .null) :: rest)

end

mutual

def prune : Json → Json
  | array items => array (pruneItems items)
  | object members => object (pruneMembers members)
  | v => v

def pruneItems : List Json → List Json
  | [] => []
  | v :: rest => prune v :: pruneItems rest

def pruneMembers : List (String × Json) → List (String × Json)
  | [] => []
  | (_, null) :: rest => pruneMembers rest
  | (name, v) :: rest => (name, prune v) :: pruneMembers rest

end

@[simp] theorem pruneMembers_null (name : String) (rest : List (String × Json)) :
    pruneMembers ((name, null) :: rest) = pruneMembers rest := rfl

theorem pruneMembers_of_ne_null {v : Json} (hv : v ≠ null) (name : String)
    (rest : List (String × Json)) :
    pruneMembers ((name, v) :: rest) = (name, prune v) :: pruneMembers rest := by
  cases v with
  | null => exact absurd rfl hv
  | bool | number | string | array | object => rfl

theorem Similar.null_iff {v w : Json} (h : Similar v w) :
    v = Json.null ↔ w = Json.null := by
  cases h <;> simp

mutual

theorem Similar.prune_eq {v w : Json} : Similar v w → v.prune = w.prune
  | .null | .bool _ | .number _ | .string _ => rfl
  | .array h => congrArg Json.array h.pruneItems_eq
  | .object h => congrArg Json.object h.pruneMembers_eq

theorem SimilarItems.pruneItems_eq {items items' : List Json} :
    SimilarItems items items' → pruneItems items = pruneItems items'
  | .nil => rfl
  | .cons h ht => by rw [pruneItems, pruneItems, h.prune_eq, ht.pruneItems_eq]

theorem SimilarMembers.pruneMembers_eq {members members' : List (String × Json)} :
    SimilarMembers members members' → pruneMembers members = pruneMembers members'
  | .nil => rfl
  | .both (v := v) name h ht => by
    by_cases hv : v = .null
    · obtain rfl := h.null_iff.mp hv
      rw [hv, pruneMembers_null, pruneMembers_null, ht.pruneMembers_eq]
    · rw [pruneMembers_of_ne_null hv, pruneMembers_of_ne_null (mt h.null_iff.mpr hv), h.prune_eq,
        ht.pruneMembers_eq]
  | .left _ ht => ht.pruneMembers_eq
  | .right _ ht => ht.pruneMembers_eq

end

mutual

theorem similar_of_prune_eq (v w : Json) (h : v.prune = w.prune) : Similar v w := by
  cases v with
  | null => cases w <;> simp_all [prune, Similar.null]
  | bool b => cases w <;> simp_all [prune, Similar.bool]
  | number n => cases w <;> simp_all [prune, Similar.number]
  | string s => cases w <;> simp_all [prune, Similar.string]
  | array items =>
    cases w with
    | array items' =>
      exact .array (similarItems_of_pruneItems_eq items items' (by simpa [prune] using h))
    | null | bool | number | string | object => simp [prune] at h
  | object members =>
    cases w with
    | object members' =>
      exact .object (similarMembers_of_pruneMembers_eq members members' (by simpa [prune] using h))
    | null | bool | number | string | array => simp [prune] at h
termination_by sizeOf v + sizeOf w

theorem similarItems_of_pruneItems_eq (items items' : List Json)
    (h : pruneItems items = pruneItems items') : SimilarItems items items' := by
  match items, items', h with
  | [], [], _ => exact .nil
  | v :: rest, w :: rest', h =>
    obtain ⟨hv, hrest⟩ := List.cons.inj h
    exact .cons (similar_of_prune_eq v w hv) (similarItems_of_pruneItems_eq rest rest' hrest)
termination_by sizeOf items + sizeOf items'

/-- Null fields in front are passed over, first those on the left, then those on the right. -/
theorem similarMembers_of_pruneMembers_eq (members members' : List (String × Json))
    (h : pruneMembers members = pruneMembers members') : SimilarMembers members members' := by
  match members, members', h with
  | [], [], _ => exact .nil
  | [], (name, w) :: rest, h =>
    by_cases hw : w = .null
    · subst hw
      exact .right name (similarMembers_of_pruneMembers_eq [] rest h)
    · simp [pruneMembers, pruneMembers_of_ne_null hw] at h
  | (name, v) :: rest, members', h =>
    by_cases hv : v = .null
    · subst hv
      exact .left name (similarMembers_of_pruneMembers_eq rest members' h)
    · match members', h with
      | [], h => simp [pruneMembers, pruneMembers_of_ne_null hv] at h
      | (name', w) :: rest', h =>
        by_cases hw : w = .null
        · subst hw
          exact .right name' (similarMembers_of_pruneMembers_eq ((name, v) :: rest) rest' h)
        · rw [pruneMembers_of_ne_null hv, pruneMembers_of_ne_null hw] at h
          obtain ⟨hhead, hrest⟩ := List.cons.inj h
          obtain ⟨rfl, hvw⟩ := Prod.mk.inj hhead
          exact .both name (similar_of_prune_eq v w hvw)
            (similarMembers_of_pruneMembers_eq rest rest' hrest)
termination_by sizeOf members + sizeOf members'

end

theorem similar_iff (v w : Json) : Similar v w ↔ v.prune = w.prune :=
  ⟨Similar.prune_eq, similar_of_prune_eq v w⟩

instance (v w : Json) : Decidable (Similar v w) := decidable_of_iff' _ (similar_iff v w)

theorem Similar.kind_eq {v w : Json} (h : Similar v w) : v.kind = w.kind := by
  cases h <;> rfl

theorem Similar.isNull_eq {v w : Json} (h : Similar v w) : v.isNull = w.isNull := by
  cases h <;> rfl

theorem isCanonical_of_mem {members : List (String × Json)} (h : HasCanonicalMembers members)
    {p : String × Json} (hp : p ∈ members) : p.2.IsCanonical := by
  induction members with
  | nil => cases hp
  | cons q rest ih =>
    obtain ⟨hq, hrest⟩ := h
    rcases List.mem_cons.mp hp with rfl | hp
    · exact hq
    · exact ih hrest hp

theorem IsCanonical.member {v : Json} (h : v.IsCanonical) (name : String) :
    (v.member name).IsCanonical := by
  cases v with
  | object members =>
    obtain ⟨-, hmembers⟩ := h
    simp only [Json.member]
    cases hf : Entries.find? name members with
    | none => trivial
    | some w => exact isCanonical_of_mem hmembers (Entries.mem_of_find? hf)
  | null | bool | number | string | array => trivial

/-- Of a name that stands once, taking out null fields leaves what a reader finds under it. -/
theorem find?_pruneMembers {members : List (String × Json)} (hsorted : Entries.Sorted members)
    (name : String) :
    (Entries.find? name (pruneMembers members)).getD null =
      ((Entries.find? name members).getD null).prune := by
  induction members with
  | nil => rfl
  | cons p rest ih =>
    obtain ⟨n, v⟩ := p
    obtain ⟨hlt, hrest⟩ := hsorted
    by_cases hv : v = null
    · subst hv
      rw [pruneMembers_null, ih hrest]
      by_cases hn : name = n
      · subst hn
        simp [Entries.find?, Entries.find?_eq_none_of_forall_lt hlt]
      · simp [Entries.find?, hn]
    · rw [pruneMembers_of_ne_null hv]
      by_cases hn : name = n
      · simp [Entries.find?, hn]
      · simpa [Entries.find?, hn] using ih hrest

theorem member_prune {v : Json} (h : v.IsCanonical) (name : String) :
    v.prune.member name = (v.member name).prune := by
  cases v with
  | object members => exact find?_pruneMembers h.1 name
  | null | bool | number | string | array => rfl

/-- Whether a field is absent or null, what is found under its name is similar. -/
theorem Similar.member {v w : Json} (h : Similar v w) (hv : v.IsCanonical) (hw : w.IsCanonical)
    (name : String) : Similar (v.member name) (w.member name) := by
  rw [similar_iff] at h ⊢
  rw [← member_prune hv, ← member_prune hw, h]

end Json

variable {ι : Type} [Domains ι] {α D : Type}

/-- The question is answered by the value itself, whatever stands below it. -/
def Question.IsShallow : Question ι α → Prop
  | value | deserialize _ => False
  | _ => True

namespace Reader

structure Alike (r s : Reader ι) : Prop where
  codec : r.codec = s.codec
  path : r.path = s.path
  left : r.value.IsCanonical
  right : s.value.IsCanonical
  similar : r.value.Similar s.value

namespace Alike

variable {r s : Reader ι}

theorem unexpected_eq (h : Alike r s) (expected : String) :
    r.unexpected expected = s.unexpected expected := by
  unfold unexpected isNull
  rw [h.path, h.similar.isNull_eq, h.similar.kind_eq]

/-- A leaf that is similar to another is equal to it, and errors name the sort of value alone. -/
theorem answer_eq (h : Alike r s) (q : Question ι α) (hq : q.IsShallow) :
    q.answer r = q.answer s := by
  have herror := h.unexpected_eq
  obtain ⟨codec, v, path⟩ := r
  obtain ⟨codec', w, path'⟩ := s
  obtain ⟨rfl, rfl, hv, hw, hsimilar⟩ := h
  cases hsimilar with
  | null | bool | number | string => rfl
  | array | object =>
    cases q with
    | value | deserialize => exact hq.elim
    | isNull | path | custom => rfl
    | string => exact congrArg Except.error (herror "string")
    | int64 => exact congrArg Except.error (herror "integer")
    | float => exact congrArg Except.error (herror "number")
    | bool => exact congrArg Except.error (herror "boolean")

theorem field (h : Alike r s) (name : String) : Alike (r.field name) (s.field name) where
  codec := h.codec
  path := congrArg (fieldPath · name) h.path
  left := h.left.member name
  right := h.right.member name
  similar := h.similar.member h.left h.right name

theorem elements (h : Alike r s) {items items' : List Json} (i : Nat)
    (hitems : Json.AreCanonical items) (hitems' : Json.AreCanonical items') :
    Json.SimilarItems items items' →
      List.Forall₂ Alike (r.elements i items) (s.elements i items')
  | .nil => .nil
  | .cons hv ht =>
    .cons ⟨h.codec, congrArg (elementPath · i) h.path, hitems.1, hitems'.1, hv⟩
      (h.elements (i + 1) hitems.2 hitems'.2 ht)

theorem list (h : Alike r s) : ListsAgree Alike r.list s.list := by
  have herror := h.unexpected_eq "list"
  obtain ⟨codec, v, path⟩ := r
  obtain ⟨codec', w, path'⟩ := s
  have h' := h
  obtain ⟨rfl, rfl, hv, hw, hsimilar⟩ := h
  cases hsimilar with
  | array hitems => exact .elements (h'.elements 0 hv hw hitems)
  | null | bool | number | string | object =>
    simp only [Reader.list, herror]
    exact .refused _

end Alike

theorem alike_bisimulation : Bisimulation (Alike (ι := ι)) Question.IsShallow where
  isNull h := h.similar.isNull_eq
  answer h := h.answer_eq
  field h name := h.field name
  list h := h.list

end Reader

/-- Code that asks for no value as a whole gives the same result, or the same error with the same
path, on values that differ by null fields alone, with every codec and from every place on. -/
theorem Reading.read_similar (codec : Codec ι) {v w : Json} (hv : v.IsCanonical)
    (hw : w.IsCanonical) (h : v.Similar w) {p : Reading ι D} (hp : p.Asks Question.IsShallow)
    (path : String) : p.read ⟨codec, v, path⟩ = p.read ⟨codec, w, path⟩ :=
  p.read_related Reader.alike_bisimulation hp ⟨rfl, rfl, hv, hw, h⟩

def Reading.firstName : Reading TextDomain String :=
  .field 0 "users" fun i => .list i fun
    | .ok (j :: _) => .field j "name" fun k => .ask k .string .done
    | .ok [] => .done (.ok "nobody")
    | .error why => .done (.error why)

theorem Reading.asks_firstName : firstName.Asks Question.IsShallow := by
  intro i answer
  match answer with
  | .ok (j :: _) => exact fun k => ⟨trivial, fun _ => trivial⟩
  | .ok [] | .error _ => trivial

/-- A name that is null is missing, and under the same path it is when the field is left out. -/
theorem Reading.read_similar_absent :
    let v : Json := .object [("users", .array [.object [("name", .null)], .null])]
    let w : Json := .object [("users", .array [.object [], .null])]
    v.IsCanonical ∧ w.IsCanonical ∧ v.Similar w ∧
      firstName.read ⟨.standard, w, ""⟩ = .error (.missingField "users[0].name") := by
  intro v w
  have hv : v.IsCanonical := by
    simp [v, Json.IsCanonical, Json.AreCanonical, Json.HasCanonicalMembers, Entries.Sorted]
  have hw : w.IsCanonical := by
    simp [w, Json.IsCanonical, Json.AreCanonical, Json.HasCanonicalMembers, Entries.Sorted]
  have hsimilar : v.Similar w := by decide
  refine ⟨hv, hw, hsimilar, ?_⟩
  rw [← Reading.read_similar .standard hv hw hsimilar asks_firstName ""]
  rfl

end GraphClient
