import GraphClient.Proofs.Json.Rearranging
import GraphClient.Proofs.Json.Texts
import GraphClient.Proofs.Variables.ReadBack

/-!
# Requests and their bodies

The body of a request is the text of an object: the document, the name of the operation if it has
one, and the variables. The request can be read back from the bytes, so that requests that differ
have bodies that differ.
-/

namespace GraphClient

inductive RequestEdit where
  | named (name : String)
  | given (vars : Entries Json)

namespace RequestEdit

def apply (r : Request) : RequestEdit → Request
  | named name => r.withOperationName name
  | given vars => r.withVariables vars

def name? : RequestEdit → Option String
  | named name => some name
  | given _ => none

def lastName? (edits : List RequestEdit) : Option String := (edits.filterMap name?).getLast?

theorem lastName?_concat (edits : List RequestEdit) (e : RequestEdit) :
    lastName? (edits ++ [e]) = e.name?.or (lastName? edits) := by
  cases h : e.name? <;> simp [lastName?, h, List.getLast?_append]

end RequestEdit

namespace Request

def edited (document : String) (edits : List RequestEdit) : Request :=
  edits.foldl RequestEdit.apply (ofDocument document)

/-- Naming an operation anew forgets its name, changing the variables leaves it. -/
theorem operationName_edited (document : String) (edits : List RequestEdit) :
    (edited document edits).operationName =
      (RequestEdit.lastName? edits).filter (· ≠ "") := by
  induction edits using List.reverseRecOn with
  | nil => rfl
  | append_singleton edits e ih =>
    rw [RequestEdit.lastName?_concat]
    have hlast : edited document (edits ++ [e]) = e.apply (edited document edits) := by
      simp [edited]
    rw [hlast]
    cases e with
    | named name =>
      by_cases hname : name = "" <;>
        simp [RequestEdit.apply, RequestEdit.name?, withOperationName, Option.filter, hname]
    | given vars => exact ih

/-- The members that stand for a request: none for the name of an operation that has no name. -/
structure Spells (r : Request) (members : List (String × Json)) : Prop where
  names : (members.map (·.1)).Nodup
  document : Json.under "query" members = [.string r.document]
  operationName : Json.under "operationName" members = (r.operationName.map Json.string).toList
  vars : Json.under "variables" members = [.object r.vars]
  only : ∀ p ∈ members, p = ("query", .string r.document) ∨
    (∃ name, r.operationName = some name ∧ p = ("operationName", .string name)) ∨
    p = ("variables", .object r.vars)

theorem spells_toJson (r : Request) : ∃ members, r.toJson = .object members ∧ r.Spells members := by
  obtain ⟨document, operationName, vars⟩ := r
  refine ⟨_, rfl, ?_⟩
  constructor <;> cases operationName <;> simp [Json.under]

/-- The variables are kept as a tree keeps them, have no fractions, and leave the body no deeper
than a reader goes. -/
structure IsReadable (r : Request) : Prop where
  canonical : (Json.object r.vars).IsCanonical
  integral : (Json.object r.vars).IsIntegral
  depth_le : r.toJson.depth ≤ Scan.maxDepth

theorem IsReadable.vars {r : Request} (h : r.IsReadable) :
    (Json.object r.vars).IsReadable (Scan.maxDepth - 1) where
  canonical := h.canonical
  integral := h.integral
  depth_le := by
    obtain ⟨members, hjson, hspells⟩ := r.spells_toJson
    have hdepth : Json.depthMembers members ≤ Scan.maxDepth - 1 := by
      have hle := h.depth_le
      rw [hjson, Json.depth] at hle
      omega
    have hmem : ("variables", Json.object r.vars) ∈ members := by
      rw [Json.mem_iff_mem_under, hspells.vars]
      exact List.mem_singleton_self _
    exact (Json.depthMembers_le_iff members _).mp hdepth _ hmem

def fields :=
  Fields.field "query" .string .required <|
    .field "operationName" (.option .string) (.nullable none) <|
    .field "variables" (.entries .any) (.optional []) .done

theorem nodup_names_fields : fields.names.Nodup := by
  simp [fields, Fields.names]

/-- The request is taken from the object of its body, in whatever order the members come. -/
theorem read_rearranged {f : Json → Json} (hf : Json.Rearranges f) {r : Request}
    (hsorted : Entries.Sorted r.vars) (hvars : f (.object r.vars) = .object r.vars) :
    shape.read (f r.toJson) = .ok r := by
  obtain ⟨members, hjson, h⟩ := r.spells_toJson
  obtain ⟨members', hobject, hperm⟩ := hf.object members h.names
  obtain ⟨document, operationName, vars⟩ := r
  rw [hjson, hobject]
  apply Shape.read_record_of_perm nodup_names_fields hperm (document, operationName, vars, ())
  have hread : (Shape.entries .any).read (.object vars) = .ok vars := by
    simp [Shape.entries, Shape.readMembers_any, Except.map, Entries.ofList_of_sorted hsorted]
  simp only [fields, Fields.OfMembers, Json.HasOne, Json.under_map, h.document, h.operationName,
    h.vars]
  refine ⟨.inl ⟨_, rfl, congrArg _ (hf.string document)⟩, ?_, ?_, trivial⟩
  · cases operationName with
    | none => exact .inr ⟨rfl, rfl⟩
    | some name => exact .inl ⟨_, rfl, congrArg _ (hf.string name)⟩
  · exact .inl ⟨_, rfl, (congrArg _ hvars).trans hread⟩

theorem agreesOn_toJson {r : Request} (h : r.IsReadable) :
    shape.AgreesOn Scan.maxDepth r.toJson := by
  obtain ⟨members, hjson, hspells⟩ := r.spells_toJson
  rw [hjson]
  have hstring : ∀ s, Shape.string.AgreesOn (Scan.maxDepth - 1) (.string s) :=
    fun s => Shape.agreesOn_scalar trivial rfl
  apply Shape.agreesOn_record
  intro p hp
  rcases hspells.only p hp with rfl | ⟨name, -, rfl⟩ | rfl
  · exact hstring r.document
  · exact Shape.agreesOn_option trivial (hstring name)
  · exact Shape.agreesOn_entries_any h.vars

/-- The bytes of the body are read as the request. -/
theorem ofBytes_body {r : Request} (h : r.IsReadable) : shape.ofBytes r.body.toUTF8 = .ok r :=
  Shape.ofBytes_bytes (agreesOn_toJson h)
    (read_rearranged Json.rearranges_id h.canonical.1 rfl)

/-- They are also read as a tree that the request is taken from. -/
theorem parse_body {r : Request} (h : r.IsReadable) :
    ∃ members, Json.parse r.body.toUTF8 = .ok (.object members) ∧
      shape.read (.object members) = .ok r ∧
      Json.under "operationName" members = (r.operationName.map Json.string).toList := by
  obtain ⟨members, hjson, hspells⟩ := r.spells_toJson
  obtain ⟨members', hobject, hperm⟩ := Json.rearranges_canonical.object members hspells.names
  have hparse : Json.parse r.body.toUTF8 = .ok r.toJson.canonical :=
    Json.parse_bytes (isIntegral_toJson h.integral) h.depth_le
  have hread := read_rearranged Json.rearranges_canonical h.canonical.1
    (Json.canonical_of_isCanonical _ h.canonical)
  rw [hjson, hobject] at hparse hread
  refine ⟨members', hparse, hread, ?_⟩
  have hunder := Json.under_perm hperm "operationName"
  rw [Json.under_map, hspells.operationName] at hunder
  cases hname : r.operationName with
  | none =>
    rw [hname] at hunder
    exact List.perm_nil.mp hunder
  | some name =>
    rw [hname] at hunder
    exact List.perm_singleton.mp hunder

/-- A request is read back from the bytes of its body, be it at once or by way of the tree, so that
requests with equal bodies are equal. After any changes the body names the operation exactly if the
name given last is not empty, and by that name. -/
theorem body_determines :
    (∀ r : Request, r.IsReadable →
      shape.ofBytes r.body.toUTF8 = .ok r ∧
        ∃ tree, Json.parse r.body.toUTF8 = .ok tree ∧ shape.read tree = .ok r) ∧
    (∀ r s : Request, r.IsReadable → s.IsReadable → r.body.toUTF8 = s.body.toUTF8 → r = s) ∧
    ∀ document edits, ∃ members,
      (edited document edits).toJson = .object members ∧
      (edited document edits).body = (Json.object members).text ∧
      (∀ v, ("operationName", v) ∈ members ↔
        ∃ name, RequestEdit.lastName? edits = some name ∧ name ≠ "" ∧ v = .string name) ∧
      ((edited document edits).IsReadable → ∃ members',
        Json.parse (edited document edits).body.toUTF8 = .ok (.object members') ∧
        ∀ v, ("operationName", v) ∈ members' ↔
          ∃ name, RequestEdit.lastName? edits = some name ∧ name ≠ "" ∧ v = .string name) := by
  have hnamed : ∀ document edits members,
      Json.under "operationName" members =
        ((edited document edits).operationName.map Json.string).toList →
      ∀ v, ("operationName", v) ∈ members ↔
        ∃ name, RequestEdit.lastName? edits = some name ∧ name ≠ "" ∧ v = .string name := by
    intro document edits members hunder v
    rw [Json.mem_iff_mem_under, hunder, operationName_edited]
    cases RequestEdit.lastName? edits with
    | none => simp
    | some name => by_cases hname : name = "" <;> simp [Option.filter, hname]
  refine ⟨?_, ?_, ?_⟩
  · intro r hr
    obtain ⟨members, hparse, hread, -⟩ := parse_body hr
    exact ⟨ofBytes_body hr, .object members, hparse, hread⟩
  · intro r s hr hs hbody
    have hread := ofBytes_body hr
    rw [hbody, ofBytes_body hs] at hread
    exact (Except.ok.inj hread).symm
  · intro document edits
    obtain ⟨members, hjson, hspells⟩ := (edited document edits).spells_toJson
    refine ⟨members, hjson, by rw [body, hjson],
      hnamed document edits members hspells.operationName, ?_⟩
    intro h
    obtain ⟨members', hparse, -, hunder⟩ := parse_body h
    exact ⟨members', hparse, hnamed document edits members' hunder⟩

/-- Text that has to be escaped, the least and the greatest integer, and a name that is taken away
and given again. -/
theorem body_determines_named :
    let vars : Entries Json :=
      [("greatest", .number (.int 18446744073709551615 (by decide))),
        ("least", .array [.number (.int (-9223372036854775808) (by decide)), .null])]
    let r := edited "\"\n\x07" [.named "First", .named "", .given vars, .named "Find", .given vars]
    r = ⟨"\"\n\x07", some "Find", vars⟩ ∧ r.IsReadable ∧ shape.ofBytes r.body.toUTF8 = .ok r ∧
      ∀ s : Request, s.IsReadable → r.body.toUTF8 = s.body.toUTF8 → r = s := by
  intro vars r
  have hr : r = ⟨"\"\n\x07", some "Find", vars⟩ := rfl
  have hsorted : Entries.Sorted vars := by
    refine ⟨?_, List.forall_mem_nil _, trivial⟩
    intro p hp
    obtain rfl := List.mem_singleton.mp hp
    decide
  have hreadable : r.IsReadable := by
    rw [hr]
    refine ⟨⟨hsorted, ?_⟩, ?_, by decide⟩
    · simp [vars, Json.IsCanonical, Json.HasCanonicalMembers, Json.AreCanonical]
    · simp [vars, Json.IsIntegral, Json.HasIntegralMembers, Json.AreIntegral]
  exact ⟨hr, hreadable, (body_determines.1 r hreadable).1,
    fun s hs hbody => body_determines.2.1 r s hreadable hs hbody⟩

end Request

end GraphClient
