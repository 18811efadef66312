import GraphClient.Proofs.Exchange.NullMembers
import GraphClient.Proofs.Json.Rearranging
import GraphClient.Proofs.Reader.NullFields

/-!
# Errors of a server that are written and read again

An error is written as an object without the members it has nothing to say under, and read from
objects with their members in any order, or from lists. Writing and reading undo each other except
for metadata that are null, which are read as none.
-/

namespace GraphClient

namespace Json

/-- The items of a list, or the values of the members of an object. -/
def parts : Json → List Json
  | array items => items
  | object members => members.map (·.2)
  | _ => []

theorem mem_parts_of_under {members : List (String × Json)} {name : String} {x : Json}
    (h : x ∈ under name members) : x ∈ (object members).parts := by
  obtain ⟨p, hp, rfl⟩ := List.mem_map.mp h
  exact List.mem_map_of_mem (List.mem_of_mem_filter hp)

theorem IsCanonical.of_mem_parts {v x : Json} (h : v.IsCanonical) (hx : x ∈ v.parts) :
    x.IsCanonical := by
  cases v with
  | object members =>
    obtain ⟨p, hp, rfl⟩ := List.mem_map.mp hx
    exact isCanonical_of_mem h.2 hp
  | array items =>
    change AreCanonical items at h
    induction items with
    | nil => cases hx
    | cons v rest ih =>
      rcases List.mem_cons.mp hx with rfl | hx
      · exact h.1
      · exact ih hx h.2
  | null | bool | number | string => cases hx

end Json

namespace Shape

variable {α : Type}

/-- What is written item by item is read item by item. -/
theorem readItems_map {shape : Shape α} {write : α → Json} (h : ∀ a, shape.read (write a) = .ok a)
    (as : List α) : readItems shape (as.map write) = .ok as := by
  induction as with
  | nil => rfl
  | cons a rest ih => exact (readItems_cons_iff shape _ _ _).mpr ⟨a, rest, h a, ih, rfl⟩

theorem read_nat32_ofNat {n : Nat} (h : n ≤ 4294967295) (hn : n < 18446744073709551616) :
    nat32.read (.ofNat n hn) = .ok n := by
  have hbounds : (0 : Int) ≤ n ∧ (n : Int) ≤ 4294967295 := by omega
  simp [nat32, nat, int, map, scalar, Json.ofNat, Except.map, hbounds]

end Shape

/-! ### The parts of an error -/

variable {f : Json → Json}

theorem Location.read_rearranged (hf : Json.Rearranges f) (l : Location) :
    shape.read (f l.toJson) = .ok l := by
  obtain ⟨line, column⟩ := l
  have hline : line.toNat < 18446744073709551616 := by have := line.toNat_lt; omega
  have hcolumn : column.toNat < 18446744073709551616 := by have := column.toNat_lt; omega
  obtain ⟨members, hobject, hperm⟩ := hf.object
    [("line", .ofNat line.toNat hline), ("column", .ofNat column.toNat hcolumn)] (by simp)
  have hread : shape.read (.object members) = .ok ⟨.ofNat line.toNat, .ofNat column.toNat⟩ := by
    have hl := Shape.read_nat32_ofNat (by have := line.toNat_lt; omega) hline
    have hc := Shape.read_nat32_ofNat (by have := column.toNat_lt; omega) hcolumn
    apply Shape.read_record_of_perm (by simp [Fields.names]) hperm (line.toNat, column.toNat, ())
    simp [Fields.OfMembers, Json.HasOne, Json.under, hf.ofNat, hl, hc]
  rw [toJson, hobject, hread]
  simp

namespace PathSegment

theorem toJson_rearranged (hf : Json.Rearranges f) (s : PathSegment) : f s.toJson = s.toJson := by
  cases s with
  | field name => exact hf.string name
  | index i => exact hf.number _

/-- Names and positions are told apart by the sort of value alone, so that a name of digits stays a
name. -/
theorem read_toJson (s : PathSegment) : shape.read s.toJson = .ok s := by
  cases s with
  | field name => rfl
  | index i => simp [shape, Shape.pick, toJson, Json.ofNat, ofJson?]

end PathSegment

namespace ServerError

/-- The members that stand for an error: none for locations where there are none, and none for a
path or metadata that the error does not have. -/
structure Spells (e : ServerError) (members : List (String × Json)) : Prop where
  names : (members.map (·.1)).Nodup
  message : Json.under "message" members = [.string e.message]
  locations : Json.under "locations" members =
    if e.locations = [] then [] else [.array (e.locations.map Location.toJson)]
  path : Json.under "path" members =
    (e.path.map fun p => Json.array (p.map PathSegment.toJson)).toList
  extensions : Json.under "extensions" members = e.extensions.toList

theorem spells_toJson (e : ServerError) :
    ∃ members, e.toJson = .object members ∧ e.Spells members := by
  obtain ⟨message, locations, path, extensions⟩ := e
  refine ⟨_, rfl, ?_⟩
  constructor <;> cases locations <;> cases path <;> cases extensions <;> simp [Json.under]

theorem read_locations (hf : Json.Rearranges f) (ls : List Location) :
    (Shape.list Location.shape).read (f (.array (ls.map Location.toJson))) = .ok ls := by
  rw [hf.array, List.map_map]
  exact Shape.readItems_map (Location.read_rearranged hf) ls

theorem read_path (hf : Json.Rearranges f) (p : List PathSegment) :
    (Shape.option (.list PathSegment.shape)).read (f (.array (p.map PathSegment.toJson))) =
      .ok (some p) := by
  have hsame : f ∘ PathSegment.toJson = PathSegment.toJson := by
    funext s
    exact s.toJson_rearranged hf
  have hp : Shape.readItems PathSegment.shape (p.map PathSegment.toJson) = .ok p :=
    Shape.readItems_map PathSegment.read_toJson p
  rw [hf.array, List.map_map, hsame]
  exact congrArg (Except.map some) hp

/-- Metadata that is there is read as it stands; null says that there is none. -/
theorem read_extensions (v : Json) :
    (Shape.option .any).read v = .ok (if v = .null then none else some v) := by
  cases v <;> rfl

/-- What is written for an error is read as that error, in whatever order its members come; null for
its metadata is lost. -/
theorem read_rearranged (hf : Json.Rearranges f) (e : ServerError) :
    shape.read (f e.toJson) =
      .ok { e with extensions := (e.extensions.filter (· ≠ .null)).map f } := by
  obtain ⟨members, hjson, h⟩ := e.spells_toJson
  obtain ⟨members', hobject, hperm⟩ := hf.object members h.names
  obtain ⟨message, locations, path, extensions⟩ := e
  rw [hjson, hobject, ← shapeWith_list]
  apply Shape.read_record_of_perm (nodup_names_fieldsWith _) hperm
    (message, locations, path, (extensions.filter (· ≠ .null)).map f, ())
  simp only [fieldsWith, Fields.OfMembers, Json.HasOne, Json.under_map, h.message, h.locations,
    h.path, h.extensions]
  refine ⟨.inl ⟨_, rfl, congrArg _ (hf.string message)⟩, ?_, ?_, ?_, trivial⟩
  · by_cases hnone : locations = []
    · exact .inr ⟨by simp [hnone], by simp [Presence.absent?, hnone]⟩
    · exact .inl ⟨f (.array (locations.map Location.toJson)), by simp [hnone],
        read_locations hf locations⟩
  · cases path with
    | none => exact .inr ⟨rfl, rfl⟩
    | some p => exact .inl ⟨_, rfl, read_path hf p⟩
  · cases extensions with
    | none => exact .inr ⟨rfl, rfl⟩
    | some x =>
      refine .inl ⟨_, rfl, ?_⟩
      rw [read_extensions]
      by_cases hx : x = .null <;> simp [hf.null_iff, hx, Option.filter]

/-- Metadata is never null, and stands in the value that the error was read from. -/
theorem extensions_of_read {v : Json} {e : ServerError} (h : shape.read v = .ok e) {x : Json}
    (hx : e.extensions = some x) : x ≠ .null ∧ x ∈ v.parts := by
  rw [← shapeWith_list, shapeWith, Shape.read_record_iff _ _ (nodup_names_fieldsWith _)] at h
  obtain ⟨⟨message, locations, path, extensions, ⟨⟩⟩, hgives, rfl⟩ := h
  obtain rfl : extensions = some x := hx
  have hread : ∀ w, (Shape.option .any).read w = .ok (some x) → x ≠ .null ∧ x = w := by
    intro w hw
    rw [read_extensions] at hw
    by_cases hnull : w = .null
    · simp [hnull] at hw
    · obtain rfl : w = x := by simpa [hnull] using hw
      exact ⟨hnull, rfl⟩
  cases v with
  | object members =>
    obtain ⟨-, -, -, (⟨w, hunder, hw⟩ | ⟨-, habsent⟩), -⟩ := hgives
    · obtain ⟨hnull, rfl⟩ := hread w hw
      exact ⟨hnull, Json.mem_parts_of_under (hunder ▸ List.mem_singleton_self _)⟩
    · cases habsent
  | array items =>
    -- an item stands for the metadata only where four items are given
    rcases items with _ | ⟨_, _ | ⟨_, _ | ⟨_, _ | ⟨w, beyond⟩⟩⟩⟩
    case cons.cons.cons.cons =>
      obtain ⟨-, -, -, hw, -⟩ := hgives
      obtain ⟨hnull, rfl⟩ := hread w hw
      exact ⟨hnull, by simp [Json.parts]⟩
    all_goals simp [Fields.Gives, fieldsWith, Fields.OfItems] at hgives
  | null | bool | number | string => exact hgives.elim

/-- Metadata that is not null is read as it is written, if the tree keeps it as it is. -/
theorem read_rearranged_of_fixed (hf : Json.Rearranges f) {e : ServerError}
    (hnull : e.extensions ≠ some .null) (hfixed : ∀ x, e.extensions = some x → f x = x) :
    shape.read (f e.toJson) = .ok e := by
  rw [read_rearranged hf]
  obtain ⟨message, locations, path, extensions⟩ := e
  cases extensions with
  | none => rfl
  | some x =>
    have hx : x ≠ .null := fun h => hnull (congrArg some h)
    simp [Option.filter, hx, hfixed x rfl]

theorem read_toJson {e : ServerError} (hnull : e.extensions ≠ some .null) :
    shape.read e.toJson = .ok e :=
  read_rearranged_of_fixed Json.rearranges_id hnull fun _ _ => rfl

/-- In a tree the members stand in name order, those of the metadata too. -/
theorem read_canonical_toJson {e : ServerError} (hnull : e.extensions ≠ some .null)
    (hcanonical : ∀ x, e.extensions = some x → x.IsCanonical) :
    shape.read e.toJson.canonical = .ok e :=
  read_rearranged_of_fixed Json.rearranges_canonical hnull fun x hx =>
    Json.canonical_of_isCanonical x (hcanonical x hx)

/-- An error that has no null for its metadata, and no other, is read from what is written for it,
be it the members as they are written or the tree that is made of them. An error that was read, from
whatever value, is such a one. A segment is read as a name exactly if it was one. Of any error the
path and the locations come back: an empty path as an empty path, not as none, and no locations from
no member. -/
theorem survives_json :
    (∀ e : ServerError, (shape.read e.toJson = .ok e ↔ e.extensions ≠ some .null) ∧
      (e.extensions ≠ some .null → (∀ x, e.extensions = some x → x.IsCanonical) →
        shape.read e.toJson.canonical = .ok e)) ∧
    (∀ (v : Json) (e : ServerError), shape.read v = .ok e →
      shape.read e.toJson = .ok e ∧
        (v.IsCanonical → shape.read e.toJson.canonical = .ok e)) ∧
    (∀ s : PathSegment, PathSegment.shape.read s.toJson = .ok s) ∧
    ∀ e : ServerError, ∃ members back, e.toJson = .object members ∧
      shape.read (.object members) = .ok back ∧
      back.path = e.path ∧ back.locations = e.locations ∧
      (Json.under "locations" members = [] ↔ e.locations = []) ∧
      (Json.under "path" members = [] ↔ e.path = none) ∧
      (Json.under "path" members = [.array []] ↔ e.path = some []) := by
  refine ⟨?_, ?_, PathSegment.read_toJson, ?_⟩
  · intro e
    refine ⟨⟨?_, read_toJson⟩, read_canonical_toJson⟩
    intro h hnull
    exact (extensions_of_read h hnull).1 rfl
  · intro v e h
    have hnull : e.extensions ≠ some .null := fun hx => (extensions_of_read h hx).1 rfl
    refine ⟨read_toJson hnull, fun hv => read_canonical_toJson hnull ?_⟩
    intro x hx
    exact hv.of_mem_parts (extensions_of_read h hx).2
  · intro e
    obtain ⟨members, hjson, hspells⟩ := e.spells_toJson
    have hread := read_rearranged Json.rearranges_id e
    rw [id, hjson] at hread
    refine ⟨members, _, hjson, hread, rfl, rfl, ?_, ?_, ?_⟩
    · by_cases hnone : e.locations = [] <;> simp [hspells.locations, hnone]
    · cases hpath : e.path <;> simp [hspells.path, hpath]
    · cases hpath : e.path <;> simp [hspells.path, hpath]

/-- A name of digits, a position and metadata come back, as they do from an error that was sent as a
list. -/
theorem survives_json_digits :
    let e : ServerError :=
      { message := "late", path := some [.field "0", .index 0],
        extensions := some (.object [("0", .null)]) }
    let v : Json := .array [.string "late", .array [], .array [.string "0", .ofNat 0 (by decide)],
      .object [("0", .null)]]
    e.extensions ≠ some .null ∧ shape.read v = .ok e ∧ v.IsCanonical ∧
      shape.read e.toJson = .ok e ∧ shape.read e.toJson.canonical = .ok e := by
  intro e v
  have hnull : e.extensions ≠ some .null := by simp [e]
  have hread : shape.read v = .ok e := rfl
  have hv : v.IsCanonical := by
    simp [v, Json.IsCanonical, Json.AreCanonical, Json.HasCanonicalMembers, Entries.Sorted,
      Json.ofNat]
  exact ⟨hnull, hread, hv, (survives_json.1 e).1.mpr hnull, (survives_json.2.1 v e hread).2 hv⟩

end ServerError

end GraphClient
