import GraphClient.Proofs.Json.Records
import GraphClient.Proofs.Reader.Places

/-!
# Reading by hand and by shape

A mapper reads a value with the accessors of its reader, or takes it by its shape. Both ways accept
the same values and read the same from them, and differ in the errors alone. What is true of one
read is true of any code around it that treats all errors of a read alike.
-/

namespace GraphClient

variable {ι : Type} [Domains ι] {α β D : Type}

namespace Reader

/-- A way to read by hand, and the shape that reads the same. -/
inductive Twin : {α : Type} → (Reader ι → Except DecodeError α) → Shape α → Prop
  | string : Twin string .string
  | bool : Twin bool .bool
  | int64 : Twin int64 .int64
  | optional {α : Type} {read : Reader ι → Except DecodeError α} {shape : Shape α}
    (h : Twin read shape) : Twin (fun r => r.optional read) (.option shape)
  | list {α : Type} {read : Reader ι → Except DecodeError α} {shape : Shape α}
    (h : Twin read shape) : Twin (fun r => do (← r.list).mapM read) (.list shape)

theorem deserialize_eq_ok_iff (r : Reader ι) (shape : Shape α) (a : α) :
    r.deserialize shape = .ok a ↔ shape.read r.value = .ok a := by
  cases h : shape.read r.value <;> simp [deserialize, Codec.decodeAt, h, Except.mapError]

theorem string_eq_ok_iff (r : Reader ι) (s : String) :
    r.string = .ok s ↔ Shape.string.read r.value = .ok s := by
  cases h : r.value <;> simp [string, Shape.string, Shape.scalar, h]

theorem bool_eq_ok_iff (r : Reader ι) (b : Bool) :
    r.bool = .ok b ↔ Shape.bool.read r.value = .ok b := by
  cases h : r.value <;> simp [bool, Shape.bool, Shape.scalar, h]

/-- The upper bound is looked at by both; the lower one holds of every number there is. -/
theorem int64_eq_ok_iff (r : Reader ι) (n : Int) :
    r.int64 = .ok n ↔ Shape.int64.read r.value = .ok n := by
  rw [r.requires_int64.ok_iff, Shape.int64, Shape.read_int_iff]

theorem optional_eq_ok_iff {read : Reader ι → Except DecodeError α} {shape : Shape α}
    (r : Reader ι) (h : ∀ a, read r = .ok a ↔ shape.read r.value = .ok a) (o : Option α) :
    r.optional read = .ok o ↔ shape.option.read r.value = .ok o := by
  by_cases hv : r.value = .null
  · simp [optional, isNull, Json.isNull, Shape.option, hv]
  · have hnull : ¬r.isNull = true := mt (Json.isNull_iff r.value).mp hv
    rw [optional, if_neg hnull, Shape.read_option_of_ne_null hv]
    cases hread : read r with
    | ok a => simp [(h a).mp hread, Except.map]
    | error why =>
      cases hs : shape.read r.value with
      | ok a => simp [(h a).mpr hs] at hread
      | error => simp [Except.map]

theorem mapM_cons_eq_ok_iff (read : Reader ι → Except DecodeError α) (r : Reader ι)
    (rest : List (Reader ι)) (as : List α) :
    (r :: rest).mapM read = .ok as ↔
      ∃ a bs, read r = .ok a ∧ rest.mapM read = .ok bs ∧ a :: bs = as := by
  cases hr : read r with
  | error why => simp [hr, bind, Except.bind]
  | ok a =>
    cases hrest : rest.mapM read <;>
      simp [hr, hrest, bind, Except.bind, pure, Except.pure]

/-- The elements of a list are read one by one in both ways. -/
theorem mapM_elements_eq_ok_iff {read : Reader ι → Except DecodeError α} {shape : Shape α}
    (h : ∀ (r : Reader ι) a, read r = .ok a ↔ shape.read r.value = .ok a) (r : Reader ι) (i : Nat)
    (items : List Json) (as : List α) :
    (r.elements i items).mapM read = .ok as ↔ Shape.readItems shape items = .ok as := by
  induction items generalizing i as with
  | nil => simp [elements, Shape.readItems, pure, Except.pure]
  | cons v rest ih => simp only [elements, mapM_cons_eq_ok_iff, Shape.readItems_cons_iff, h, ih]

theorem list_eq_ok_iff {read : Reader ι → Except DecodeError α} {shape : Shape α}
    (h : ∀ (r : Reader ι) a, read r = .ok a ↔ shape.read r.value = .ok a) (r : Reader ι)
    (as : List α) :
    (do (← r.list).mapM read) = .ok as ↔ shape.list.read r.value = .ok as := by
  cases hv : r.value with
  | array items =>
    have hlist : r.list = .ok (r.elements 0 items) := by simp only [list, hv]
    have hshape : shape.list.read (.array items) = Shape.readItems shape items := rfl
    rw [hlist, hshape]
    exact mapM_elements_eq_ok_iff h r 0 items as
  | null | bool | number | string | object =>
    simp [list, Shape.list, hv, bind, Except.bind]

/-- What is read by hand is read by the shape too, and nothing else is. -/
theorem Twin.read_eq_ok_iff {read : Reader ι → Except DecodeError α} {shape : Shape α}
    (h : Twin read shape) (r : Reader ι) (a : α) :
    read r = .ok a ↔ shape.read r.value = .ok a := by
  induction h generalizing r with
  | string => exact string_eq_ok_iff r a
  | bool => exact bool_eq_ok_iff r a
  | int64 => exact int64_eq_ok_iff r a
  | optional h ih => exact optional_eq_ok_iff r (ih r) a
  | list h ih => exact list_eq_ok_iff ih r a

theorem Twin.ok_iff {read : Reader ι → Except DecodeError α} {shape : Shape α}
    (h : Twin read shape) (r : Reader ι) (a : α) : read r = .ok a ↔ r.deserialize shape = .ok a :=
  (h.read_eq_ok_iff r a).trans (deserialize_eq_ok_iff r shape a).symm

end Reader

/-- Code that maps readers, and the same code with some reads put the one way for the other. What it
does next may depend on all it has read, and after an error it does the same whatever the error. -/
inductive Restyled : {α : Type} → (Reader ι → Except DecodeError α) →
    (Reader ι → Except DecodeError α) → Prop
  | twin {α : Type} {read : Reader ι → Except DecodeError α} {shape : Shape α}
    (h : Reader.Twin read shape) : Restyled read fun r => r.deserialize shape
  | same {α : Type} (m : Reader ι → Except DecodeError α) : Restyled m m
  | failed {α : Type} (e e' : DecodeError) :
    Restyled (fun _ => .error e : Reader ι → Except DecodeError α) fun _ => .error e'
  | symm {α : Type} {m m' : Reader ι → Except DecodeError α} (h : Restyled m m') : Restyled m' m
  | trans {α : Type} {m₁ m₂ m₃ : Reader ι → Except DecodeError α} (h : Restyled m₁ m₂)
    (h' : Restyled m₂ m₃) : Restyled m₁ m₃
  -- the code goes to another place first
  | moved {α : Type} {m m' : Reader ι → Except DecodeError α} (go : Reader ι → Reader ι)
    (h : Restyled m m') : Restyled (fun r => m (go r)) fun r => m' (go r)
  | andThen {α β : Type} {m m' : Reader ι → Except DecodeError α}
    {next next' : Except DecodeError α → Reader ι → Except DecodeError β} (h : Restyled m m')
    (hok : ∀ a, Restyled (next (.ok a)) (next' (.ok a)))
    (herror : ∀ e e', Restyled (next (.error e)) (next' (.error e'))) :
    Restyled (fun r => next (m r) r) fun r => next' (m' r) r

namespace Restyled

variable {m m' : Reader ι → Except DecodeError α}

/-- The code gives up at the first error. -/
theorem bind {next next' : α → Reader ι → Except DecodeError β} (h : Restyled m m')
    (hnext : ∀ a, Restyled (next a) (next' a)) :
    Restyled (fun r => (m r).bind fun a => next a r) fun r => (m' r).bind fun a => next' a r :=
  @andThen _ _ _ _ m m' (fun x r => x.bind fun a => next a r) (fun x r => x.bind fun a => next' a r)
    h hnext fun e e' => .failed e e'

/-- Restyled code reads the same from the same values. -/
theorem ok_iff (h : Restyled m m') (r : Reader ι) (a : α) : m r = .ok a ↔ m' r = .ok a := by
  induction h generalizing r with
  | twin h => exact h.ok_iff r a
  | same m => exact Iff.rfl
  | failed e e' => simp
  | symm h ih => exact (ih r a).symm
  | trans h h' ih ih' => exact (ih r a).trans (ih' r a)
  | moved go h ih => exact ih (go r) a
  | @andThen _ _ m m' next next' h hok herror ih ihok iherror =>
    cases hm : m r with
    | ok b =>
      simp only [hm, (ih r b).mp hm]
      exact ihok b r a
    | error e =>
      cases hm' : m' r with
      | ok b => simp [(ih r b).mpr hm'] at hm
      | error e' =>
        simp only [hm, hm']
        exact iherror e e' r a

end Restyled

namespace Exchange

variable {τ : Type}

/-- Of the mapper, a response shows no more than what it makes of the data. -/
theorem conclude_eq_ok_iff (name : String) (e : Envelope) {x y : Except DecodeError D}
    (h : ∀ d, x = .ok d ↔ y = .ok d) (response : Response D) :
    conclude name e (some x) = .ok response ↔ conclude name e (some y) = .ok response := by
  cases hx : x with
  | ok d => rw [(h d).mp hx]
  | error why =>
    cases hy : y with
    | ok d => simp [(h d).mpr hy] at hx
    | error why' =>
      simp only [conclude]
      split <;> simp

theorem run_eq_ok_iff (client : Client ι τ) (op : Operation ι D) {mapper : Mapper ι D}
    (h : ∀ r d, op.mapper.map r = .ok d ↔ mapper.map r = .ok d)
    (transport : HttpRequest → Except TransportError HttpResponse) (response : Response D) :
    run client op transport = .ok response ↔
      run client { op with mapper } transport = .ok response := by
  have hrequest : request client { op with mapper } = request client op := rfl
  unfold run
  rw [hrequest]
  cases request client op with
  | error why => exact Iff.rfl
  | ok q =>
    simp only [answer]
    cases envelope client.codec (transport q) with
    | error why => exact Iff.rfl
    | ok e =>
      cases he : e.data? with
      | none => simp only [he, Option.map_none]
      | some v =>
        simp only [he, Option.map_some]
        exact conclude_eq_ok_iff op.name e (h (.root client.codec v)) response

end Exchange

/-- Texts, truth values, integers, texts that may be null and lists of texts are read by hand exactly
as they are by shape. So a mapper reads the same from every value when the one way is put for the
other in it, and a call with it gives a response exactly where one gave it before, and the same. -/
theorem Mapper.styles_agree :
    (∀ r : Reader ι,
      (∀ s, r.string = .ok s ↔ r.deserialize .string = .ok s) ∧
      (∀ b, r.bool = .ok b ↔ r.deserialize .bool = .ok b) ∧
      (∀ n, r.int64 = .ok n ↔ r.deserialize .int64 = .ok n) ∧
      (∀ o, r.optional Reader.string = .ok o ↔ r.deserialize (.option .string) = .ok o) ∧
      ∀ l, (do (← r.list).mapM Reader.string) = .ok l ↔ r.deserialize (.list .string) = .ok l) ∧
    ∀ (D : Type) (mapper mapper' : Mapper ι D), Restyled mapper.map mapper'.map →
      (∀ r d, mapper.map r = .ok d ↔ mapper'.map r = .ok d) ∧
      ∀ (τ : Type) (client : Client ι τ) (op : Operation ι D) transport response,
        Exchange.run client { op with mapper } transport = .ok response ↔
          Exchange.run client { op with mapper := mapper' } transport = .ok response := by
  constructor
  · intro r
    exact ⟨Reader.Twin.string.ok_iff r, Reader.Twin.bool.ok_iff r, Reader.Twin.int64.ok_iff r,
      Reader.Twin.string.optional.ok_iff r, Reader.Twin.string.list.ok_iff r⟩
  · intro D mapper mapper' h
    refine ⟨h.ok_iff, fun τ client op transport response => ?_⟩
    exact Exchange.run_eq_ok_iff client { op with mapper } h.ok_iff transport response

def Mapper.tagsByHand : Mapper TextDomain (String × List String) where
  map r := (r.field "name").string.bind fun name =>
    (do (← (r.field "tags").list).mapM Reader.string).bind fun tags => .ok (name, tags)

def Mapper.tagsByShape : Mapper TextDomain (String × List String) where
  map r := ((r.field "name").deserialize .string).bind fun name =>
    ((r.field "tags").deserialize (.list .string)).bind fun tags => .ok (name, tags)

theorem Mapper.restyled_tags : Restyled tagsByHand.map tagsByShape.map :=
  .bind (.moved (·.field "name") (.twin .string)) fun _ =>
    .bind (.moved (·.field "tags") (.twin (.list .string))) fun _ => .same _

/-- What is read by hand from a name without tags, and from one with a tag, is read by shape. -/
theorem Mapper.styles_agree_tags :
    let v : Json := .object [("name", .string "Ann"), ("tags", .array [.string "new"])]
    let w : Json := .object [("name", .string "Ann")]
    Restyled tagsByHand.map tagsByShape.map ∧
      tagsByShape.map ⟨.standard, v, ""⟩ = .ok ("Ann", ["new"]) ∧
      ∀ d, tagsByShape.map ⟨.standard, w, ""⟩ ≠ .ok d := by
  intro v w
  obtain ⟨hread, -⟩ := Mapper.styles_agree.2 _ tagsByHand tagsByShape restyled_tags
  refine ⟨restyled_tags, (hread _ _).mp rfl, fun d hd => ?_⟩
  have hhand : tagsByHand.map ⟨.standard, w, ""⟩ = .error (.missingField "tags") := rfl
  rw [← hread, hhand] at hd
  cases hd

end GraphClient
