import GraphClient.Client.Minimal
import GraphClient.Reader.Selection

/-!
# Where a reader stands

Steps lead from the root of a value to a place inside it, whatever reads there: to the member of a
name, to null where there is none, and to an element of a list if there is one. A reader is known by
the steps that it has followed, which give both its value and its path.
-/

namespace GraphClient

namespace Json

inductive Leads : Json → Step → Json → Prop
  | member {members : List (String × Json)} {name : String} {v : Json}
    (h : Entries.find? name members = some v) : Leads (object members) (.field name) v
  | missing {members : List (String × Json)} {name : String}
    (h : Entries.find? name members = none) : Leads (object members) (.field name) null
  | noObject {v : Json} (name : String) (h : v.kind ≠ .object) : Leads v (.field name) null
  | element {items : List Json} {i : Nat} {v : Json} (h : items[i]? = some v) :
    Leads (array items) (.element i) v

inductive Reaches : Json → List Step → Json → Prop
  | here (v : Json) : Reaches v [] v
  | step {v w x : Json} {s : Step} {rest : List Step} (h : Leads v s w) (ht : Reaches w rest x) :
    Reaches v (s :: rest) x

theorem leads_field_iff (v : Json) (name : String) (w : Json) :
    v.Leads (.field name) w ↔ v.member name = w := by
  constructor
  · rintro (h | h | ⟨-, h⟩)
    · simp [member, h]
    · simp [member, h]
    · cases v <;> first | rfl | exact absurd rfl h
  · rintro rfl
    cases v with
    | object members =>
      cases h : Entries.find? name members with
      | none =>
        rw [member, h]
        exact .missing h
      | some w =>
        rw [member, h]
        exact .member h
    | null | bool | number | string | array => exact .noObject name (by simp [kind])

theorem leads_element_iff (v : Json) (i : Nat) (w : Json) :
    v.Leads (.element i) w ↔ ∃ items, v = array items ∧ items[i]? = some w := by
  constructor
  · rintro ⟨⟩
    exact ⟨_, rfl, ‹_›⟩
  · rintro ⟨items, rfl, h⟩
    exact .element h

theorem reaches_cons_iff (v : Json) (s : Step) (rest : List Step) (x : Json) :
    v.Reaches (s :: rest) x ↔ ∃ w, v.Leads s w ∧ w.Reaches rest x := by
  constructor
  · rintro ⟨⟩
    exact ⟨_, ‹_›, ‹_›⟩
  · rintro ⟨w, h, ht⟩
    exact .step h ht

theorem reaches_nil_iff (v x : Json) : v.Reaches [] x ↔ v = x := by
  constructor
  · rintro ⟨⟩
    rfl
  · rintro rfl
    exact .here v

end Json

namespace Step

/-- A step in a path: a name behind a dot unless it comes first, a position in brackets. -/
def display (first : Bool) : Step → String
  | field name => if first then name else "." ++ name
  | element i => "[" ++ toString i ++ "]"

def displayPath : List Step → String
  | [] => ""
  | s :: rest => s.display true ++ String.join (rest.map (display false))

/-- Only a name that is empty leaves no trace. -/
theorem display_ne_empty {s : Step} (first : Bool) (h : ∀ name, s = .field name → name ≠ "") :
    s.display first ≠ "" := by
  cases s with
  | field name => cases first <;> simp [display, h name rfl]
  | element i => simp [display]

end Step

theorem JsonNumber.toInt64?_eq_some_iff (n : JsonNumber) (m : Int) :
    n.toInt64? = some m ↔
      ∃ fits, n = .int m fits ∧ -9223372036854775808 ≤ m ∧ m ≤ 9223372036854775807 := by
  cases n with
  | float x => simp [toInt64?]
  | int k fits =>
    have hlow := fits.1
    simp only [toInt64?, Option.ite_none_right_eq_some, Option.some.injEq]
    constructor
    · rintro ⟨hk, rfl⟩
      exact ⟨fits, rfl, hlow, by omega⟩
    · rintro ⟨-, ⟨rfl⟩, -, hm⟩
      exact ⟨by omega, rfl⟩

variable {ι : Type} [Domains ι] {α : Type}

namespace Reader

/-! ### The value -/

theorem elements_eq_mapIdx (r : Reader ι) (k : Nat) (items : List Json) :
    r.elements k items =
      items.mapIdx fun i v => { r with value := v, path := elementPath r.path (k + i) } := by
  induction items generalizing k with
  | nil => rfl
  | cons v rest ih =>
    have hk : ∀ i, k + 1 + i = k + (i + 1) := by omega
    simp only [elements, List.mapIdx_cons, ih, hk, Nat.add_zero]

theorem list_array {r : Reader ι} {items : List Json} (h : r.value = .array items) :
    r.list = .ok (items.mapIdx fun i v => { r with value := v, path := elementPath r.path i }) := by
  simp only [list, h, elements_eq_mapIdx, Nat.zero_add]

theorem list_of_ne {r : Reader ι} (h : ∀ items, r.value ≠ .array items) :
    r.list = .error (r.unexpected "list") := by
  unfold list
  split
  · rename_i items hv
    exact absurd hv (h items)
  · rfl

/-- A reader takes a step exactly where the step leads from its value. -/
theorem leads_iff (r : Reader ι) (s : Step) (v : Json) :
    r.value.Leads s v ↔ ∃ r', r.step s = .ok r' ∧ r'.value = v := by
  cases s with
  | field name => simp [Json.leads_field_iff, step, field]
  | element i =>
    rw [Json.leads_element_iff]
    by_cases h : ∃ items, r.value = .array items
    · obtain ⟨items, hv⟩ := h
      cases hi : items[i]? with
      | none => simp [step, list_array hv, hv, hi, bind, Except.bind]
      | some w => simp [step, list_array hv, hv, hi, bind, Except.bind]
    · have hne : ∀ items, r.value ≠ .array items := fun items hv => h ⟨items, hv⟩
      simp [step, list_of_ne hne, hne, bind, Except.bind]

theorem follow_cons (r : Reader ι) (s : Step) (rest : List Step) (r' : Reader ι) :
    r.follow (s :: rest) = .ok r' ↔ ∃ r₁, r.step s = .ok r₁ ∧ r₁.follow rest = .ok r' := by
  cases h : r.step s <;> simp [follow, h, bind, Except.bind]

/-- A reader follows steps exactly where they lead from its value. -/
theorem reaches_iff (steps : List Step) (r : Reader ι) (v : Json) :
    r.value.Reaches steps v ↔ ∃ r', r.follow steps = .ok r' ∧ r'.value = v := by
  induction steps generalizing r with
  | nil => simp [Json.reaches_nil_iff, follow]
  | cons s rest ih =>
    simp only [Json.reaches_cons_iff, leads_iff, follow_cons]
    constructor
    · rintro ⟨w, ⟨r₁, hstep, rfl⟩, hrest⟩
      obtain ⟨r', hfollow, hv⟩ := (ih r₁).mp hrest
      exact ⟨r', ⟨r₁, hstep, hfollow⟩, hv⟩
    · rintro ⟨r', ⟨r₁, hstep, hfollow⟩, hv⟩
      exact ⟨r₁.value, ⟨r₁, hstep, rfl⟩, (ih r₁).mpr ⟨r', hfollow, hv⟩⟩

/-! ### The path -/

/-- A step is put behind the path, as the first one where there is no path yet. -/
theorem step_frame {r r' : Reader ι} {s : Step} (h : r.step s = .ok r') :
    r'.codec = r.codec ∧ r'.path = r.path ++ s.display (decide (r.path = "")) := by
  cases s with
  | field name =>
    obtain rfl : r.field name = r' := by simpa [step] using h
    refine ⟨rfl, ?_⟩
    by_cases hp : r.path = ""
    · simp [field, fieldPath, Step.display, hp]
    · simp [field, fieldPath, Step.display, hp, String.append_assoc]
  | element i =>
    by_cases hv : ∃ items, r.value = .array items
    · obtain ⟨items, hv⟩ := hv
      cases hi : items[i]? with
      | none => simp [step, list_array hv, hi, bind, Except.bind] at h
      | some w =>
        obtain rfl : { r with value := w, path := elementPath r.path i } = r' := by
          simpa [step, list_array hv, hi, bind, Except.bind] using h
        exact ⟨rfl, by simp [elementPath, Step.display, String.append_assoc]⟩
    · have hne : ∀ items, r.value ≠ .array items := fun items hr => hv ⟨items, hr⟩
      simp [step, list_of_ne hne, bind, Except.bind] at h

/-- Where there is a path already, further steps are put behind it one by one. -/
theorem follow_frame {steps : List Step} {r r' : Reader ι} (h : r.follow steps = .ok r')
    (hnames : ∀ name, Step.field name ∈ steps → name ≠ "") (hpath : r.path ≠ "") :
    r'.codec = r.codec ∧ r'.path = r.path ++ String.join (steps.map (Step.display false)) := by
  induction steps generalizing r with
  | nil =>
    obtain rfl : r = r' := by simpa [follow] using h
    simp
  | cons s rest ih =>
    obtain ⟨r₁, hstep, hrest⟩ := (follow_cons r s rest r').mp h
    obtain ⟨hcodec, hpath₁⟩ := step_frame hstep
    have hne : r₁.path ≠ "" := by
      simp [hpath₁, hpath]
    have hrest' := ih hrest (fun name hn => hnames name (List.mem_cons_of_mem s hn)) hne
    refine ⟨hrest'.1.trans hcodec, ?_⟩
    rw [hrest'.2, hpath₁]
    simp [hpath, String.append_assoc]

/-- From the root on, the path is what the steps are written as. -/
theorem follow_root {codec : Codec ι} {tree : Json} {steps : List Step} {r : Reader ι}
    (h : (root codec tree).follow steps = .ok r)
    (hnames : ∀ name, Step.field name ∈ steps → name ≠ "") :
    r.codec = codec ∧ r.path = Step.displayPath steps := by
  cases steps with
  | nil =>
    obtain rfl : root codec tree = r := by simpa [follow] using h
    exact ⟨rfl, rfl⟩
  | cons s rest =>
    obtain ⟨r₁, hstep, hrest⟩ := (follow_cons _ s rest r).mp h
    obtain ⟨hcodec, hpath₁⟩ := step_frame hstep
    have hpath : r₁.path = s.display true := by
      simpa [root] using hpath₁
    have hne : r₁.path ≠ "" := by
      rw [hpath]
      exact Step.display_ne_empty true fun name hs => hnames name (by simp [hs])
    obtain ⟨hcodec', hpath'⟩ :=
      follow_frame hrest (fun name hn => hnames name (List.mem_cons_of_mem s hn)) hne
    exact ⟨hcodec'.trans hcodec, by rw [hpath', hpath, Step.displayPath]⟩

/-! ### The accessors -/

/-- An accessor that requires a value of some sort: it takes what values of the sort hold, calls
null missing and all others unexpected, and always errs under the path of the reader. -/
structure Requires (r : Reader ι) (expected : String) (Holds : Json → α → Prop)
    (answer : Except DecodeError α) : Prop where
  ok_iff : ∀ a, answer = .ok a ↔ Holds r.value a
  missing : r.value = .null → answer = .error (.missingField r.path)
  unexpected : r.value ≠ .null → (∀ a, ¬Holds r.value a) →
    answer = .error (.unexpectedType r.path expected r.value.kind.name)
  path : ∀ e, answer = .error e → e.path? = some r.path

structure Answers (r : Reader ι) : Prop where
  string : r.Requires "string" (fun v s => v = .string s) r.string
  int64 : r.Requires "integer" (fun v n => ∃ fits, v = .number (.int n fits) ∧
    -9223372036854775808 ≤ n ∧ n ≤ 9223372036854775807) r.int64
  float : r.Requires "number" (fun v x => ∃ n, v = .number n ∧ x = n.toFloat) r.float
  bool : r.Requires "boolean" (fun v b => v = .bool b) r.bool
  list : r.Requires "list" (fun v rs => ∃ items, v = .array items ∧
    rs = items.mapIdx fun i w => ⟨r.codec, w, r.path ++ "[" ++ toString i ++ "]"⟩) r.list
  custom_null : r.value = .null → ∀ scalar t, r.custom scalar t = .error (.missingField r.path)
  -- only the error of a scalar of another type has no path
  custom_path : ∀ scalar t e, r.custom scalar t = .error e → e.path? = some r.path ∨
    ∃ registered requested, e = .scalarTypeMismatch scalar.name registered requested ∧
      e.path? = none
  deserialize_path : ∀ {α : Type} (shape : Shape α) e, r.deserialize shape = .error e →
    e.path? = some r.path
  optional_none_iff : ∀ {α : Type} (read : Reader ι → Except DecodeError α),
    r.optional read = .ok none ↔ r.value = .null
  optional_some : ∀ {α : Type} (read : Reader ι → Except DecodeError α), r.value ≠ .null →
    r.optional read = (read r).map some

theorem isNull_iff (r : Reader ι) : r.isNull = true ↔ r.value = .null := Json.isNull_iff r.value

theorem path?_unexpected (r : Reader ι) (expected : String) :
    (r.unexpected expected).path? = some r.path := by
  unfold unexpected
  split <;> rfl

/-- An accessor that succeeds on one sort of value, and fails in the one way on all others, requires
a value of that sort. -/
theorem requires_of {r : Reader ι} {expected : String} {Holds : Json → α → Prop}
    {answer : Except DecodeError α} (hnull : ∀ a, ¬Holds .null a)
    (hok : ∀ a, Holds r.value a → answer = .ok a)
    (hfail : (∀ a, ¬Holds r.value a) → answer = .error (r.unexpected expected)) :
    r.Requires expected Holds answer := by
  by_cases h : ∃ a, Holds r.value a
  · obtain ⟨a, ha⟩ := h
    have hans := hok a ha
    constructor
    · intro b
      constructor
      · intro hb
        obtain rfl : a = b := by simpa [hans] using hb
        exact ha
      · exact hok b
    · intro hv
      exact absurd (hv ▸ ha) (hnull a)
    · intro _ hnone
      exact absurd ha (hnone a)
    · intro e he
      simp [hans] at he
  · have hnone : ∀ a, ¬Holds r.value a := fun a ha => h ⟨a, ha⟩
    have hans := hfail hnone
    constructor
    · intro b
      simp [hans, hnone b]
    · intro hv
      rw [hans, unexpected, if_pos ((isNull_iff r).mpr hv)]
    · intro hv _
      rw [hans, unexpected, if_neg (mt (isNull_iff r).mp hv)]
    · intro e he
      obtain rfl : r.unexpected expected = e := by simpa [hans] using he
      exact path?_unexpected r expected

theorem requires_string (r : Reader ι) :
    r.Requires "string" (fun v s => v = .string s) r.string := by
  apply requires_of
  · simp
  · intro s hs
    simp only [string, hs]
  · intro hnone
    unfold string
    split
    · rename_i s hs
      exact absurd hs (hnone s)
    · rfl

theorem requires_bool (r : Reader ι) :
    r.Requires "boolean" (fun v b => v = .bool b) r.bool := by
  apply requires_of
  · simp
  · intro b hb
    simp only [bool, hb]
  · intro hnone
    unfold bool
    split
    · rename_i b hb
      exact absurd hb (hnone b)
    · rfl

theorem requires_float (r : Reader ι) :
    r.Requires "number" (fun v x => ∃ n, v = .number n ∧ x = n.toFloat) r.float := by
  apply requires_of
  · simp
  · rintro x ⟨n, hn, rfl⟩
    simp only [float, hn]
  · intro hnone
    unfold float
    split
    · rename_i n hn
      exact absurd ⟨n, hn, rfl⟩ (hnone _)
    · rfl

theorem requires_int64 (r : Reader ι) :
    r.Requires "integer" (fun v n => ∃ fits, v = .number (.int n fits) ∧
      -9223372036854775808 ≤ n ∧ n ≤ 9223372036854775807) r.int64 := by
  apply requires_of
  · simp
  · rintro n ⟨fits, hn, hbounds⟩
    have hsome := (JsonNumber.toInt64?_eq_some_iff (.int n fits) n).mpr ⟨fits, rfl, hbounds⟩
    simp only [int64, hn, hsome]
  · intro hnone
    unfold int64
    split
    · rename_i n hn
      split
      · rename_i m hm
        obtain ⟨fits, rfl, hbounds⟩ := (JsonNumber.toInt64?_eq_some_iff n m).mp hm
        exact absurd ⟨fits, hn, hbounds⟩ (hnone m)
      · rfl
    · rfl

theorem requires_list (r : Reader ι) :
    r.Requires "list" (fun v rs => ∃ items, v = .array items ∧
      rs = items.mapIdx fun i w => ⟨r.codec, w, r.path ++ "[" ++ toString i ++ "]"⟩) r.list := by
  apply requires_of
  · simp
  · rintro rs ⟨items, hv, rfl⟩
    exact list_array hv
  · intro hnone
    exact list_of_ne fun items hv => hnone _ ⟨items, hv, rfl⟩

/-- Whatever goes wrong with a scalar, the error is under the path, unless the scalar is of another
type. -/
theorem path?_decodeScalarAt {c : Codec ι} {scalar : ScalarType ι} {t : ι} {v : Json}
    {path : String} {e : DecodeError} (h : c.decodeScalarAt scalar t v path = .error e) :
    e.path? = some path ∨
      ∃ registered requested, e = .scalarTypeMismatch scalar.name registered requested := by
  unfold Codec.decodeScalarAt at h
  split at h
  · cases h
    exact .inl rfl
  · split at h
    · split at h
      · split at h
        · cases h
        · cases h
          exact .inl rfl
      · cases h
        exact .inl rfl
    · cases h
      exact .inr ⟨_, _, rfl⟩

theorem answers (r : Reader ι) : r.Answers where
  string := r.requires_string
  int64 := r.requires_int64
  float := r.requires_float
  bool := r.requires_bool
  list := r.requires_list
  custom_null hv scalar t := by
    rw [custom, if_pos ((isNull_iff r).mpr hv)]
  custom_path scalar t e he := by
    unfold custom at he
    split at he
    · cases he
      exact .inl rfl
    · rcases path?_decodeScalarAt he with h | ⟨registered, requested, rfl⟩
      · exact .inl h
      · exact .inr ⟨registered, requested, rfl, rfl⟩
  deserialize_path shape e he := by
    cases hread : shape.read r.value with
    | ok a => simp [deserialize, Codec.decodeAt, hread, Except.mapError] at he
    | error why =>
      obtain rfl : DecodeError.json r.path (.ofMismatch why) = e := by
        simpa [deserialize, Codec.decodeAt, hread, Except.mapError] using he
      rfl
  optional_none_iff read := by
    by_cases hv : r.value = .null
    · simp [optional, (isNull_iff r).mpr hv, hv]
    · have hnull : r.isNull = false := by simpa using mt (isNull_iff r).mp hv
      cases hread : read r <;> simp [optional, hnull, hread, hv, Except.map]
  optional_some read hv := by
    rw [optional, if_neg (mt (isNull_iff r).mp hv)]

/-- A reader can follow steps with names exactly as far as they lead in the value it began at. It
stands at the value they lead to, under the path that they are written as, and answers for it. -/
theorem stands_where_path_says (codec : Codec ι) (tree : Json) (steps : List Step)
    (hnames : ∀ name, Step.field name ∈ steps → name ≠ "") :
    (∀ v, tree.Reaches steps v ↔ ∃ r, (root codec tree).follow steps = .ok r ∧ r.value = v) ∧
      ∀ r, (root codec tree).follow steps = .ok r →
        r.codec = codec ∧ r.path = Step.displayPath steps ∧ r.Answers := by
  refine ⟨fun v => reaches_iff steps (root codec tree) v, fun r hr => ?_⟩
  obtain ⟨hcodec, hpath⟩ := follow_root hr hnames
  exact ⟨hcodec, hpath, r.answers⟩

/-- A number where a name is asked for, behind a position. -/
theorem stands_where_path_says_number :
    let tree : Json := .object
      [("users", .array [.object [("id", .string "1")], .object [("id", .ofNat 2 (by decide))]])]
    let steps : List Step := [.field "users", .element 1, .field "id"]
    (∀ name, Step.field name ∈ steps → name ≠ "") ∧ tree.Reaches steps (.ofNat 2 (by decide)) ∧
      ∃ r, (root (.standard : Codec TextDomain) tree).follow steps = .ok r ∧
        r.string = .error (.unexpectedType "users[1].id" "string" "number") := by
  intro tree steps
  have hnames : ∀ name, Step.field name ∈ steps → name ≠ "" := by
    simp [steps]
  obtain ⟨hreaches, hstands⟩ :=
    stands_where_path_says (.standard : Codec TextDomain) tree steps hnames
  have hfollow : (root (.standard : Codec TextDomain) tree).follow steps =
      .ok ⟨.standard, .ofNat 2 (by decide), "users[1].id"⟩ := by
    rfl
  obtain ⟨-, -, hanswers⟩ := hstands _ hfollow
  refine ⟨hnames, (hreaches _).mpr ⟨_, hfollow, rfl⟩, _, hfollow, ?_⟩
  exact hanswers.string.unexpected (by simp [Json.ofNat]) (by simp [Json.ofNat])

end Reader

end GraphClient
