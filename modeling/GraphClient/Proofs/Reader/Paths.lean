import GraphClient.Proofs.Reader.Places

/-!
# What a path tells

The path of a reader is one text, in which the steps that it has followed stand one behind the
other. Where names are those of GraphQL, the text can be taken apart again: a name goes on up to the
next dot or bracket, and the digits of a position up to the bracket that closes it. Servers write
the paths of their errors in the same way, and these lead to values of the same response.
-/

namespace GraphClient

/-! ### Texts that can be taken apart -/

section Cuts

variable {p : Char → Bool} {cs ds rest rest' : List Char}

/-- Characters of one sort are cut off in front of the first one that is not of that sort. -/
theorem takeWhile_append_of_ends (hcs : ∀ c ∈ cs, p c = true)
    (hrest : ∀ c ∈ rest.head?, p c = false) : (cs ++ rest).takeWhile p = cs := by
  rw [List.takeWhile_append_of_pos hcs]
  cases rest with
  | nil => exact List.append_nil cs
  | cons c rest => simp [hrest c rfl]

/-- So both parts can be told from the whole. -/
theorem append_inj_of_ends (hcs : ∀ c ∈ cs, p c = true) (hds : ∀ c ∈ ds, p c = true)
    (hrest : ∀ c ∈ rest.head?, p c = false) (hrest' : ∀ c ∈ rest'.head?, p c = false)
    (h : cs ++ rest = ds ++ rest') : cs = ds ∧ rest = rest' := by
  have hsame : cs = ds := by
    calc
      cs = (cs ++ rest).takeWhile p := (takeWhile_append_of_ends hcs hrest).symm
      _ = (ds ++ rest').takeWhile p := by rw [h]
      _ = ds := takeWhile_append_of_ends hds hrest'
  subst hsame
  exact ⟨rfl, List.append_cancel_left h⟩

end Cuts

/-- A number that a bracket closes can be told from its digits. -/
theorem position_append_inj {i j : Nat} {rest rest' : List Char}
    (h : Nat.toDigits 10 i ++ ']' :: rest = Nat.toDigits 10 j ++ ']' :: rest') :
    i = j ∧ rest = rest' := by
  have hdigits : ∀ k, ∀ c ∈ Nat.toDigits 10 k, c.isDigit = true := fun _ _ hc =>
    Nat.isDigit_of_mem_toDigits (by decide) (by decide) hc
  have hcloses : ∀ tail : List Char, ∀ c ∈ (']' :: tail).head?, c.isDigit = false := by
    intro tail c hc
    obtain rfl : ']' = c := by simpa using hc
    decide
  obtain ⟨hsame, htail⟩ :=
    append_inj_of_ends (hdigits i) (hdigits j) (hcloses rest) (hcloses rest') h
  refine ⟨?_, (List.cons.inj htail).2⟩
  calc
    i = Nat.ofDigitChars 10 (Nat.toDigits 10 i) 0 := Nat.ofDigitChars_ten_toDigits.symm
    _ = Nat.ofDigitChars 10 (Nat.toDigits 10 j) 0 := by rw [hsame]
    _ = j := Nat.ofDigitChars_ten_toDigits

/-! ### Steps in a path -/

/-- A name of GraphQL: a letter or an underscore, and then letters, digits and underscores. -/
def isGraphQLName (name : String) : Bool :=
  match name.toList with
  | [] => false
  | c :: cs => (c.isAlpha || c == '_') && cs.all fun d => d.isAlphanum || d == '_'

namespace Step

/-- A name in a path goes on up to a dot or a bracket. -/
def staysInName (c : Char) : Bool := c != '.' && c != '['

structure IsLegible (name : String) : Prop where
  ne_empty : name ≠ ""
  stays : ∀ c ∈ name.toList, staysInName c = true

theorem staysInName_of_isAlphanum {c : Char} (h : c.isAlphanum = true ∨ c = '_') :
    staysInName c = true := by
  rcases h with h | rfl
  · have hdot : c ≠ '.' := by
      rintro rfl
      revert h
      decide
    have hbracket : c ≠ '[' := by
      rintro rfl
      revert h
      decide
    simp [staysInName, hdot, hbracket]
  · decide

theorem isLegible_of_isGraphQLName {name : String} (h : isGraphQLName name = true) :
    IsLegible name := by
  unfold isGraphQLName at h
  cases hname : name.toList with
  | nil => simp [hname] at h
  | cons c cs =>
    simp only [hname, Bool.and_eq_true, Bool.or_eq_true, beq_iff_eq, List.all_eq_true] at h
    obtain ⟨hc, hcs⟩ := h
    have hfirst : c.isAlphanum = true ∨ c = '_' := by
      rcases hc with hc | hc
      · exact .inl (by simp [Char.isAlphanum, hc])
      · exact .inr hc
    constructor
    · rintro rfl
      simp at hname
    · intro d hd
      rw [hname] at hd
      rcases List.mem_cons.mp hd with rfl | hd
      · exact staysInName_of_isAlphanum hfirst
      · exact staysInName_of_isAlphanum (hcs d hd)

def AreLegible (steps : List Step) : Prop := ∀ name, .field name ∈ steps → IsLegible name

theorem areLegible_of_isGraphQLName {steps : List Step}
    (h : ∀ name, .field name ∈ steps → isGraphQLName name = true) : AreLegible steps :=
  fun name hname => isLegible_of_isGraphQLName (h name hname)

theorem AreLegible.head {name : String} {rest : List Step}
    (h : AreLegible (.field name :: rest)) : IsLegible name := h name List.mem_cons_self

theorem AreLegible.tail {s : Step} {rest : List Step} (h : AreLegible (s :: rest)) :
    AreLegible rest := fun name hname => h name (List.mem_cons_of_mem s hname)

def trail (steps : List Step) : List Char := (String.join (steps.map (display false))).toList

@[simp] theorem trail_nil : trail [] = [] := by
  simp [trail]

@[simp] theorem trail_field (name : String) (rest : List Step) :
    trail (.field name :: rest) = '.' :: (name.toList ++ trail rest) := by
  simp [trail, display]

@[simp] theorem trail_element (i : Nat) (rest : List Step) :
    trail (.element i :: rest) = '[' :: (Nat.toDigits 10 i ++ ']' :: trail rest) := by
  simp [trail, display]

/-- What stands behind a name does not go on with it. -/
theorem head_trail (steps : List Step) : ∀ c ∈ (trail steps).head?, staysInName c = false := by
  intro c hc
  cases steps with
  | nil => simp at hc
  | cons s rest =>
    cases s with
    | field name =>
      obtain rfl : '.' = c := by simpa using hc
      decide
    | element i =>
      obtain rfl : '[' = c := by simpa using hc
      decide

theorem name_append_trail_inj {name name' : String} {rest rest' : List Step}
    (hname : IsLegible name) (hname' : IsLegible name')
    (h : name.toList ++ trail rest = name'.toList ++ trail rest') :
    name = name' ∧ trail rest = trail rest' := by
  obtain ⟨hsame, htail⟩ :=
    append_inj_of_ends hname.stays hname'.stays (head_trail rest) (head_trail rest') h
  exact ⟨String.toList_inj.mp hsame, htail⟩

/-- Steps behind others can be told from their characters. -/
theorem trail_inj {steps steps' : List Step} (hsteps : AreLegible steps)
    (hsteps' : AreLegible steps') (h : trail steps = trail steps') : steps = steps' := by
  induction steps generalizing steps' with
  | nil =>
    cases steps' with
    | nil => rfl
    | cons t rest' => cases t <;> simp at h
  | cons s rest ih =>
    cases steps' with
    | nil => cases s <;> simp at h
    | cons t rest' =>
      -- the first character tells a name, behind its dot, from a position, behind its bracket
      cases s with
      | field name =>
        cases t with
        | field name' =>
          rw [trail_field, trail_field] at h
          obtain ⟨rfl, htail⟩ :=
            name_append_trail_inj hsteps.head hsteps'.head (List.cons.inj h).2
          rw [ih hsteps.tail hsteps'.tail htail]
        | element i => simp at h
      | element i =>
        cases t with
        | field name' => simp at h
        | element i' =>
          rw [trail_element, trail_element] at h
          obtain ⟨rfl, htail⟩ := position_append_inj (List.cons.inj h).2
          rw [ih hsteps.tail hsteps'.tail htail]

/-- A path begins with a name, or else it is written like steps behind others. -/
theorem displayPath_cases (steps : List Step) :
    (∃ name rest, steps = .field name :: rest ∧
      (displayPath steps).toList = name.toList ++ trail rest) ∨
    (displayPath steps).toList = trail steps := by
  cases steps with
  | nil => exact .inr trail_nil.symm
  | cons s rest =>
    cases s with
    | field name => exact .inl ⟨name, rest, rfl, by simp [displayPath, display, trail]⟩
    | element i => exact .inr (by simp [displayPath, display, trail])

/-- Steps behind others do not begin with a name. -/
theorem name_append_ne_trail {name : String} (hname : IsLegible name) (tail : List Char)
    (steps : List Step) : name.toList ++ tail ≠ trail steps := by
  intro h
  cases hcs : name.toList with
  | nil => exact hname.ne_empty (String.toList_eq_nil_iff.mp hcs)
  | cons c cs =>
    have hstays := hname.stays c (by simp [hcs])
    have hends := head_trail steps c (by simp [← h, hcs])
    simp [hstays] at hends

/-- Steps can be told from the path that they are written as. -/
theorem displayPath_inj {steps steps' : List Step} (hsteps : AreLegible steps)
    (hsteps' : AreLegible steps') (h : displayPath steps = displayPath steps') :
    steps = steps' := by
  have hchars : (displayPath steps).toList = (displayPath steps').toList := by rw [h]
  rcases displayPath_cases steps with ⟨name, rest, rfl, hs⟩ | hs
  · rcases displayPath_cases steps' with ⟨name', rest', rfl, hs'⟩ | hs'
    · rw [hs, hs'] at hchars
      obtain ⟨rfl, htail⟩ := name_append_trail_inj hsteps.head hsteps'.head hchars
      rw [trail_inj hsteps.tail hsteps'.tail htail]
    · rw [hs, hs'] at hchars
      exact absurd hchars (name_append_ne_trail hsteps.head _ _)
  · rcases displayPath_cases steps' with ⟨name', rest', rfl, hs'⟩ | hs'
    · rw [hs, hs'] at hchars
      exact absurd hchars.symm (name_append_ne_trail hsteps'.head _ _)
    · rw [hs, hs'] at hchars
      exact trail_inj hsteps hsteps' hchars

end Step

variable {ι : Type} [Domains ι]

namespace Reader

/-! ### Errors under a path -/

inductive Fails (r : Reader ι) (e : DecodeError) : Prop
  | string (h : r.string = .error e)
  | int64 (h : r.int64 = .error e)
  | float (h : r.float = .error e)
  | bool (h : r.bool = .error e)
  | list (h : r.list = .error e)
  | custom (scalar : ScalarType ι) (t : ι) (h : r.custom scalar t = .error e)
  | deserialize {α : Type} (shape : Shape α) (h : r.deserialize shape = .error e)

/-- If an error says where it happened, it was at the reader. -/
theorem Fails.path_eq {r : Reader ι} {e : DecodeError} {path : String} (h : r.Fails e)
    (hpath : e.path? = some path) : r.path = path := by
  have hplace : e.path? = some r.path ∨ e.path? = none := by
    cases h with
    | string h => exact .inl (r.answers.string.path e h)
    | int64 h => exact .inl (r.answers.int64.path e h)
    | float h => exact .inl (r.answers.float.path e h)
    | bool h => exact .inl (r.answers.bool.path e h)
    | list h => exact .inl (r.answers.list.path e h)
    | custom scalar t h =>
      rcases r.answers.custom_path scalar t e h with hsome | ⟨_, _, _, hnone⟩
      · exact .inl hsome
      · exact .inr hnone
    | deserialize shape h => exact .inl (r.answers.deserialize_path shape e h)
  rcases hplace with hsome | hnone
  · exact Option.some.inj (hsome.symm.trans hpath)
  · rw [hnone] at hpath
    cases hpath

/-- Where steps lead in a tree does not depend on the codec. -/
theorem value_eq_of_follow {codec codec' : Codec ι} {tree : Json} {steps : List Step}
    {r r' : Reader ι} (hr : (root codec tree).follow steps = .ok r)
    (hr' : (root codec' tree).follow steps = .ok r') : r.value = r'.value := by
  have hreaches := (reaches_iff steps (root codec' tree) r'.value).mpr ⟨r', hr', rfl⟩
  obtain ⟨r₁, hr₁, hvalue⟩ := (reaches_iff steps (root codec tree) r'.value).mp hreaches
  obtain rfl : r = r₁ := Except.ok.inj (hr.symm.trans hr₁)
  exact hvalue

/-- Readers that came under one path by names of GraphQL have followed the same steps, and so have
those that errors with one path come from. In one tree they stand at one value. -/
theorem path_identifies_steps {codec codec' : Codec ι} {tree tree' : Json}
    {steps steps' : List Step} {r r' : Reader ι}
    (hnames : ∀ name, Step.field name ∈ steps → isGraphQLName name = true)
    (hnames' : ∀ name, Step.field name ∈ steps' → isGraphQLName name = true)
    (hr : (root codec tree).follow steps = .ok r)
    (hr' : (root codec' tree').follow steps' = .ok r') :
    (r.path = r'.path → steps = steps' ∧ (tree = tree' → r.value = r'.value)) ∧
      ∀ e e' path, r.Fails e → r'.Fails e' → e.path? = some path → e'.path? = some path →
        steps = steps' ∧ (tree = tree' → r.value = r'.value) := by
  have hlegible := Step.areLegible_of_isGraphQLName hnames
  have hlegible' := Step.areLegible_of_isGraphQLName hnames'
  have hpath := (follow_root hr fun name hn => (hlegible name hn).ne_empty).2
  have hpath' := (follow_root hr' fun name hn => (hlegible' name hn).ne_empty).2
  have hsame : r.path = r'.path → steps = steps' ∧ (tree = tree' → r.value = r'.value) := by
    intro h
    rw [hpath, hpath'] at h
    obtain rfl := Step.displayPath_inj hlegible hlegible' h
    refine ⟨rfl, ?_⟩
    rintro rfl
    exact value_eq_of_follow hr hr'
  refine ⟨hsame, ?_⟩
  intro e e' path he he' hp hp'
  exact hsame ((he.path_eq hp).trans (he'.path_eq hp').symm)

/-- Two accessors that fail on one number, and a path that differs by a bracket only. -/
theorem path_identifies_steps_users :
    let two : Json := .ofNat 2 (by decide)
    let tree : Json := .object [("users", .array [.object [("id", two)]]), ("users0", .null)]
    let steps : List Step := [.field "users", .element 0, .field "id"]
    let steps' : List Step := [.field "users0", .field "id"]
    let text : DecodeError := .unexpectedType "users[0].id" "string" "number"
    let truth : DecodeError := .unexpectedType "users[0].id" "boolean" "number"
    (∀ name, Step.field name ∈ steps → isGraphQLName name = true) ∧
      (∀ name, Step.field name ∈ steps' → isGraphQLName name = true) ∧
      ∃ r₁ r₂ r₃ : Reader TextDomain, (root .standard tree).follow steps = .ok r₁ ∧
        (root .labels tree).follow steps = .ok r₂ ∧ (root .standard tree).follow steps' = .ok r₃ ∧
        r₁.Fails text ∧ r₂.Fails truth ∧ r₁.value = r₂.value ∧ r₁.path ≠ r₃.path := by
  intro two tree steps steps' text truth
  have hnames : ∀ name, Step.field name ∈ steps → isGraphQLName name = true := by
    simp only [steps, List.mem_cons, Step.field.injEq, reduceCtorEq, List.not_mem_nil, or_false,
      false_or, forall_eq_or_imp, forall_eq]
    decide
  have hnames' : ∀ name, Step.field name ∈ steps' → isGraphQLName name = true := by
    simp only [steps', List.mem_cons, Step.field.injEq, List.not_mem_nil, or_false,
      forall_eq_or_imp, forall_eq]
    decide
  have h₁ : (root .standard tree).follow steps =
      .ok (⟨.standard, two, "users[0].id"⟩ : Reader TextDomain) := by rfl
  have h₂ : (root .labels tree).follow steps = .ok ⟨.labels, two, "users[0].id"⟩ := by rfl
  have h₃ : (root .standard tree).follow steps' =
      .ok (⟨.standard, .null, "users0.id"⟩ : Reader TextDomain) := by rfl
  have htext : (⟨.standard, two, "users[0].id"⟩ : Reader TextDomain).Fails text := .string rfl
  have htruth : (⟨.labels, two, "users[0].id"⟩ : Reader TextDomain).Fails truth := .bool rfl
  refine ⟨hnames, hnames', _, _, _, h₁, h₂, h₃, htext, htruth, ?_, ?_⟩
  · exact ((path_identifies_steps hnames hnames h₁ h₂).2 _ _ _ htext htruth rfl rfl).2 rfl
  · intro h
    have hsame := ((path_identifies_steps hnames hnames' h₁ h₃).1 h).1
    simp [steps, steps'] at hsame

end Reader

/-! ### Paths of the server's errors -/

namespace PathSegment

def step : PathSegment → Step
  | field name => .field name
  | index i => .element i.toNat

theorem display_step (s : PathSegment) (first : Bool) : s.step.display first = s.display first := by
  cases s <;> rfl

/-- Segments are written as the steps are. -/
theorem displayPath_step (path : List PathSegment) :
    Step.displayPath (path.map step) = displayPath path := by
  cases path with
  | nil => rfl
  | cons s rest =>
    simp only [List.map_cons, Step.displayPath, displayPath, display_step, List.map_map,
      Function.comp_def]

theorem ne_empty_of_mem_map_step {path : List PathSegment}
    (hnames : ∀ name, field name ∈ path → name ≠ "") :
    ∀ name, Step.field name ∈ path.map step → name ≠ "" := by
  intro name hname
  obtain ⟨s, hs, heq⟩ := List.mem_map.mp hname
  cases s with
  | field name' =>
    obtain rfl : name' = name := by simpa [step] using heq
    exact hnames name' hs
  | index i => simp [step] at heq

end PathSegment

namespace ServerError

/-- Between the brackets that follow the message of an error stands the path of a reader that has
followed the segments, in any tree that has the elements on the way. -/
theorem display_shows_path (codec : Codec ι) {tree v : Json} {e : ServerError}
    {path : List PathSegment} (hpath : e.path = some path)
    (hnames : ∀ name, PathSegment.field name ∈ path → name ≠ "")
    (hv : tree.Reaches (path.map PathSegment.step) v) :
    ∃ r, (Reader.root codec tree).follow (path.map PathSegment.step) = .ok r ∧ r.value = v ∧
      e.display = e.message ++ " (at " ++ r.path ++ ")" := by
  obtain ⟨r, hr, hvalue⟩ := (Reader.reaches_iff _ (Reader.root codec tree) v).mp hv
  refine ⟨r, hr, hvalue, ?_⟩
  have hrpath := (Reader.follow_root hr (PathSegment.ne_empty_of_mem_map_step hnames)).2
  rw [PathSegment.displayPath_step] at hrpath
  rw [display, hpath, hrpath]

/-- A position in front, a name behind it, and a position behind the name. -/
theorem display_shows_path_nested :
    let path : List PathSegment := [.index 1, .field "users", .index 0]
    let e : ServerError := { message := "no such user", path := some path }
    let tree : Json := .array [.null, .object [("users", .array [.bool true])]]
    e.path = some path ∧ (∀ name, PathSegment.field name ∈ path → name ≠ "") ∧
      tree.Reaches (path.map PathSegment.step) (.bool true) ∧
      ∃ r : Reader TextDomain,
        (Reader.root .standard tree).follow (path.map PathSegment.step) = .ok r ∧
        r.path = "[1].users[0]" ∧ e.display = "no such user (at " ++ r.path ++ ")" := by
  intro path e tree
  have hnames : ∀ name, PathSegment.field name ∈ path → name ≠ "" := by
    simp [path]
  have hv : tree.Reaches (path.map PathSegment.step) (.bool true) :=
    .step (.element rfl) (.step (.member rfl) (.step (.element rfl) (.here _)))
  obtain ⟨r, hr, -, hdisplay⟩ :=
    display_shows_path (.standard : Codec TextDomain) (e := e) rfl hnames hv
  have hroot : (Reader.root .standard tree).follow (path.map PathSegment.step) =
      .ok (⟨.standard, .bool true, "[1].users[0]"⟩ : Reader TextDomain) := by rfl
  have hpath : r.path = "[1].users[0]" := by
    rw [Except.ok.inj (hr.symm.trans hroot)]
  exact ⟨rfl, hnames, hv, r, hr, hpath, hdisplay⟩

end ServerError

end GraphClient
