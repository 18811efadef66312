import GraphClient.Proofs.Json.Integers
import GraphClient.Proofs.Json.Strings

/-!
# Reading the values that were written

A value without floating-point numbers is read back from its compact text: the members of every
object come out in name order, and nothing else changes. How deep the value nests is bounded by what
the reader allows, and nothing is assumed of its length.
-/

namespace GraphClient.Json

open Text (Source)

mutual

/-- How many lists and objects lie around the deepest place of a value, itself included. -/
def depth : Json → Nat
  | array items => depthItems items + 1
  | object members => depthMembers members + 1
  | _ => 0

def depthItems : List Json → Nat
  | [] => 0
  | v :: rest => max (depth v) (depthItems rest)

def depthMembers : List (String × Json) → Nat
  | [] => 0
  | (_, v) :: rest => max (depth v) (depthMembers rest)

end

mutual

def IsIntegral : Json → Prop
  | number (.float _) => False
  | array items => AreIntegral items
  | object members => HasIntegralMembers members
  | _ => True

def AreIntegral : List Json → Prop
  | [] => True
  | v :: rest => IsIntegral v ∧ AreIntegral rest

def HasIntegralMembers : List (String × Json) → Prop
  | [] => True
  | (_, v) :: rest => IsIntegral v ∧ HasIntegralMembers rest

end

theorem areIntegral_iff (items : List Json) :
    AreIntegral items ↔ ∀ v ∈ items, v.IsIntegral := by
  induction items with
  | nil => simp [AreIntegral]
  | cons v rest ih => simp only [AreIntegral, ih, List.forall_mem_cons]

theorem hasIntegralMembers_iff (members : List (String × Json)) :
    HasIntegralMembers members ↔ ∀ p ∈ members, p.2.IsIntegral := by
  induction members with
  | nil => simp [HasIntegralMembers]
  | cons p rest ih => simp only [HasIntegralMembers, ih, List.forall_mem_cons]

theorem depthItems_le_iff (items : List Json) (d : Nat) :
    depthItems items ≤ d ↔ ∀ v ∈ items, v.depth ≤ d := by
  induction items with
  | nil => simp [depthItems]
  | cons v rest ih => simp only [depthItems, Nat.max_le, ih, List.forall_mem_cons]

theorem depthMembers_le_iff (members : List (String × Json)) (d : Nat) :
    depthMembers members ≤ d ↔ ∀ p ∈ members, p.2.depth ≤ d := by
  induction members with
  | nil => simp [depthMembers]
  | cons p rest ih => simp only [depthMembers, Nat.max_le, ih, List.forall_mem_cons]

mutual

/-- Writing a value in front of a text makes the text no shorter. -/
theorem length_write (v : Json) (rest : List Char) : rest.length ≤ (v.write rest).length := by
  cases v with
  | null => simp only [write, List.length_cons]; omega
  | bool b => cases b <;> simp only [write, List.length_cons] <;> omega
  | number n => simp only [write, List.length_append]; omega
  | string s => simp only [write, writeString, List.length_cons, List.length_append]; omega
  | array items =>
    cases items with
    | nil => simp only [write, List.length_cons]; omega
    | cons v items =>
      have hv := length_write v (writeItems items rest)
      have hitems := length_writeItems items rest
      simp only [write, List.length_cons]
      omega
  | object members =>
    cases members with
    | nil => simp only [write, List.length_cons]; omega
    | cons p members =>
      obtain ⟨name, v⟩ := p
      have hv := length_write v (writeMembers members rest)
      have hmembers := length_writeMembers members rest
      simp only [write, writeString, List.length_cons, List.length_append]
      omega

theorem length_writeItems (items : List Json) (rest : List Char) :
    items.length + rest.length < (writeItems items rest).length := by
  cases items with
  | nil => simp only [writeItems, List.length_cons, List.length_nil]; omega
  | cons v items =>
    have hv := length_write v (writeItems items rest)
    have hitems := length_writeItems items rest
    simp only [writeItems, List.length_cons]
    omega

theorem length_writeMembers (members : List (String × Json)) (rest : List Char) :
    members.length + rest.length < (writeMembers members rest).length := by
  cases members with
  | nil => simp only [writeMembers, List.length_cons, List.length_nil]; omega
  | cons p members =>
    obtain ⟨name, v⟩ := p
    have hv := length_write v (writeMembers members rest)
    have hmembers := length_writeMembers members rest
    simp only [writeMembers, writeString, List.length_cons, List.length_append]
    omega

end

/-- Every character takes up at least a byte. -/
theorem length_le_size (cs : List Char) : cs.length ≤ Source.size (.ofChars cs) := by
  induction cs with
  | nil => simp
  | cons c cs ih =>
    have hpos := c.utf8Size_pos
    simp only [Source.ofChars_cons, Source.size_cons, Text.Glyph.size_char, List.length_cons]
    omega

/-- The text behind the brace of an object is longer than the object has members. -/
theorem length_lt_size_members (name : String) (v : Json) (members : List (String × Json))
    (rest : List Char) : members.length < Source.size
      (.ofChars (writeString name (':' :: v.write (writeMembers members rest)))) := by
  have hsize := length_le_size (writeString name (':' :: v.write (writeMembers members rest)))
  have hv := length_write v (writeMembers members rest)
  have hmembers := length_writeMembers members rest
  have hname : (v.write (writeMembers members rest)).length <
      (writeString name (':' :: v.write (writeMembers members rest))).length := by
    simp only [writeString, List.length_cons, List.length_append]
    omega
  omega

end GraphClient.Json

namespace GraphClient.Scan

open Text (Source)

variable {α : Type}

/-- What a value can begin with: no blank, and none of the marks that stand behind values. -/
def StartsValue (c : Char) : Prop :=
  isBlank c = false ∧ c ≠ ',' ∧ c ≠ ']' ∧ c ≠ '\x7d'

instance (c : Char) : Decidable (StartsValue c) := inferInstanceAs (Decidable (_ ∧ _))

/-- A sign or a digit can begin a value, but no list or object. -/
theorem startsValue_of_number {c : Char} (hc : c = '-' ∨ c.isDigit = true) :
    StartsValue c ∧ c ≠ '[' ∧ c ≠ '\x7b' := by
  rcases hc with rfl | hc
  · decide
  · have hne : ∀ d : Char, d.isDigit = false → c ≠ d := by
      rintro d hd rfl
      simp [hc] at hd
    refine ⟨⟨?_, hne ',' rfl, hne ']' rfl, hne '\x7d' rfl⟩, hne '[' rfl, hne '\x7b' rfl⟩
    simp only [isBlank, Bool.or_eq_false_iff, beq_eq_false_iff_ne]
    exact ⟨⟨⟨hne ' ' rfl, hne '\n' rfl⟩, hne '\t' rfl⟩, hne '\r' rfl⟩

/-- The first character of an integer. -/
theorem writeInt_head (n : Int) :
    ∃ c cs, Json.writeInt n = c :: cs ∧ (c = '-' ∨ c.isDigit = true) := by
  rcases writeInt_eq n with ⟨-, hw⟩ | ⟨-, hw⟩
  · exact ⟨'-', _, hw, .inl rfl⟩
  · cases hd : Nat.toDigits 10 n.natAbs with
    | nil => exact absurd hd Nat.toDigits_ne_nil
    | cons c ds =>
      have hmem : c ∈ Nat.toDigits 10 n.natAbs := by simp [hd]
      have hc : c.isDigit = true := Nat.isDigit_of_mem_toDigits (by decide) (by decide) hmem
      exact ⟨c, ds, by rw [hw, hd], .inr hc⟩

/-- The first character of a value that is no list or object. -/
theorem plain_head {v : Json} (hv : v.IsIntegral) (hplain : v.depth = 0) (rest : List Char) :
    ∃ c cs, v.write rest = c :: cs ∧ StartsValue c ∧ c ≠ '[' ∧ c ≠ '\x7b' := by
  cases v with
  | null => exact ⟨'n', _, rfl, by decide⟩
  | bool b =>
    cases b with
    | true => exact ⟨'t', _, rfl, by decide⟩
    | false => exact ⟨'f', _, rfl, by decide⟩
  | number n =>
    cases n with
    | float x => exact hv.elim
    | int n fits =>
      obtain ⟨c, cs, hhead, hc⟩ := writeInt_head n
      refine ⟨c, cs ++ rest, ?_, startsValue_of_number hc⟩
      rw [Json.write, Json.writeNumber, hhead, List.cons_append]
  | string s => exact ⟨'"', _, rfl, by decide⟩
  | array items => cases hplain
  | object members => cases hplain

/-- The first character of a written value. -/
theorem write_head {v : Json} (hv : v.IsIntegral) (rest : List Char) :
    ∃ c cs, v.write rest = c :: cs ∧ StartsValue c := by
  by_cases hplain : v.depth = 0
  · obtain ⟨c, cs, hhead, hc, -⟩ := plain_head hv hplain rest
    exact ⟨c, cs, hhead, hc⟩
  cases v with
  | array items => cases items <;> exact ⟨'[', _, rfl, by decide⟩
  | object members => cases members <;> exact ⟨'\x7b', _, rfl, by decide⟩
  | null => exact absurd rfl hplain
  | bool b => exact absurd rfl hplain
  | number n => exact absurd rfl hplain
  | string s => exact absurd rfl hplain

theorem skipBlanks_char {c : Char} (hc : isBlank c = false) (rest : Source) :
    skipBlanks (.char c :: rest) = .char c :: rest := by
  rw [skipBlanks, if_neg (by simp [hc])]

theorem skipBlanks_brace (rest : Source) :
    skipBlanks (.char '\x7b' :: rest) = .char '\x7b' :: rest :=
  skipBlanks_char (by decide) rest

theorem endsNumber_cons {c : Char} {rest : List Char}
    (hc : c.isDigit = false ∧ c ≠ '.' ∧ c ≠ 'e' ∧ c ≠ 'E') : EndsNumber (c :: rest) := by
  intro d hd
  obtain rfl : c = d := by simpa using hd
  exact hc

theorem endsNumber_writeItems (items : List Json) (rest : List Char) :
    EndsNumber (Json.writeItems items rest) := by
  cases items with
  | nil => exact endsNumber_cons (by decide)
  | cons v items => exact endsNumber_cons (by decide)

theorem endsNumber_writeMembers (members : List (String × Json)) (rest : List Char) :
    EndsNumber (Json.writeMembers members rest) := by
  cases members with
  | nil => exact endsNumber_cons (by decide)
  | cons p members => exact endsNumber_cons (by decide)

/-- The first element of a list stands right behind the bracket. -/
theorem nextElement_first {v : Json} (hv : v.IsIntegral) (rest : List Char) :
    nextElement true (.ofChars (v.write rest)) = .ok (true, .ofChars (v.write rest)) := by
  obtain ⟨c, cs, hhead, hblank, hcomma, hbracket, -⟩ := write_head hv rest
  rw [hhead, Source.ofChars_cons, nextElement, skipBlanks_char hblank]
  split <;> simp_all

/-- Every later element stands right behind a comma. -/
theorem nextElement_comma {v : Json} (hv : v.IsIntegral) (rest : List Char) :
    nextElement false (.ofChars (',' :: v.write rest)) = .ok (true, .ofChars (v.write rest)) := by
  obtain ⟨c, cs, hhead, hblank, hcomma, hbracket, -⟩ := write_head hv rest
  have hskip : ∀ src : Source, skipBlanks (.char ',' :: src) = .char ',' :: src :=
    skipBlanks_char (by decide)
  simp only [hhead, Source.ofChars_cons, nextElement, hskip, skipBlanks_char hblank]
  split <;> simp_all

theorem nextMember_first (rest : Source) :
    nextMember true (.char '"' :: rest) = .ok (true, .char '"' :: rest) := rfl

theorem nextMember_comma (rest : Source) :
    nextMember false (.char ',' :: .char '"' :: rest) = .ok (true, .char '"' :: rest) := rfl

/-- An element that follows is read in front of all later ones. -/
theorem elements_cons {item : Source → Scan (α × Source)} {fuel : Nat} {first : Bool}
    {src mid after rest : Source} {a : α} {as : List α}
    (hnext : nextElement first src = .ok (true, mid)) (hitem : item mid = .ok (a, after))
    (htail : elements item fuel false after = .ok (as, rest)) :
    elements item (fuel + 1) first src = .ok (a :: as, rest) := by
  simp only [elements, hnext, bind, Except.bind, if_true, hitem, htail]
  rfl

/-- A member that follows is read in front of all later ones. -/
theorem members_cons {item : Source → Scan (α × Source)} {fuel : Nat} {first : Bool}
    {src mid inner after rest : Source} {name : String} {a : α} {as : List (String × α)}
    (hnext : nextMember first src = .ok (true, .char '"' :: mid))
    (hname : string mid = .ok (name, .char ':' :: inner)) (hitem : item inner = .ok (a, after))
    (htail : members item fuel false after = .ok (as, rest)) :
    members item (fuel + 1) first src = .ok ((name, a) :: as, rest) := by
  have hcolon : colon (.char ':' :: inner) = .ok ((), inner) := rfl
  simp only [members, hnext, bind, Except.bind, if_true, List.drop_succ_cons, List.drop_zero,
    hname, hcolon, hitem, htail]
  rfl

/-- A step of reading takes the text of a value for the value, whatever follows it. -/
def ReadsBack (item : Source → Scan (Json × Source)) (v : Json) : Prop :=
  ∀ rest, EndsNumber rest → item (.ofChars (v.write rest)) = .ok (v.canonical, .ofChars rest)

variable {item : Source → Scan (Json × Source)}

/-- The elements after the first are read up to the bracket. -/
theorem elements_writeItems {items : List Json}
    (hitems : ∀ v ∈ items, v.IsIntegral ∧ ReadsBack item v) (rest : List Char) {fuel : Nat}
    (hfuel : items.length < fuel) :
    elements item fuel false (.ofChars (Json.writeItems items rest)) =
      .ok (Json.canonicalItems items, .ofChars (']' :: rest)) := by
  induction items generalizing fuel with
  | nil =>
    obtain ⟨fuel, rfl⟩ := Nat.exists_eq_add_one_of_ne_zero (Nat.ne_of_gt hfuel)
    rfl
  | cons v items ih =>
    rw [List.length_cons] at hfuel
    obtain ⟨fuel, rfl⟩ := Nat.exists_eq_add_one_of_ne_zero (show fuel ≠ 0 by omega)
    obtain ⟨hv, hread⟩ := hitems v List.mem_cons_self
    have hfuel : items.length < fuel := by omega
    have htail := ih (fun w hw => hitems w (List.mem_cons_of_mem v hw)) hfuel
    have hitem := hread (Json.writeItems items rest) (endsNumber_writeItems items rest)
    exact elements_cons (nextElement_comma hv _) hitem htail

/-- A written list is read up to its end. -/
theorem list_write {v : Json} {items : List Json}
    (hitems : ∀ w ∈ v :: items, w.IsIntegral ∧ ReadsBack item w) (rest : List Char) :
    list item (.ofChars (v.write (Json.writeItems items rest))) =
      .ok (Json.canonicalItems (v :: items), .ofChars rest) := by
  have hfuel : items.length < Source.size (.ofChars (v.write (Json.writeItems items rest))) := by
    have hsize := Json.length_le_size (v.write (Json.writeItems items rest))
    have hv := Json.length_write v (Json.writeItems items rest)
    have hitems := Json.length_writeItems items rest
    omega
  have htail := elements_writeItems (fun w hw => hitems w (List.mem_cons_of_mem v hw)) rest hfuel
  obtain ⟨hv, hread⟩ := hitems v List.mem_cons_self
  have hitem := hread (Json.writeItems items rest) (endsNumber_writeItems items rest)
  rw [list, elements_cons (nextElement_first hv _) hitem htail]
  rfl

/-- The members after the first are read up to the brace. -/
theorem members_writeMembers {ms : List (String × Json)}
    (hms : ∀ p ∈ ms, ReadsBack item p.2) (rest : List Char) {fuel : Nat}
    (hfuel : ms.length < fuel) :
    members item fuel false (.ofChars (Json.writeMembers ms rest)) =
      .ok (Json.canonicalMembers ms, .ofChars ('\x7d' :: rest)) := by
  induction ms generalizing fuel with
  | nil =>
    obtain ⟨fuel, rfl⟩ := Nat.exists_eq_add_one_of_ne_zero (Nat.ne_of_gt hfuel)
    rfl
  | cons p ms ih =>
    obtain ⟨name, v⟩ := p
    rw [List.length_cons] at hfuel
    obtain ⟨fuel, rfl⟩ := Nat.exists_eq_add_one_of_ne_zero (show fuel ≠ 0 by omega)
    have hfuel : ms.length < fuel := by omega
    have htail := ih (fun q hq => hms q (List.mem_cons_of_mem _ hq)) hfuel
    have hitem := hms (name, v) List.mem_cons_self (Json.writeMembers ms rest)
      (endsNumber_writeMembers ms rest)
    exact members_cons (nextMember_comma _) (string_escape name _) hitem htail

/-- A written object is read up to its end. -/
theorem object_write {name : String} {v : Json} {ms : List (String × Json)}
    (hms : ∀ p ∈ (name, v) :: ms, ReadsBack item p.2) (rest : List Char) :
    object item (.ofChars (Json.writeString name (':' :: v.write (Json.writeMembers ms rest)))) =
      .ok (Json.canonicalMembers ((name, v) :: ms), .ofChars rest) := by
  have hfuel := Json.length_lt_size_members name v ms rest
  have htail := members_writeMembers (fun p hp => hms p (List.mem_cons_of_mem _ hp)) rest hfuel
  have hitem := hms (name, v) List.mem_cons_self (Json.writeMembers ms rest)
    (endsNumber_writeMembers ms rest)
  have hname := string_escape name (':' :: v.write (Json.writeMembers ms rest))
  have hread := members_cons (nextMember_first _) hname hitem htail
  exact (congrArg (settle closeObject) hread).trans rfl

/-- A value that is no list or object is read back from its first character on. -/
theorem plainValue_write {v : Json} (hv : v.IsIntegral) (hplain : v.depth = 0) {rest : List Char}
    (hrest : EndsNumber rest) :
    plainValue (.ofChars (v.write rest)) = .ok (v.canonical, .ofChars rest) := by
  cases v with
  | null => rfl
  | bool b => cases b <;> rfl
  | number n =>
    cases n with
    | float x => exact hv.elim
    | int n fits => exact plainValue_writeInt fits hrest
  | string s =>
    simp only [Json.write, Json.writeString, Source.ofChars_cons, plainValue, string_escape]
    rfl
  | array items => cases hplain
  | object members => cases hplain

/-- A value that is no list or object is read at any depth. -/
theorem readsBack_plain (depth : Nat) {v : Json} (hv : v.IsIntegral) (hplain : v.depth = 0) :
    ReadsBack (value depth) v := by
  intro rest hrest
  obtain ⟨c, cs, hhead, hstart, hlist, hobject⟩ := plain_head hv hplain rest
  have hread := plainValue_write hv hplain hrest
  have hskip := skipBlanks_char hstart.1 (.ofChars cs)
  rw [hhead, Source.ofChars_cons] at hread ⊢
  rw [value, hskip]
  split <;> simp_all

/-- Reading the text of a value gives the value in canonical form. -/
theorem readsBack_value (depth : Nat) {v : Json} (hv : v.IsIntegral) (hdepth : v.depth ≤ depth) :
    ReadsBack (value depth) v := by
  induction depth generalizing v with
  | zero => exact readsBack_plain 0 hv (Nat.le_zero.1 hdepth)
  | succ depth ih =>
    cases v with
    | array items =>
      have hdeep := (Json.depthItems_le_iff items depth).1 (Nat.le_of_succ_le_succ hdepth)
      have hints := (Json.areIntegral_iff items).1 hv
      have hitems : ∀ w ∈ items, w.IsIntegral ∧ ReadsBack (value depth) w := fun w hw =>
        ⟨hints w hw, ih (hints w hw) (hdeep w hw)⟩
      intro rest hrest
      cases items with
      | nil => rfl
      | cons w items =>
        have hread := list_write hitems rest
        have hskip : ∀ src : Source, skipBlanks (.char '[' :: src) = .char '[' :: src :=
          skipBlanks_char (by decide)
        simp only [Json.write, Source.ofChars_cons, value, hskip, hread, bind, Except.bind]
        rfl
    | object members =>
      have hdeep := (Json.depthMembers_le_iff members depth).1 (Nat.le_of_succ_le_succ hdepth)
      have hints := (Json.hasIntegralMembers_iff members).1 hv
      have hmembers : ∀ p ∈ members, ReadsBack (value depth) p.2 := fun p hp =>
        ih (hints p hp) (hdeep p hp)
      intro rest hrest
      cases members with
      | nil => rfl
      | cons p members =>
        obtain ⟨name, w⟩ := p
        have hread := object_write hmembers rest
        simp only [Json.write, Source.ofChars_cons, value, skipBlanks_brace, hread, bind, Except.bind]
        rfl
    | null => exact readsBack_plain _ hv rfl
    | bool b => exact readsBack_plain _ hv rfl
    | number n => exact readsBack_plain _ hv rfl
    | string s => exact readsBack_plain _ hv rfl

end GraphClient.Scan

namespace GraphClient.Json

open Text (Source)

theorem ofString_text (v : Json) : Source.ofString v.text = .ofChars (v.write []) := by
  rw [Source.ofString, text, String.toList_ofList]

/-- The text of a value is read back as the value in canonical form. -/
theorem ofSource_text {v : Json} (hv : v.IsIntegral) (hdepth : v.depth ≤ Scan.maxDepth) :
    ofSource (.ofString v.text) = .ok v.canonical := by
  have hread := Scan.readsBack_value Scan.maxDepth hv hdepth [] Scan.endsNumber_nil
  rw [ofString_text, ofSource, Scan.run, hread]
  rfl

/-- The bytes of a value's text are read back as the value in canonical form. -/
theorem parse_bytes {v : Json} (hv : v.IsIntegral) (hdepth : v.depth ≤ Scan.maxDepth) :
    parse v.bytes = .ok v.canonical := by
  rw [parse, bytes, Source.ofBytes_toUTF8, ofSource_text hv hdepth]

end GraphClient.Json
