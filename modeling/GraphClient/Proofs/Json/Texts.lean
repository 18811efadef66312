import GraphClient.Proofs.Json.Canonical
import GraphClient.Proofs.Json.Records
import GraphClient.Proofs.Json.Values

/-!
# Records from text

A shape takes a typed value from a JSON value, or reads it from text without making that value
first. The two agree on a record as soon as they agree on each of its fields, wherever the text of
the object is followed by something that no number goes on with.
-/

namespace GraphClient

open Text (Source)

variable {σ ρ α : Type}

/-- The value reads back from its text as it is: it is canonical, all its numbers are integers, and
it nests no deeper than is allowed. -/
structure Json.IsReadable (depth : Nat) (v : Json) : Prop where
  canonical : v.IsCanonical
  integral : v.IsIntegral
  depth_le : v.depth ≤ depth

/-- What is taken from the value is read from its text too, and what follows is left. -/
def Shape.AgreesOn (shape : Shape α) (depth : Nat) (v : Json) : Prop :=
  ∀ a, shape.read v = .ok a → ∀ rest, Scan.EndsNumber rest →
    shape.scan depth (.ofChars (v.write rest)) = .ok (a, .ofChars rest)

/-- One of the fields has the name, and agrees on the value under it. -/
def Fields.AgreesOn {σ ρ : Type} (depth : Nat) : Fields σ ρ → String → Json → Prop
  | done, _, _ => False
  | field name shape _ rest, key, v =>
    if key = name then shape.AgreesOn depth v else rest.AgreesOn depth key v

namespace Scan

/-- Only null is written with the letter of null in front. -/
theorem write_head_of_ne_null {v : Json} (hv : v.IsIntegral) (hnull : v ≠ .null)
    (rest : List Char) : ∃ c cs, v.write rest = c :: cs ∧ isBlank c = false ∧ c ≠ 'n' := by
  obtain ⟨c, cs, hhead, hblank, -⟩ := write_head hv rest
  refine ⟨c, cs, hhead, hblank, ?_⟩
  rintro rfl
  cases v with
  | null => exact hnull rfl
  | bool b => cases b <;> simp [Json.write] at hhead
  | number n =>
    cases n with
    | float x => exact hv.elim
    | int n fits =>
      obtain ⟨c, ds, hdigits, hc⟩ := writeInt_head n
      rw [Json.write, Json.writeNumber, hdigits] at hhead
      obtain rfl : c = 'n' := (List.cons.inj hhead).1
      exact absurd hc (by decide)
  | string s => simp [Json.write, Json.writeString] at hhead
  | array items => cases items <;> simp [Json.write] at hhead
  | object members => cases members <;> simp [Json.write] at hhead

end Scan

namespace Shape

variable {depth : Nat} {v : Json}

theorem agreesOn_scalar {expected : String} {accept : Json → Option (Except Mismatch α)}
    (hv : v.IsIntegral) (hplain : v.depth = 0) : (scalar expected accept).AgreesOn depth v := by
  intro a ha rest hrest
  obtain ⟨c, cs, hhead, hstart, hlist, hobject⟩ := Scan.plain_head hv hplain rest
  have hread := Scan.plainValue_write hv hplain hrest
  have hsame : v.canonical = v := by cases v <;> first | rfl | cases hplain
  have haccept : (accept v).getD (.error (.invalidType (.ofJson v) expected)) = .ok a := ha
  rw [hsame, hhead, Source.ofChars_cons] at hread
  -- the first character says that no list and no object is in front
  simp only [scalar, hhead, Source.ofChars_cons, Scan.skipBlanks_char hstart.1]
  split
  · simp_all
  · simp_all
  · simp only [hread, bind, Except.bind, haccept]
    rfl

theorem agreesOn_option {shape : Shape α} (hv : v.IsIntegral) (h : shape.AgreesOn depth v) :
    shape.option.AgreesOn depth v := by
  intro a ha rest hrest
  by_cases hnull : v = .null
  · subst hnull
    cases ha
    rfl
  · obtain ⟨c, cs, hhead, hblank, hn⟩ := Scan.write_head_of_ne_null hv hnull rest
    rw [read_option_of_ne_null hnull] at ha
    cases hb : shape.read v with
    | error why => simp [hb, Except.map] at ha
    | ok b =>
      obtain rfl : some b = a := by simpa [hb, Except.map] using ha
      have hread := h b hb rest hrest
      rw [hhead, Source.ofChars_cons] at hread
      simp only [option, hhead, Source.ofChars_cons, Scan.skipBlanks_char hblank]
      split
      · simp_all
      · simp only [hread, bind, Except.bind]
        rfl

theorem readMembers_any (members : List (String × Json)) :
    readMembers any members = .ok members := by
  induction members with
  | nil => rfl
  | cons p rest ih =>
    obtain ⟨name, v⟩ := p
    rw [readMembers, ih]
    rfl

theorem agreesOn_entries_any (hv : v.IsReadable (depth + 1)) :
    (entries any).AgreesOn (depth + 1) v := by
  intro a ha rest hrest
  cases v with
  | object members =>
    have hsorted : Entries.Sorted members := hv.canonical.1
    have hlist := Entries.ofList_of_sorted hsorted
    obtain rfl : members = a := by
      simpa [entries, readMembers_any, Except.map, hlist] using ha
    have hdeep := (Json.depthMembers_le_iff members depth).1
      (Nat.le_of_succ_le_succ hv.depth_le)
    have hints := (Json.hasIntegralMembers_iff members).1 hv.integral
    have hmembers : ∀ p ∈ members, Scan.ReadsBack (any.scan depth) p.2 := fun p hp =>
      Scan.readsBack_value depth (hints p hp) (hdeep p hp)
    have hsame := Json.canonicalMembers_of_hasCanonicalMembers members hv.canonical.2
    cases members with
    | nil => rfl
    | cons p members =>
      obtain ⟨name, w⟩ := p
      have hread := Scan.object_write hmembers rest
      simp only [Json.write, Source.ofChars_cons, entries, Scan.skipBlanks_brace, nested,
        List.drop_succ_cons, List.drop_zero, hread, bind, Except.bind, hsame, hlist]
      rfl
  | null | bool | number | string | array => cases ha

end Shape

namespace Fields

variable {depth : Nat}

/-- A member is taken in from its text as it is from its value. -/
theorem scanMember_write {fs : Fields σ ρ} {key : String} {v : Json} (h : fs.AgreesOn depth key v)
    {slots after : σ} (hread : fs.readMember key v slots = .ok after) {rest : List Char}
    (hrest : Scan.EndsNumber rest) :
    fs.scanMember depth key slots (.ofChars (':' :: v.write rest)) = .ok (after, .ofChars rest) := by
  induction fs with
  | done => exact h.elim
  | field name shape presence fs ih =>
    obtain ⟨slot, slots⟩ := slots
    by_cases hkey : key = name
    · subst hkey
      simp only [AgreesOn, if_true] at h
      obtain ⟨rfl, a, ha, rfl⟩ := (readMember_self_iff ..).mp hread
      have hcolon : Scan.colon (.ofChars (':' :: v.write rest)) =
          .ok ((), .ofChars (v.write rest)) := rfl
      simp only [scanMember, if_true, Option.isSome_none, Bool.false_eq_true, if_false, hcolon,
        bind, Except.bind, h a ha rest hrest]
      rfl
    · simp only [AgreesOn, if_neg hkey] at h
      obtain ⟨slots', hs, rfl⟩ := (readMember_other_iff hkey ..).mp hread
      simp only [scanMember, if_neg hkey, ih h hs, bind, Except.bind]
      rfl

/-- A member that follows is taken in in front of all later ones. -/
theorem scanMembers_cons {fs : Fields σ ρ} {fuel : Nat} {first : Bool} {slots slots' : σ}
    {src mid inner after rest : Source} {key : String} {row : ρ}
    (hnext : Scan.nextMember first src = .ok (true, .char '"' :: mid))
    (hname : Scan.string mid = .ok (key, inner))
    (hmember : fs.scanMember depth key slots inner = .ok (slots', after))
    (htail : fs.scanMembers depth fuel false slots' after = .ok (row, rest)) :
    fs.scanMembers depth (fuel + 1) first slots src = .ok (row, rest) := by
  simp only [scanMembers, hnext, bind, Except.bind, if_true, List.drop_succ_cons, List.drop_zero,
    hname, hmember, htail]

/-- At the brace the slots make the row. -/
theorem scanMembers_end {fs : Fields σ ρ} {fuel : Nat} (first : Bool) {slots : σ} {row : ρ}
    (hrow : fs.row slots = .ok row) (rest : List Char) :
    fs.scanMembers depth (fuel + 1) first slots (.ofChars ('\x7d' :: rest)) =
      .ok (row, .ofChars ('\x7d' :: rest)) := by
  have hnext : Scan.nextMember first (.ofChars ('\x7d' :: rest)) =
      .ok (false, .ofChars ('\x7d' :: rest)) := rfl
  simp only [scanMembers, hnext, bind, Except.bind, Bool.false_eq_true, if_false, hrow]
  rfl

/-- The members after the first are taken in up to the brace. -/
theorem scanMembers_writeMembers {fs : Fields σ ρ} {members : List (String × Json)}
    (h : ∀ p ∈ members, fs.AgreesOn depth p.1 p.2) {slots after : σ}
    (hread : fs.readMembers members slots = .ok after) {row : ρ} (hrow : fs.row after = .ok row)
    (rest : List Char) {fuel : Nat} (hfuel : members.length < fuel) :
    fs.scanMembers depth fuel false slots (.ofChars (Json.writeMembers members rest)) =
      .ok (row, .ofChars ('\x7d' :: rest)) := by
  induction members generalizing fuel slots with
  | nil =>
    obtain ⟨fuel, rfl⟩ := Nat.exists_eq_add_one_of_ne_zero (Nat.ne_of_gt hfuel)
    cases hread
    exact scanMembers_end false hrow rest
  | cons p members ih =>
    obtain ⟨key, v⟩ := p
    rw [List.length_cons] at hfuel
    obtain ⟨fuel, rfl⟩ := Nat.exists_eq_add_one_of_ne_zero (show fuel ≠ 0 by omega)
    have hfuel : members.length < fuel := by omega
    obtain ⟨slots', hs, hmore⟩ := (readMembers_cons_iff ..).mp hread
    have htail := ih (fun q hq => h q (List.mem_cons_of_mem _ hq)) hmore hfuel
    have hmember := scanMember_write (h (key, v) List.mem_cons_self) hs
      (Scan.endsNumber_writeMembers members rest)
    exact scanMembers_cons (Scan.nextMember_comma _) (Scan.string_escape key _) hmember htail

/-- All members are taken in from behind the opening brace up to the closing one. -/
theorem scanMembers_write {fs : Fields σ ρ} {members : List (String × Json)}
    (h : ∀ p ∈ members, fs.AgreesOn depth p.1 p.2) {slots : σ}
    (hread : fs.readMembers members fs.empty = .ok slots) {row : ρ} (hrow : fs.row slots = .ok row)
    (rest : List Char) :
    ∃ inner, (Json.object members).write rest = '\x7b' :: inner ∧
      fs.scanMembers depth (Source.size (.ofChars inner) + 1) true fs.empty (.ofChars inner) =
        .ok (row, .ofChars ('\x7d' :: rest)) := by
  cases members with
  | nil =>
    cases hread
    exact ⟨_, rfl, scanMembers_end true hrow rest⟩
  | cons p members =>
    obtain ⟨key, v⟩ := p
    refine ⟨_, rfl, ?_⟩
    have hfuel := Json.length_lt_size_members key v members rest
    obtain ⟨slots', hs, hmore⟩ := (readMembers_cons_iff ..).mp hread
    have htail := scanMembers_writeMembers (fun q hq => h q (List.mem_cons_of_mem _ hq)) hmore
      hrow rest hfuel
    have hmember := scanMember_write (h (key, v) List.mem_cons_self) hs
      (Scan.endsNumber_writeMembers members rest)
    exact scanMembers_cons (Scan.nextMember_first _) (Scan.string_escape key _) hmember htail

end Fields

namespace Shape

/-- A record that is taken from an object is read from the object's text. -/
theorem agreesOn_record {name : String} {fs : Fields σ ρ} {build : ρ → α} {depth : Nat}
    {members : List (String × Json)} (h : ∀ p ∈ members, fs.AgreesOn depth p.1 p.2) :
    (record name fs build).AgreesOn (depth + 1) (.object members) := by
  intro a ha rest hrest
  obtain ⟨slots, row, hslots, hrow, rfl⟩ := (read_record_object_iff name fs build members a).mp ha
  obtain ⟨inner, htext, hscan⟩ := Fields.scanMembers_write h hslots hrow rest
  simp only [htext, Source.ofChars_cons, record, Scan.skipBlanks_brace, nested,
    List.drop_succ_cons, List.drop_zero, hscan, bind, Except.bind]
  rfl

/-- The bytes of a value's text are read as what is taken from the value. -/
theorem ofBytes_bytes {shape : Shape α} {v : Json} (h : shape.AgreesOn Scan.maxDepth v) {a : α}
    (hread : shape.read v = .ok a) : shape.ofBytes v.bytes = .ok a := by
  have hscan := h a hread [] Scan.endsNumber_nil
  rw [ofBytes, Json.bytes, Source.ofBytes_toUTF8, Json.ofString_text, Scan.run, hscan]
  rfl

end Shape

end GraphClient
