import GraphClient.Client.Minimal
import GraphClient.Http.Settings
import GraphClient.Proofs.Client.Building
import GraphClient.Proofs.Entries.Settled

/-!
# Headers for every request

Headers that go with every request can be given to a client's builder or to the settings of the
transport. The builder goes on after a header that is wrong, and reports the first fault when it
builds; the settings fail at once. What both take, refuse and keep is nevertheless the same, and can
be read off the list of headers alone.
-/

namespace GraphClient

variable {ι : Type} [Domains ι] {τ : Type}

namespace Header

def firstFault? (given : List (String × String)) : Option HeaderFault :=
  given.findSome? fun p => fault? p.1 p.2.toUTF8.toList

theorem firstFault?_cons (p : String × String) (rest : List (String × String)) :
    firstFault? (p :: rest) = (fault? p.1 p.2.toUTF8.toList).or (firstFault? rest) := by
  rw [firstFault?, List.findSome?_cons]
  cases fault? p.1 p.2.toUTF8.toList <;> rfl

/-- The last value that was given for a name in lower case, whatever the letter case there. -/
def lastGiven? (key : String) (given : List (String × String)) : Option String :=
  Entries.last? key (given.map fun p => (p.1.toLower, p.2))

theorem toLower_of_normalizeName? {name key : String} (h : normalizeName? name = some key) :
    name.toLower = key := by
  simp only [normalizeName?, Option.ite_none_right_eq_some, Option.some.injEq] at h
  have hmap : name.toLower = name.map Char.toLower := rfl
  rw [← h.2, hmap]
  exact String.toList_inj.mp (by simp)

end Header

theorem HeaderValue.bytes_of_ofBytes? {bytes : List UInt8} {v : HeaderValue}
    (h : ofBytes? bytes = some v) : v.bytes = bytes := by
  unfold ofBytes? at h
  split at h
  · rw [← Option.some.inj h]
  · cases h

namespace Headers

/-- Sets headers one after the other, up to the first that is wrong. -/
def setAll (hs : Headers) (given : List (String × String)) : Except HeaderFault Headers :=
  given.foldlM (fun hs p => hs.set p.1 p.2.toUTF8.toList) hs

structure Holds (before : Headers) (given : List (String × String)) (hs : Headers) : Prop where
  value : ∀ key, (hs.find? key).map (·.bytes) =
    ((Header.lastGiven? key given).map (·.toUTF8.toList)).or
      ((before.find? key).map (·.bytes))
  sorted : Entries.Sorted before.entries → Entries.Sorted hs.entries

theorem setAll_cons (hs : Headers) (p : String × String) (rest : List (String × String)) :
    hs.setAll (p :: rest) = (hs.set p.1 p.2.toUTF8.toList).bind (·.setAll rest) := rfl

theorem Holds.nil (hs : Headers) : Holds hs [] hs where
  value _ := rfl
  sorted h := h

/-- One more header in front is covered by those behind it that have its name. -/
theorem Holds.cons {before hs : Headers} {name key value : String} {v : HeaderValue}
    {rest : List (String × String)} (hname : Header.normalizeName? name = some key)
    (hvalue : HeaderValue.ofBytes? value.toUTF8.toList = some v)
    (h : Holds (before.insert key v) rest hs) : Holds before ((name, value) :: rest) hs := by
  constructor
  · intro other
    rw [h.value, find?_insert]
    unfold Header.lastGiven?
    rw [List.map_cons, Entries.last?, Header.toLower_of_normalizeName? hname]
    cases hrest : Entries.last? other (rest.map fun p => (p.1.toLower, p.2)) with
    | some last => simp
    | none =>
      by_cases hk : key = other
      · simp [hk, HeaderValue.bytes_of_ofBytes? hvalue]
      · simp [hk, Ne.symm hk]
  · intro hsorted
    exact h.sorted (Entries.sorted_insert key v hsorted)

theorem setAll_of_fault {given : List (String × String)} {fault : HeaderFault} (hs : Headers)
    (h : Header.firstFault? given = some fault) : hs.setAll given = .error fault := by
  induction given generalizing hs with
  | nil => cases h
  | cons p rest ih =>
    rw [Header.firstFault?_cons] at h
    rw [setAll_cons]
    cases hfault : Header.fault? p.1 p.2.toUTF8.toList with
    | some first =>
      rw [hfault] at h
      obtain rfl : first = fault := Option.some.inj h
      rw [set_of_fault hs hfault]
      rfl
    | none =>
      obtain ⟨key, v, -, -, hset⟩ := set_of_no_fault hs hfault
      rw [hfault] at h
      rw [hset]
      exact ih (hs.insert key v) h

theorem setAll_of_no_fault {given : List (String × String)} (hs : Headers)
    (h : Header.firstFault? given = none) :
    ∃ headers, hs.setAll given = .ok headers ∧ hs.Holds given headers := by
  induction given generalizing hs with
  | nil => exact ⟨hs, rfl, .nil hs⟩
  | cons p rest ih =>
    rw [Header.firstFault?_cons, Option.or_eq_none_iff] at h
    obtain ⟨key, v, hname, hvalue, hset⟩ := set_of_no_fault hs h.1
    obtain ⟨headers, hall, hholds⟩ := ih (hs.insert key v) h.2
    refine ⟨headers, ?_, .cons hname hvalue hholds⟩
    rw [setAll_cons, hset]
    exact hall

end Headers

namespace HttpSettings

/-- Adds headers one after the other, and fails at the first that is wrong. -/
def withHeaders (s : HttpSettings) (given : List (String × String)) :
    Except TransportError HttpSettings :=
  given.foldlM (fun s p => s.withHeader p.1 p.2.toUTF8.toList) s

theorem withHeaders_eq (s : HttpSettings) (given : List (String × String)) :
    s.withHeaders given =
      match s.headers.setAll given with
      | .ok headers => .ok { s with headers }
      | .error fault => .error (.invalidHeader fault.message) := by
  induction given generalizing s with
  | nil => rfl
  | cons p rest ih =>
    have hcons : s.withHeaders (p :: rest) =
        (s.withHeader p.1 p.2.toUTF8.toList).bind (·.withHeaders rest) := rfl
    rw [hcons, Headers.setAll_cons, withHeader]
    cases s.headers.set p.1 p.2.toUTF8.toList with
    | error fault => rfl
    | ok headers => exact ih { s with headers }

end HttpSettings

namespace Builder

def withHeaders (b : Builder ι τ) (given : List (String × String)) : Builder ι τ :=
  given.foldl (fun b p => b.withHeader p.1 p.2.toUTF8.toList) b

theorem withHeaders_cons (b : Builder ι τ) (p : String × String) (rest : List (String × String)) :
    b.withHeaders (p :: rest) = (b.withHeader p.1 p.2.toUTF8.toList).withHeaders rest := rfl

/-- A fault that was remembered stays, whatever headers come after it. -/
theorem withHeaders_of_faulty {b : Builder ι τ} {why : ConfigurationError}
    (h : b.headerFault = some why) (given : List (String × String)) :
    ∃ headers, b.withHeaders given = { b with headers } := by
  induction given generalizing b with
  | nil => exact ⟨b.headers, rfl⟩
  | cons p rest ih =>
    rw [withHeaders_cons]
    obtain ⟨headers, fault, hb⟩ := b.withHeader_frame p.1 p.2.toUTF8.toList
    have hfault : fault = b.headerFault := by
      have hkept := b.headerFault_withHeader p.1 p.2.toUTF8.toList
      rw [hb, h] at hkept
      simpa [h] using hkept
    rw [hb, hfault]
    exact ih h

/-- The builder sets what is right; where something is wrong, it remembers the first fault. -/
theorem withHeaders_eq {b : Builder ι τ} (h : b.headerFault = none)
    (given : List (String × String)) :
    match b.headers.setAll given with
    | .ok headers => b.withHeaders given = { b with headers }
    | .error fault => ∃ headers, b.withHeaders given =
        { b with headers, headerFault := some (.invalidHeader fault.message) } := by
  induction given generalizing b with
  | nil => rfl
  | cons p rest ih =>
    rw [withHeaders_cons, Headers.setAll_cons]
    cases hset : b.headers.set p.1 p.2.toUTF8.toList with
    | error fault =>
      have hb : b.withHeader p.1 p.2.toUTF8.toList =
          { b with headerFault := some (.invalidHeader fault.message) } := by
        rw [withHeader, hset, h]
        rfl
      rw [hb]
      exact withHeaders_of_faulty rfl rest
    | ok headers =>
      have hb : b.withHeader p.1 p.2.toUTF8.toList = { b with headers } := by
        rw [withHeader, hset]
      rw [hb]
      exact ih (b := { b with headers }) h

/-- A builder that is complete builds with other headers too. -/
theorem Frozen.build_headers {b : Builder ι τ} {c : Client ι τ} (h : b.Frozen c)
    (headers : Headers) : ({ b with headers } : Builder ι τ).build = .ok { c with headers } := by
  obtain ⟨e, he, hr⟩ := h.endpoint
  rw [build_of_parts (b := { b with headers }) h.transport he h.delivery, hr]
  have hcodec : Codec.ofRegistry c.registry = .ok c.codec := by
    rw [← h.registry, h.codec]
  simp only [h.headerFault, h.scalarFaults, h.registry, hcodec]
  rfl

/-- Of what can be wrong with it then, a fault that is remembered is reported first. -/
theorem Frozen.build_faulty {b : Builder ι τ} {c : Client ι τ} (h : b.Frozen c)
    (headers : Headers) (why : ConfigurationError) :
    ({ b with headers, headerFault := some why } : Builder ι τ).build = .error why := by
  obtain ⟨e, he, hr⟩ := h.endpoint
  rw [build_of_parts (b := { b with headers, headerFault := some why }) h.transport he h.delivery,
    hr]
  rfl

/-- A complete builder and the settings of a transport that have the same headers refuse the same of
the headers that are given to them, for the first that is wrong, or else take them all and come to
the same set, in which the last value of each name stands. -/
theorem header_setters_agree {b : Builder ι τ} {c : Client ι τ} {s : HttpSettings}
    (hb : b.build = .ok c) (hs : s.headers = c.headers) (given : List (String × String)) :
    match Header.firstFault? given with
    | some .invalidName =>
      (b.withHeaders given).build = .error (.invalidHeader "Invalid header name") ∧
        s.withHeaders given = .error (.invalidHeader "Invalid header name")
    | some .invalidValue =>
      (b.withHeaders given).build = .error (.invalidHeader "Invalid header value") ∧
        s.withHeaders given = .error (.invalidHeader "Invalid header value")
    | none =>
      ∃ headers, (b.withHeaders given).build = .ok { c with headers } ∧
        s.withHeaders given = .ok { s with headers } ∧ c.headers.Holds given headers := by
  have hfrozen := frozen_of_build hb
  have hbuilder := withHeaders_eq hfrozen.headerFault given
  have hsettings := s.withHeaders_eq given
  rw [hfrozen.headers] at hbuilder
  rw [hs] at hsettings
  cases hfault : Header.firstFault? given with
  | some fault =>
    have hall := c.headers.setAll_of_fault hfault
    rw [hall] at hbuilder hsettings
    obtain ⟨headers, hbuilder⟩ := hbuilder
    have hbuild := hfrozen.build_faulty headers (.invalidHeader fault.message)
    rw [← hbuilder] at hbuild
    cases fault with
    | invalidName => exact ⟨hbuild, hsettings⟩
    | invalidValue => exact ⟨hbuild, hsettings⟩
  | none =>
    obtain ⟨headers, hall, hholds⟩ := c.headers.setAll_of_no_fault hfault
    rw [hall] at hbuilder hsettings
    refine ⟨headers, ?_, hsettings, hholds⟩
    rw [hbuilder]
    exact hfrozen.build_headers headers

/-- A name in another letter case takes the earlier value's place, and of two headers that are wrong
the first is reported, although a right one comes after them. -/
theorem header_setters_agree_trace :
    let b : Builder TextDomain Unit := ofHistory .minimal
    let s : HttpSettings := {}
    let given := [("X-Trace", "1"), ("x-trace", "2")]
    let wrong := [("X-Trace", "1"), ("x trace", "2"), ("x-trace", "\n"), ("accept", "*/*")]
    b.build = .ok .minimal ∧ s.headers = Client.minimal.headers ∧
      (∃ headers v, (b.withHeaders given).build = .ok { Client.minimal with headers } ∧
        s.withHeaders given = .ok { s with headers } ∧ headers.find? "x-trace" = some v ∧
        v.bytes = [50]) ∧
      (b.withHeaders wrong).build = .error (.invalidHeader "Invalid header name") ∧
      s.withHeaders wrong = .error (.invalidHeader "Invalid header name") := by
  intro b s given wrong
  have hb : b.build = .ok .minimal := rfl
  have hs : s.headers = Client.minimal.headers := rfl
  have hgiven := header_setters_agree hb hs given
  have hwrong := header_setters_agree hb hs wrong
  have hfine : Header.firstFault? given = none := by decide +kernel
  have hfault : Header.firstFault? wrong = some .invalidName := by decide +kernel
  rw [hfine] at hgiven
  rw [hfault] at hwrong
  obtain ⟨headers, hbuild, hset, hholds⟩ := hgiven
  refine ⟨hb, hs, ?_, hwrong⟩
  have hvalue := hholds.value "x-trace"
  have hlast : Header.lastGiven? "x-trace" given = some "2" := by decide +kernel
  rw [hlast] at hvalue
  obtain ⟨v, hv, hbytes⟩ := Option.map_eq_some_iff.mp hvalue
  exact ⟨headers, v, hbuild, hset, hv, hbytes.trans (by decide +kernel)⟩

end Builder

end GraphClient
