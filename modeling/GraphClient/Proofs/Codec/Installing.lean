import GraphClient.Proofs.Call.Independence
import GraphClient.Proofs.Codec.TypeSafety
import GraphClient.Proofs.Reader.Simulation

/-!
# Installing a scalar

A codec is looked up by names alone. Two codecs with the same adapters under some names cannot be
told apart by variables, readings and calls that keep to these names: how often a scalar is
registered under another name does not matter to them, and what names no scalar at all cannot tell
any codec from the one without scalars.
-/

namespace GraphClient

variable {ι : Type} [Domains ι] {τ α D : Type}

/-! ### What keeps to some names -/

namespace VariableValue

mutual

/-- Every custom scalar in the value, at any depth, goes by a name that is allowed. -/
def KeepsTo (allowed : String → Prop) : VariableValue ι → Prop
  | custom scalar _ _ => allowed scalar.name
  | list items => ItemsKeepTo allowed items
  | object bindings => BindingsKeepTo allowed bindings
  | json _ | invalid _ => True

def ItemsKeepTo (allowed : String → Prop) : List (VariableValue ι) → Prop
  | [] => True
  | x :: rest => KeepsTo allowed x ∧ ItemsKeepTo allowed rest

def BindingsKeepTo (allowed : String → Prop) : List (String × VariableValue ι) → Prop
  | [] => True
  | (_, x) :: rest => KeepsTo allowed x ∧ BindingsKeepTo allowed rest

end

end VariableValue

def Variables.KeepTo (allowed : String → Prop) (vs : Variables ι) : Prop :=
  VariableValue.BindingsKeepTo allowed vs.bindings

/-- The question names no scalar, or one whose name is allowed. -/
def Question.KeepsTo (allowed : String → Prop) : Question ι α → Prop
  | custom scalar _ => allowed scalar.name
  | _ => True

def Reading.KeepsTo (allowed : String → Prop) (p : Reading ι D) : Prop :=
  p.Asks (Question.KeepsTo allowed)

structure Operation.KeepsTo (allowed : String → Prop) (op : Operation ι D) : Prop where
  vars : op.vars.KeepTo allowed
  mapper : ∃ p : Reading ι D, p.KeepsTo allowed ∧ op.mapper.map = p.read

namespace Codec

/-- The codecs have the same adapters under the names that are allowed. -/
def SameUnder (allowed : String → Prop) (c c' : Codec ι) : Prop :=
  ∀ name, allowed name → c.adapter? name = c'.adapter? name

variable {allowed : String → Prop} {c c' : Codec ι}

namespace SameUnder

theorem encodeScalarFor_eq (h : SameUnder allowed c c') {s : ScalarType ι} (hs : allowed s.name)
    (t : ι) (x : Domains.Carrier t) (name : String) :
    c.encodeScalarFor s t x name = c'.encodeScalarFor s t x name := by
  rw [encodeScalarFor, encodeScalarFor, h s.name hs]

theorem decodeScalarAt_eq (h : SameUnder allowed c c') {s : ScalarType ι} (hs : allowed s.name)
    (t : ι) (v : Json) (path : String) :
    c.decodeScalarAt s t v path = c'.decodeScalarAt s t v path := by
  rw [decodeScalarAt, decodeScalarAt, h s.name hs]

mutual

theorem encode_eq (h : SameUnder allowed c c') (name : String) (x : VariableValue ι)
    (hx : x.KeepsTo allowed) : x.encode c name = x.encode c' name := by
  cases x with
  | json v => rfl
  | invalid message => rfl
  | custom scalar t x => exact h.encodeScalarFor_eq hx t x name
  | list items => rw [VariableValue.encode, VariableValue.encode, h.encodeItems_eq name items hx]
  | object bindings =>
    rw [VariableValue.encode, VariableValue.encode, h.encodeBindings_eq bindings [] hx]

theorem encodeItems_eq (h : SameUnder allowed c c') (name : String)
    (items : List (VariableValue ι)) (hitems : VariableValue.ItemsKeepTo allowed items) :
    VariableValue.encodeItems c name items = VariableValue.encodeItems c' name items := by
  cases items with
  | nil => rfl
  | cons x rest =>
    rw [VariableValue.encodeItems, VariableValue.encodeItems, h.encode_eq name x hitems.1,
      h.encodeItems_eq name rest hitems.2]

theorem encodeBindings_eq (h : SameUnder allowed c c')
    (bindings : List (String × VariableValue ι)) (members : Entries Json)
    (hbindings : VariableValue.BindingsKeepTo allowed bindings) :
    VariableValue.encodeBindings c bindings members =
      VariableValue.encodeBindings c' bindings members := by
  cases bindings with
  | nil => rfl
  | cons p rest =>
    obtain ⟨name, x⟩ := p
    simp only [VariableValue.encodeBindings]
    rw [h.encode_eq name x hbindings.1]
    exact bind_congr fun v => h.encodeBindings_eq rest (Entries.insert name v members) hbindings.2

end

end SameUnder

/-- The readers stand at the same place of the same value, one with each codec. -/
def Swapped (c c' : Codec ι) (r s : Reader ι) : Prop :=
  ∃ v path, r = ⟨c, v, path⟩ ∧ s = ⟨c', v, path⟩

theorem swapped_elements (c c' : Codec ι) (v : Json) (path : String) (i : Nat)
    (items : List Json) :
    List.Forall₂ (Swapped c c') (Reader.elements ⟨c, v, path⟩ i items)
      (Reader.elements ⟨c', v, path⟩ i items) := by
  induction items generalizing i with
  | nil => exact .nil
  | cons w rest ih => exact .cons ⟨w, Reader.elementPath path i, rfl, rfl⟩ (ih (i + 1))

theorem SameUnder.bisimulation (h : SameUnder allowed c c') :
    Reader.Bisimulation (Swapped c c') (Question.KeepsTo allowed) where
  isNull := by
    rintro _ _ ⟨v, path, rfl, rfl⟩
    rfl
  answer := by
    rintro _ _ ⟨v, path, rfl, rfl⟩ α q hq
    cases q with
    | custom scalar t =>
      exact congrArg (fun e => if v.isNull then .error (.missingField path) else e)
        (h.decodeScalarAt_eq hq t v path)
    | isNull | path | string | int64 | float | bool | value | deserialize => rfl
  field := by
    rintro _ _ ⟨v, path, rfl, rfl⟩ name
    exact ⟨v.member name, Reader.fieldPath path name, rfl, rfl⟩
  list := by
    rintro _ _ ⟨v, path, rfl, rfl⟩
    cases v with
    | array items => exact .elements (swapped_elements c c' (.array items) path 0 items)
    | null | bool | number | string | object => exact .refused _

theorem SameUnder.read_eq (h : SameUnder allowed c c') {p : Reading ι D} (hp : p.KeepsTo allowed)
    (v : Json) (path : String) : p.read ⟨c, v, path⟩ = p.read ⟨c', v, path⟩ :=
  p.read_related h.bisimulation hp ⟨v, path, rfl, rfl⟩

theorem SameUnder.encodeVariables_eq (h : SameUnder allowed c c') {vs : Variables ι}
    (hvs : vs.KeepTo allowed) : c.encodeVariables vs = c'.encodeVariables vs :=
  h.encodeBindings_eq vs.bindings [] hvs

end Codec

/-! ### Calls of clients that treat an operation alike -/

/-- The clients ask for the operation in the same way and make the same of every answer. -/
structure Operation.TreatedAlike (op : Operation ι D) (client client' : Client ι τ) : Prop where
  request : Exchange.request client op = Exchange.request client' op
  answer : ∀ outcome,
    Exchange.answer client.codec op outcome = Exchange.answer client'.codec op outcome

theorem Call.step_eq_of_treatedAlike {client client' : Client ι τ} {c : Call ι D}
    (h : c.operation.TreatedAlike client client') (e : Event) :
    c.step client e = c.step client' e := by
  unfold Call.step
  simp only [h.request, h.answer]

/-- The operation of a call stays what it is, so the calls go together through every run. -/
theorem Race.run_eq_of_treatedAlike {client client' : Client ι τ} {r : Race ι D}
    (h : r.call.operation.TreatedAlike client client') (turns : List Turn) :
    r.run client turns = r.run client' turns := by
  induction turns generalizing r with
  | nil => rfl
  | cons t rest ih =>
    have hstep : r.step client t = r.step client' t := by
      cases t with
      | execution e => simp only [Race.step, Call.step_eq_of_treatedAlike h e]
      | handOver | newCancel | cancel => rfl
    rw [Race.run_cons, Race.run_cons, hstep]
    refine Option.bind_congr fun r' hr' => ih ?_
    rw [Race.operation_of_rule (Race.rule_of_step hr')]
    exact h

def Client.withScalars (client : Client ι τ) (registry : Registry ι) (codec : Codec ι) :
    Client ι τ :=
  { client with registry, codec }

theorem Codec.SameUnder.treatedAlike {allowed : String → Prop} {c c' : Codec ι}
    (h : c.SameUnder allowed c') {op : Operation ι D} (hop : op.KeepsTo allowed)
    (client : Client ι τ) (r r' : Registry ι) :
    op.TreatedAlike (client.withScalars r c) (client.withScalars r' c') := by
  obtain ⟨p, hp, hmap⟩ := hop.mapper
  constructor
  · simp only [Exchange.request, Client.withScalars, h.encodeVariables_eq hop.vars]
  · intro outcome
    have hread : ∀ v, op.mapper.map (.root c v) = op.mapper.map (.root c' v) := by
      intro v
      rw [hmap]
      exact h.read_eq hp v ""
    unfold Exchange.answer
    simp only [Client.withScalars, hread]
    rfl

namespace Codec

structure Indistinguishable (allowed : String → Prop) (c c' : Codec ι) : Prop where
  supports : ∀ s : ScalarType ι, allowed s.name → c.supports s = c'.supports s
  encodeScalar : ∀ s : ScalarType ι, allowed s.name → ∀ t x,
    c.encodeScalar s t x = c'.encodeScalar s t x
  decodeScalar : ∀ s : ScalarType ι, allowed s.name → ∀ t v,
    c.decodeScalar s t v = c'.decodeScalar s t v
  encodeVariables : ∀ vs : Variables ι, vs.KeepTo allowed →
    c.encodeVariables vs = c'.encodeVariables vs
  read : ∀ {D : Type} (p : Reading ι D), p.KeepsTo allowed → ∀ v path,
    p.read ⟨c, v, path⟩ = p.read ⟨c', v, path⟩
  plain : ∀ value body, c.encode value = c'.encode value ∧ c.parse body = c'.parse body ∧
    ∀ {α : Type} (shape : Shape α) v path, c.decodeAt shape v path = c'.decodeAt shape v path
  -- the same request is sent, if one is, and whatever the transport brings back and the order of
  -- steps and cancels is, the calls are at every moment the same
  calls : ∀ {τ D : Type} (client : Client ι τ) (r r' : Registry ι) (op : Operation ι D),
    op.KeepsTo allowed →
    Exchange.request (client.withScalars r c) op = Exchange.request (client.withScalars r' c') op ∧
    ∀ id turns, (Race.start (.fresh id op)).run (client.withScalars r c) turns =
      (Race.start (.fresh id op)).run (client.withScalars r' c') turns

theorem SameUnder.indistinguishable {allowed : String → Prop} {c c' : Codec ι}
    (h : c.SameUnder allowed c') : c.Indistinguishable allowed c' where
  supports s hs := by rw [Codec.supports, Codec.supports, h s.name hs]
  encodeScalar s hs t x := h.encodeScalarFor_eq hs t x s.name
  decodeScalar s hs t v := h.decodeScalarAt_eq hs t v ""
  encodeVariables _ hvs := h.encodeVariables_eq hvs
  read _ hp := h.read_eq hp
  plain _ _ := ⟨rfl, rfl, fun _ _ _ => rfl⟩
  calls client r r' op hop := by
    have halike := h.treatedAlike hop client r r'
    exact ⟨halike.request, fun id turns => Race.run_eq_of_treatedAlike halike turns⟩

end Codec

namespace Registry

theorem Installs.service?_eq {name : String} {r r' : Registry ι} (h : r.Installs name r')
    {other : String} (ho : other ≠ name) : r'.service? other = r.service? other := by
  induction h with
  | none => rfl
  | register _ under ok ih =>
    unfold Registry.register at ok
    split at ok
    · obtain rfl := Except.ok.inj ok
      rw [service?_put, if_neg (under ▸ ho.symm), ih]
    · cases ok

/-- Registrations under one name leave everything as it was that keeps to other names. Any codec is
the one without scalars to everything that names no scalar. -/
theorem installed_indistinguishable :
    (∀ {name : String} {r r' : Registry ι} {c c' : Codec ι}, r.Installs name r' →
      Codec.ofRegistry r = .ok c → Codec.ofRegistry r' = .ok c' →
      c.Indistinguishable (· ≠ name) c') ∧
    ∀ c : Codec ι, c.Indistinguishable (fun _ => False) .standard := by
  constructor
  · intro name r r' c c' h hc hc'
    refine Codec.SameUnder.indistinguishable fun other ho => ?_
    rw [Codec.adapter?_ofRegistry hc, Codec.adapter?_ofRegistry hc', h.service?_eq ho]
  · intro c
    exact Codec.SameUnder.indistinguishable fun _ hnone => hnone.elim

/-- A scalar beside another one, registered twice. It comes to be supported, and nothing else is
seen of it. -/
theorem installed_indistinguishable_beside :
    let flag : ScalarType MixedDomain := ⟨"Flag", .truth⟩
    let label : ScalarType MixedDomain := ⟨"Label", .text⟩
    ∃ r r₁ r₂ c c', Registry.empty.register flag ⟨.truth, .bool⟩ = .ok r ∧
      r.register label ⟨.text, .text⟩ = .ok r₁ ∧ r₁.register label ⟨.text, .text⟩ = .ok r₂ ∧
      Codec.ofRegistry r = .ok c ∧ Codec.ofRegistry r₂ = .ok c' ∧
      c.supports label = false ∧ c'.supports label = true ∧
      c.Indistinguishable (· ≠ "Label") c' := by
  intro flag label
  obtain ⟨r, hr⟩ : ∃ r, Registry.empty.register flag ⟨MixedDomain.truth, .bool⟩ = .ok r :=
    ⟨_, rfl⟩
  obtain ⟨r₁, hr₁⟩ : ∃ r₁, r.register label ⟨MixedDomain.text, .text⟩ = .ok r₁ := ⟨_, rfl⟩
  obtain ⟨r₂, hr₂⟩ : ∃ r₂, r₁.register label ⟨MixedDomain.text, .text⟩ = .ok r₂ := ⟨_, rfl⟩
  have h : r.Installs "Label" r₂ := .register (.register .none rfl hr₁) rfl hr₂
  cases hr
  cases hr₁
  cases hr₂
  exact ⟨_, _, _, _, _, rfl, rfl, rfl, rfl, rfl, rfl, rfl,
    installed_indistinguishable.1 h rfl rfl⟩

end Registry

end GraphClient
