import GraphClient.Client.Minimal
import GraphClient.Proofs.Client.Building

/-!
# Building again

The builder of a client is not the one the client was built from: it has the endpoint as a URL, where
the other may still have it as text. Nothing else tells them apart, and no setting looks at the
endpoint, so that the difference stays without effect whatever is set afterwards.
-/

namespace GraphClient

variable {ι : Type} [Domains ι] {τ : Type}

namespace Builder

def replaceEndpoint (b : Builder ι τ) (e : Option Endpoint) : Builder ι τ := { b with endpoint := e }

/-- No setting depends on the endpoint that was set before. -/
theorem configure_replaceEndpoint (b : Builder ι τ) (e : Option Endpoint) (s : Setting ι τ) :
    (b.replaceEndpoint e).configure s = (b.configure s).replaceEndpoint (s.endpoint?.or e) := by
  have hheader : ∀ name bytes, (b.replaceEndpoint e).withHeader name bytes =
      (b.withHeader name bytes).replaceEndpoint e := by
    intro name bytes
    unfold withHeader replaceEndpoint
    cases b.headers.set name bytes <;> rfl
  cases s with
  | header name bytes => exact hheader name bytes
  | bearerToken token => exact hheader "authorization" _
  | adapter scalar a =>
    simp only [configure]
    unfold withAdapter replaceEndpoint
    cases b.registry.register scalar a <;> rfl
  | transport | endpoint | delivery | scalar => rfl

/-- The builders differ in the form of the endpoint at most, and both forms resolve alike. -/
structure Alike (b b' : Builder ι τ) : Prop where
  others : b' = b.replaceEndpoint b'.endpoint
  endpoint : b'.endpoint.map Endpoint.resolve = b.endpoint.map Endpoint.resolve

/-- What is set in both keeps them alike. -/
theorem Alike.configure {b b' : Builder ι τ} (h : b.Alike b') (s : Setting ι τ) :
    (b.configure s).Alike (b'.configure s) := by
  have hs : b'.configure s = (b.configure s).replaceEndpoint (s.endpoint?.or b'.endpoint) := by
    rw [← configure_replaceEndpoint, ← h.others]
  have he : (b'.configure s).endpoint = s.endpoint?.or b'.endpoint := (parts_configure b' s).2.1
  constructor
  · rw [he, hs]
  · rw [he, (b.parts_configure s).2.1, Option.map_or, Option.map_or, h.endpoint]

theorem Alike.configureAll {b b' : Builder ι τ} (h : b.Alike b') (more : List (Setting ι τ)) :
    (b.configureAll more).Alike (b'.configureAll more) := by
  induction more generalizing b b' with
  | nil => exact h
  | cons s rest ih => exact ih (h.configure s)

/-- Building looks at nothing of the endpoint but what it resolves to. -/
theorem Alike.build_eq {b b' : Builder ι τ} (h : b.Alike b') : b.build = b'.build := by
  obtain ⟨hothers, hends⟩ := h
  rw [hothers]
  unfold build replaceEndpoint
  cases hb : b.endpoint with
  | none =>
    rw [hb, Option.map_none, Option.map_eq_none_iff] at hends
    rw [hends]
  | some e =>
    rw [hb, Option.map_some, Option.map_eq_some_iff] at hends
    obtain ⟨e', he', hr⟩ := hends
    simp only [he', required, bind, Except.bind, hr]

/-- A client's builder is like any that the client was built from. -/
theorem Frozen.alike_toBuilder {b : Builder ι τ} {c : Client ι τ} (h : b.Frozen c) :
    b.Alike c.toBuilder := by
  obtain ⟨transport, endpoint, delivery, registry, headers, scalarFaults, headerFault⟩ := b
  obtain ⟨ht, ⟨e, he, hr⟩, hd, hf, hh, hs, hg, -⟩ := h
  subst ht he hd hf hh hs hg
  constructor
  · rfl
  · simp only [Client.toBuilder, Option.map_some, Endpoint.resolve_parsed_of_resolve hr, hr]

/-- The builder of a client builds what the client's own builder would, whatever is set in both; and
if nothing is, the client itself. -/
theorem build_toBuilder {b : Builder ι τ} {c : Client ι τ} (h : b.build = .ok c)
    (more : List (Setting ι τ)) :
    (b.configureAll more).build = (c.toBuilder.configureAll more).build ∧
      c.toBuilder.build = .ok c := by
  have halike := (frozen_of_build h).alike_toBuilder
  exact ⟨(halike.configureAll more).build_eq, halike.build_eq ▸ h⟩

theorem build_toBuilder_label :
    let b : Builder TextDomain Unit :=
      ofHistory (History.minimal ++ [.scalar .label, .adapter .label ⟨.text, .text⟩])
    let more : List (Setting TextDomain Unit) := [.delivery .spawn, .bearerToken "token"]
    ∃ c, b.build = .ok c ∧ c.codec = .labels ∧
      (b.configureAll more).build = (c.toBuilder.configureAll more).build ∧
      c.toBuilder.build = .ok c :=
  ⟨_, rfl, rfl, build_toBuilder rfl _⟩

end Builder

end GraphClient
