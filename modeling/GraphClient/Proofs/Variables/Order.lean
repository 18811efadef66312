import GraphClient.Exchange
import GraphClient.Proofs.Variables.LastWins

/-!
# The order of binding

Two histories that bind the same values to the same names may differ in the order of binding and in
values that are replaced later, and so may the objects among their values. The members of a JSON
object stand in name order, so that none of this can be seen in what is sent.
-/

namespace GraphClient

variable {ι : Type} [Domains ι] {τ D : Type}

namespace Draft

/-- Made to the same, but for the order of binding and for values that are replaced later, in the
value and in all objects inside. -/
inductive Alike : Draft ι → Draft ι → Prop
  | same {d e : Draft ι} (h : d.make = e.make) : Alike d e
  | list {items items' : List (Draft ι)} (h : List.Forall₂ Alike items items') :
    Alike (list items) (list items')
  | object {h k : List (String × Draft ι)}
    (hlast : ∀ name, Option.Rel Alike (Entries.last? name h) (Entries.last? name k)) :
    Alike (object h) (object k)

theorem writes_iff_of_make_eq {d e : Draft ι} (h : d.make = e.make) (c : Codec ι) (v : Json) :
    d.Writes c v ↔ e.Writes c v := by
  rw [← encode_iff c "", ← encode_iff c "", h]

/-- Values that are alike are written alike. -/
theorem Alike.writes_iff {d e : Draft ι} (h : d.Alike e) (c : Codec ι) (v : Json) :
    d.Writes c v ↔ e.Writes c v := by
  induction d generalizing e v with
  | leaf l =>
    cases h with
    | same hmake => exact writes_iff_of_make_eq hmake c v
  | customs scalar t xs =>
    cases h with
    | same hmake => exact writes_iff_of_make_eq hmake c v
  | list items ih =>
    cases h with
    | same hmake => exact writes_iff_of_make_eq hmake c v
    | list hitems =>
      rw [writes_list_iff, writes_list_iff]
      refine exists_congr fun vs => and_congr_left fun _ => forall₂_iff_of_forall₂ hitems ?_
      intro d hd e halike w
      exact ih d hd halike w
  | object h ih =>
    cases h with
    | same hmake => exact writes_iff_of_make_eq hmake c v
    | object hlast =>
      rw [writes_object_iff, writes_object_iff]
      refine exists_congr fun ms => and_congr_left fun _ => and_congr_right fun _ =>
        forall_congr' fun name => rel_iff_of_rel (hlast name) ?_
      intro d hd e halike w
      exact ih (name, d) (Entries.mem_of_last? hd) halike w

end Draft

namespace Exchange

theorem request_iff {client : Client ι τ} {op : Operation ι D} {q : HttpRequest} :
    request client op = .ok q ↔ ∃ vars, client.codec.encodeVariables op.vars = .ok vars ∧
      q = { url := client.endpoint
            headers := headers client.headers
            body := (((Request.ofDocument op.document).withOperationName op.name).withVariables
              vars).body.toUTF8 } := by
  rw [request]
  cases client.codec.encodeVariables op.vars with
  | ok vars => simp [bind, Except.bind, pure, Except.pure, eq_comm]
  | error why => simp [bind, Except.bind]

end Exchange

namespace Variables

theorem encodeVariables_iff_of_alike {h k : List (String × Draft ι)}
    (halike : (Draft.object h).Alike (.object k)) (c : Codec ι) (ms : Entries Json) :
    c.encodeVariables (ofHistory h) = .ok ms ↔ c.encodeVariables (ofHistory k) = .ok ms := by
  rw [encodeVariables_iff, encodeVariables_iff, halike.writes_iff]

/-- The order of binding does not show in what is sent: variables that are alike are encoded or not
both, the bodies of their requests are equal byte for byte, and so are the requests of operations
that differ in nothing else. -/
theorem sent_alike {h k : List (String × Draft ι)} (halike : (Draft.object h).Alike (.object k)) :
    (∀ c : Codec ι, (∃ ms, c.encodeVariables (ofHistory h) = .ok ms) ↔
      ∃ ns, c.encodeVariables (ofHistory k) = .ok ns) ∧
    (∀ (c : Codec ι) (document name : String) ms ns,
      c.encodeVariables (ofHistory h) = .ok ms → c.encodeVariables (ofHistory k) = .ok ns →
      (((Request.ofDocument document).withOperationName name).withVariables ms).body.toUTF8 =
        (((Request.ofDocument document).withOperationName name).withVariables ns).body.toUTF8) ∧
    ∀ (client : Client ι τ) (op : Operation ι D) q,
      Exchange.request client { op with vars := ofHistory h } = .ok q ↔
        Exchange.request client { op with vars := ofHistory k } = .ok q := by
  have hsame := encodeVariables_iff_of_alike halike
  refine ⟨fun c => exists_congr (hsame c), ?_, ?_⟩
  · intro c document name ms ns hms hns
    have hns' := (hsame c ns).mpr hns
    rw [hms] at hns'
    rw [Except.ok.inj hns']
  · intro client op q
    rw [Exchange.request_iff, Exchange.request_iff]
    exact exists_congr fun ms => and_congr_left fun _ => hsame client.codec ms

/-- A nested object and a name beside it, bound in either order; on one side some values are replaced
on the way. -/
theorem sent_alike_nested :
    let filter : Draft TextDomain :=
      .object [("active", .leaf (.json (.bool true))), ("owner", .leaf .null)]
    let filter' : Draft TextDomain :=
      .object [("owner", .leaf (.invalid "")), ("active", .leaf (.json (.bool true))),
        ("owner", .leaf .null)]
    let h := [("filter", filter), ("id", .leaf (.plain (.json (.string "x"))))]
    let k := [("id", .leaf (.invalid "")), ("filter", filter'), ("id", .leaf (.json (.string "x")))]
    (Draft.object h).Alike (.object k) ∧
      ∃ ms ns, Codec.standard.encodeVariables (ofHistory h) = .ok ms ∧
        Codec.standard.encodeVariables (ofHistory k) = .ok ns ∧
        (((Request.ofDocument "query").withOperationName "Find").withVariables ms).body.toUTF8 =
          (((Request.ofDocument "query").withOperationName "Find").withVariables ns).body.toUTF8 := by
  intro filter filter' h k
  have hfilter : filter.Alike filter' := by
    refine .object fun name => ?_
    by_cases ha : name = "active"
    · subst ha
      exact .some (.same rfl)
    by_cases ho : name = "owner"
    · subst ho
      exact .some (.same rfl)
    simp [Entries.last?, ha, ho]
  have halike : (Draft.object h).Alike (.object k) := by
    refine .object fun name => ?_
    by_cases hf : name = "filter"
    · subst hf
      exact .some hfilter
    by_cases hi : name = "id"
    · subst hi
      exact .some (.same rfl)
    simp [h, k, Entries.last?, hf, hi]
  obtain ⟨-, hbody, -⟩ := sent_alike (τ := Unit) (D := Json) halike
  exact ⟨halike, _, _, rfl, rfl, hbody Codec.standard "query" "Find" _ _ rfl rfl⟩

end Variables

end GraphClient
