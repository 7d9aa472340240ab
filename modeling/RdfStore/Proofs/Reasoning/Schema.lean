import Mathlib.Logic.Relation
import RdfStore.Proofs.Reasoning.Rounds

/-!
# Paths in a schema

The rules of RDF Schema look at two triples at a time. Used to the end on triples of IRIs, they
close paths of any length: a triple moves up a path of properties, the property at its end
classifies subject and object by domain and range, and a class moves up a path of classes
(`RuleBase.extend_schema_closesPaths`).
-/

namespace RdfStore

open Vocabulary

/-- A path along triples with a predicate, from the first term to the second, none or more. -/
def Leads (G : Set Triple) (i : Iri) : Term → Term → Prop :=
  Relation.ReflTransGen fun x y => ⟨x, .iri i, y⟩ ∈ G

theorem Leads.mono {G H : Set Triple} (hGH : G ⊆ H) {i : Iri} {x y : Term} (h : Leads G i x y) :
    Leads H i x y :=
  Relation.ReflTransGen.mono (fun _ _ hstep => hGH hstep) _ _ h

/-- What paths in the first set lead to is in the second set, where classes and properties are
transitive. -/
structure ClosesPaths (G R : Set Triple) : Prop where
  subClass_trans : ∀ x y z : Term, ⟨x, .iri subClassOf, y⟩ ∈ R → ⟨y, .iri subClassOf, z⟩ ∈ R →
    ⟨x, .iri subClassOf, z⟩ ∈ R
  subProperty_trans : ∀ x y z : Term, ⟨x, .iri subPropertyOf, y⟩ ∈ R →
    ⟨y, .iri subPropertyOf, z⟩ ∈ R → ⟨x, .iri subPropertyOf, z⟩ ∈ R
  property : ∀ x p y q : Term, ⟨x, p, y⟩ ∈ G → Leads G subPropertyOf p q → ⟨x, q, y⟩ ∈ R
  domain : ∀ x p y q c d : Term, ⟨x, p, y⟩ ∈ G → Leads G subPropertyOf p q →
    ⟨q, .iri domain, c⟩ ∈ G → Leads G subClassOf c d → ⟨x, .iri rdfType, d⟩ ∈ R
  range : ∀ x p y q c d : Term, ⟨x, p, y⟩ ∈ G → Leads G subPropertyOf p q →
    ⟨q, .iri range, c⟩ ∈ G → Leads G subClassOf c d → ⟨y, .iri rdfType, d⟩ ∈ R
  type : ∀ x c d : Term, ⟨x, .iri rdfType, c⟩ ∈ G → Leads G subClassOf c d →
    ⟨x, .iri rdfType, d⟩ ∈ R

namespace RuleBase

/-- The terms that are IRIs. -/
def iris : Set Term := Set.range Term.iri

theorem mem_iris {x : Term} (h : x.isIri = true) : x ∈ iris := by
  cases x with
  | iri i => exact ⟨i, rfl⟩
  | _ => exact nomatch h

theorem isConcludable_of_iris {t : Triple} (hs : t.subject ∈ iris) (hp : t.predicate ∈ iris)
    (ho : t.object ∈ iris) : t.IsConcludable := by
  obtain ⟨i, hi⟩ := hs
  obtain ⟨j, hj⟩ := hp
  obtain ⟨k, hk⟩ := ho
  refine ⟨.inl ⟨i, hi.symm⟩, ⟨j, hj.symm⟩, fun v hv => ?_⟩
  rw [hv] at hk
  exact nomatch hk

/-- Triples of IRIs to which the rules of RDF Schema have nothing to add. -/
structure SchemaClosed (R : Set Triple) : Prop where
  ofIris : Over iris R
  closed : schema.Closed R

namespace SchemaClosed

variable {R : Set Triple} {x y z p q c d : Term} (h : SchemaClosed R)
include h

/-- A rule of RDF Schema, called by its name, has two premises and one conclusion. An assignment
that puts the premises into the set puts the conclusion into it. -/
theorem conclude (name : String) {l m n : Pattern}
    (hr : schemaRules.find? (·.name = name) = some ⟨name, [l, m], [n]⟩) (σ : String → Term)
    {t u v : Triple} (hl : l.under σ = t) (hm : m.under σ = u) (hn : n.under σ = v)
    (ht : t ∈ R) (hu : u ∈ R) (hv : v.subject ∈ iris ∧ v.predicate ∈ iris ∧ v.object ∈ iris) :
    v ∈ R := by
  subst hl hm hn
  refine h.closed (.inr ⟨_, List.mem_of_find?_eq_some hr, ?_⟩)
  refine ⟨isConcludable_of_iris hv.1 hv.2.1 hv.2.2, σ, ?_, n, List.mem_singleton_self n, rfl⟩
  intro k hk
  rcases List.mem_pair.1 hk with rfl | rfl
  · exact ht
  · exact hu

theorem subClass_trans (hxy : ⟨x, .iri subClassOf, y⟩ ∈ R) (hyz : ⟨y, .iri subClassOf, z⟩ ∈ R) :
    ⟨x, .iri subClassOf, z⟩ ∈ R := by
  obtain ⟨hx, hi, -⟩ := h.ofIris _ hxy
  obtain ⟨-, -, hz⟩ := h.ofIris _ hyz
  exact h.conclude "rdfs11" rfl (fun n => if n = "c" then x else if n = "d" then y else z)
    rfl rfl rfl hxy hyz ⟨hx, hi, hz⟩

theorem subProperty_trans (hxy : ⟨x, .iri subPropertyOf, y⟩ ∈ R)
    (hyz : ⟨y, .iri subPropertyOf, z⟩ ∈ R) : ⟨x, .iri subPropertyOf, z⟩ ∈ R := by
  obtain ⟨hx, hi, -⟩ := h.ofIris _ hxy
  obtain ⟨-, -, hz⟩ := h.ofIris _ hyz
  exact h.conclude "rdfs5" rfl (fun n => if n = "p" then x else if n = "q" then y else z)
    rfl rfl rfl hxy hyz ⟨hx, hi, hz⟩

/-- An instance of a class is one of a more general class. -/
theorem type_step (hcd : ⟨c, .iri subClassOf, d⟩ ∈ R) (hx : ⟨x, .iri rdfType, c⟩ ∈ R) :
    ⟨x, .iri rdfType, d⟩ ∈ R := by
  obtain ⟨-, -, hd⟩ := h.ofIris _ hcd
  obtain ⟨hxi, hi, -⟩ := h.ofIris _ hx
  exact h.conclude "rdfs9" rfl (fun n => if n = "c" then c else if n = "d" then d else x)
    rfl rfl rfl hcd hx ⟨hxi, hi, hd⟩

/-- What a property says, a more general property says. -/
theorem property_step (hpq : ⟨p, .iri subPropertyOf, q⟩ ∈ R) (hxy : ⟨x, p, y⟩ ∈ R) :
    ⟨x, q, y⟩ ∈ R := by
  obtain ⟨-, -, hq⟩ := h.ofIris _ hpq
  obtain ⟨hx, -, hy⟩ := h.ofIris _ hxy
  exact h.conclude "rdfs7" rfl
    (fun n => if n = "p" then p else if n = "q" then q else if n = "x" then x else y)
    rfl rfl rfl hpq hxy ⟨hx, hq, hy⟩

theorem domain_step (hpc : ⟨p, .iri domain, c⟩ ∈ R) (hxy : ⟨x, p, y⟩ ∈ R) :
    ⟨x, .iri rdfType, c⟩ ∈ R := by
  obtain ⟨-, -, hc⟩ := h.ofIris _ hpc
  obtain ⟨hx, -, -⟩ := h.ofIris _ hxy
  exact h.conclude "rdfs2" rfl
    (fun n => if n = "p" then p else if n = "c" then c else if n = "x" then x else y)
    rfl rfl rfl hpc hxy ⟨hx, ⟨rdfType, rfl⟩, hc⟩

theorem range_step (hpc : ⟨p, .iri range, c⟩ ∈ R) (hxy : ⟨x, p, y⟩ ∈ R) :
    ⟨y, .iri rdfType, c⟩ ∈ R := by
  obtain ⟨-, -, hc⟩ := h.ofIris _ hpc
  obtain ⟨-, -, hy⟩ := h.ofIris _ hxy
  exact h.conclude "rdfs3" rfl
    (fun n => if n = "p" then p else if n = "c" then c else if n = "x" then x else y)
    rfl rfl rfl hpc hxy ⟨hy, ⟨rdfType, rfl⟩, hc⟩

/-- A triple moves up a path of properties. -/
theorem property_path (hxy : ⟨x, p, y⟩ ∈ R) (hpq : Leads R subPropertyOf p q) :
    ⟨x, q, y⟩ ∈ R := by
  induction hpq with
  | refl => exact hxy
  | tail _ hstep ih => exact h.property_step hstep ih

/-- An instance moves up a path of classes. -/
theorem type_path (hx : ⟨x, .iri rdfType, c⟩ ∈ R) (hcd : Leads R subClassOf c d) :
    ⟨x, .iri rdfType, d⟩ ∈ R := by
  induction hcd with
  | refl => exact hx
  | tail _ hstep ih => exact h.type_step hstep ih

theorem closesPaths {G : Set Triple} (hG : G ⊆ R) : ClosesPaths G R where
  subClass_trans _ _ _ hxy hyz := h.subClass_trans hxy hyz
  subProperty_trans _ _ _ hxy hyz := h.subProperty_trans hxy hyz
  property _ _ _ _ hxy hpq := h.property_path (hG hxy) (hpq.mono hG)
  domain _ _ _ _ _ _ hxy hpq hqc hcd :=
    h.type_path (h.domain_step (hG hqc) (h.property_path (hG hxy) (hpq.mono hG))) (hcd.mono hG)
  range _ _ _ _ _ _ hxy hpq hqc hcd :=
    h.type_path (h.range_step (hG hqc) (h.property_path (hG hxy) (hpq.mono hG))) (hcd.mono hG)
  type _ _ _ hx hcd := h.type_path (hG hx) (hcd.mono hG)

end SchemaClosed

theorem admissible_schema : schema.Admissible := fun _ hr => .inr hr

theorem iris_constants_schema : ∀ t ∈ schema.constants, t ∈ iris := by
  have hall : ∀ t ∈ schema.constants, t.isIri = true := by decide +kernel
  exact fun t ht => mem_iris (hall t ht)

/-- Triples of IRIs stay triples of IRIs, and if chaining succeeds they are closed. -/
theorem schemaClosed_extend {g : Graph} (hiris : Over iris g.members)
    (hok : (schema.extend g).2 = .ok ()) : SchemaClosed (schema.extend g).1.members := by
  rw [members_extend admissible_schema]
  exact ⟨over_iterate admissible_schema iris_constants_schema hiris _,
    (extend_eq_ok_iff admissible_schema g).1 hok⟩

/-- **Paths are closed.** If the rules of RDF Schema come to an end on a graph of IRIs, then classes
and properties are transitive in what they leave, and it has all that paths in the graph lead to,
as well as all that paths with inferred steps lead to. -/
theorem extend_schema_closesPaths (g : Graph) (hiris : Over iris g.members)
    (hok : (schema.extend g).2 = .ok ()) :
    ClosesPaths g.members (schema.extend g).1.members ∧
      ClosesPaths (schema.extend g).1.members (schema.extend g).1.members := by
  have hclosed := schemaClosed_extend hiris hok
  refine ⟨hclosed.closesPaths ?_, hclosed.closesPaths subset_rfl⟩
  rw [members_extend admissible_schema]
  exact subset_iterate _ _ _

/-- A pet, its owner, and a schema in which a property is more special than the one of classes. -/
def householdFacts : List Triple :=
  let t (name : String) : Term := .iri ⟨name⟩
  [⟨t "urn:tom", t "urn:petOf", t "urn:ann"⟩,
    ⟨t "urn:petOf", .iri subPropertyOf, t "urn:livesWith"⟩,
    ⟨t "urn:livesWith", .iri subPropertyOf, t "urn:knows"⟩,
    ⟨t "urn:knows", .iri domain, t "urn:Animal"⟩, ⟨t "urn:knows", .iri range, t "urn:Person"⟩,
    ⟨t "urn:Person", .iri subClassOf, t "urn:Agent"⟩,
    ⟨t "urn:isA", .iri subPropertyOf, .iri subClassOf⟩, ⟨t "urn:Agent", t "urn:isA", t "urn:Actor"⟩]

/-- The graph of the household. -/
def household : Graph := .ofTriples none householdFacts

/-- The pet knows its owner, who is an agent, and an actor by a path with an inferred step. -/
theorem extend_schema_closesPaths_household :
    let t (name : String) : Term := .iri ⟨name⟩
    let R : Set Triple := (schema.extend household).1.members
    Over iris household.members ∧ (schema.extend household).2 = .ok () ∧
      ⟨t "urn:tom", t "urn:knows", t "urn:ann"⟩ ∈ R ∧
      ⟨t "urn:tom", .iri rdfType, t "urn:Animal"⟩ ∈ R ∧
      ⟨t "urn:ann", .iri rdfType, t "urn:Agent"⟩ ∈ R ∧
      ⟨t "urn:ann", .iri rdfType, t "urn:Actor"⟩ ∈ R := by
  intro t R
  have hmem {u : Triple} : u ∈ household.members ↔ u ∈ householdFacts :=
    Graph.mem_members.trans Graph.mem_ofTriples
  have hiris : Over iris household.members := by
    have hall : ∀ u ∈ householdFacts, u.subject.isIri = true ∧ u.predicate.isIri = true ∧
        u.object.isIri = true := by decide +kernel
    intro u hu
    obtain ⟨hs, hp, ho⟩ := hall u (hmem.1 hu)
    exact ⟨mem_iris hs, mem_iris hp, mem_iris ho⟩
  have hok : (schema.extend household).2 = .ok () := by decide +kernel
  obtain ⟨hgraph, hresult⟩ := extend_schema_closesPaths household hiris hok
  have hpet : ⟨t "urn:tom", t "urn:petOf", t "urn:ann"⟩ ∈ household.members :=
    hmem.2 (by decide +kernel)
  have hknows : Leads household.members subPropertyOf (t "urn:petOf") (t "urn:knows") :=
    .tail (.single (hmem.2 (by decide +kernel : ⟨_, _, t "urn:livesWith"⟩ ∈ householdFacts)))
      (hmem.2 (by decide +kernel))
  have hagent : Leads household.members subClassOf (t "urn:Person") (t "urn:Agent") :=
    .single (hmem.2 (by decide +kernel))
  have hactor : ⟨t "urn:Agent", .iri subClassOf, t "urn:Actor"⟩ ∈ R :=
    hgraph.property _ (t "urn:isA") _ _ (hmem.2 (by decide +kernel))
      (.single (hmem.2 (by decide +kernel)))
  have hann : ⟨t "urn:ann", .iri rdfType, t "urn:Agent"⟩ ∈ R :=
    hgraph.range _ _ _ _ _ _ hpet hknows (hmem.2 (by decide +kernel)) hagent
  refine ⟨hiris, hok, hgraph.property _ _ _ _ hpet hknows, ?_, hann, ?_⟩
  · exact hgraph.domain _ _ _ _ _ _ hpet hknows (hmem.2 (by decide +kernel)) .refl
  · exact hresult.type _ _ _ hann (.single hactor)

end RuleBase

end RdfStore
