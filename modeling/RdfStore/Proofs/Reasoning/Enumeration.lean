import RdfStore.Proofs.Query.BagSemantics
import RdfStore.Proofs.Reasoning.Consequence

/-!
# Rows of a rule

A rule finds its rows premise by premise, each by a look-up that depends on what is bound before.
No row is lost and none is found twice: the rows are just the ways to put all premises into the
graph (`Rule.rows_enumerate`). So the order of the premises only changes the order of the rows.
-/

namespace RdfStore

/-- A source that gives no triple twice puts at most one triple into the place of each pattern. -/
theorem multiplicity_le_one {n : Triple → Nat} (hn : ∀ t, n t ≤ 1) (row : Row)
    (ps : List Pattern) : multiplicity n row ps ≤ 1 := by
  have hone (p : Pattern) : (p.resolve? row).elim 0 n ≤ 1 := by
    cases p.resolve? row with
    | none => exact Nat.zero_le 1
    | some t => exact hn t
  unfold multiplicity
  induction ps with
  | nil => exact Nat.le_refl 1
  | cons p ps ih =>
    rw [List.map_cons, List.prod_cons]
    exact Nat.mul_le_mul (hone p) ih

/-- Joining over a source that gives no triple twice reaches no row twice. -/
theorem Pattern.nodup_joinAll {find : Lookup} {n : Triple → Nat} (hfind : find.Gives n)
    (hn : ∀ t, n t ≤ 1) (a : Row) (ps : List Pattern) : (joinAll find [a] ps).Nodup := by
  refine List.nodup_iff_count_le_one.2 fun row => ?_
  by_cases hrow : row ∈ joinAll find [a] ps
  · rw [count_joinAll hfind (grows_of_mem_joinAll hrow)]
    exact multiplicity_le_one hn row ps
  · rw [List.count_eq_zero.2 hrow]
    exact Nat.zero_le 1

namespace Rule

variable {r : Rule} {g : Graph} {row : Row}

theorem nodup_rows (r : Rule) (g : Graph) : (r.rows g).Nodup := by
  unfold rows
  split
  · exact List.nodup_nil
  · exact Pattern.nodup_joinAll g.gives_find (fun t => Bool.toNat_le _) .empty r.premises

theorem mem_rows_iff (h : r.premises ≠ []) : row ∈ r.rows g ↔ row.BindsJust r.premises ∧
    ∀ p ∈ r.premises, ∃ t ∈ g.triples, p.resolve? row = some t := by
  rw [mem_rows h, Row.grows_empty_iff]
  refine and_congr_right fun _ => forall₂_congr fun p _ => exists_congr fun t => ?_
  rw [Graph.mem_members, and_comm]

/-- Rules with the same premises, in any order and repeated or not, have the same rows. -/
theorem rows_perm {q : Rule} (h : ∀ p, p ∈ q.premises ↔ p ∈ r.premises) (g : Graph) :
    (q.rows g).Perm (r.rows g) := by
  have hnil : q.premises = [] ↔ r.premises = [] := by
    simp only [List.eq_nil_iff_forall_not_mem, h]
  by_cases hq : q.premises = []
  · have hnone {r : Rule} (hr : r.premises = []) : r.rows g = [] := if_pos (by rw [hr]; rfl)
    rw [hnone hq, hnone (hnil.1 hq)]
  · refine (List.perm_ext_iff_of_nodup (q.nodup_rows g) (r.nodup_rows g)).2 fun row => ?_
    have hbinds : row.BindsJust q.premises ↔ row.BindsJust r.premises := by
      simp only [Row.BindsJust, h]
    rw [mem_rows_iff hq, mem_rows_iff (mt hnil.2 hq), hbinds]
    simp only [h]

theorem fault?_of_addRule {b b' : RuleBase} (h : b.addRule r = .ok b') : r.fault? = none := by
  unfold RuleBase.addRule at h
  split at h
  · exact nomatch h
  · next hfault => exact hfault

/-- In the rows of a rule that may be used, the variables of its conclusions are bound. -/
theorem bound_of_mem_rows (hfault : r.fault? = none) (hrow : row ∈ r.rows g) {c : Pattern}
    (hc : c ∈ r.conclusions) {x : String} (hx : x ∈ c.varNames) : x ∈ row.keys := by
  obtain ⟨hne, hvars⟩ := fault?_eq_none_iff.1 hfault
  obtain ⟨p, hp, hxp⟩ := hvars c hc x (Pattern.mem_varNames.1 hx)
  exact (((mem_rows_iff hne).1 hrow).1 x).2 ⟨p, hp, Pattern.mem_varNames.2 hxp⟩

/-- **The rows of a rule are enumerated.** Over any graph, a rule with premises finds each row once
that binds just the variables of the premises and puts each premise into the graph, and no other
row. In another order the premises give the same rows. If a rule base takes the rule, every row has
a term for every variable of a conclusion. -/
theorem rows_enumerate (r : Rule) (h : r.premises ≠ []) (g : Graph) :
    (r.rows g).Nodup ∧
    (∀ row, row ∈ r.rows g ↔ (∀ x, x ∈ row.keys ↔ ∃ p ∈ r.premises, x ∈ p.varNames) ∧
      ∀ p ∈ r.premises, ∃ t ∈ g.triples, p.resolve? row = some t) ∧
    (∀ ps, ps.Perm r.premises → ({ r with premises := ps }.rows g).Perm (r.rows g)) ∧
    ∀ b b' : RuleBase, b.addRule r = .ok b' →
      ∀ row ∈ r.rows g, ∀ c ∈ r.conclusions, ∀ x ∈ c.varNames, x ∈ row.keys := by
  refine ⟨r.nodup_rows g, fun row => mem_rows_iff h, fun ps hps => ?_, fun b b' hadd => ?_⟩
  · exact rows_perm (fun p => hps.mem_iff) g
  · exact fun row hrow c hc x hx => bound_of_mem_rows (fault?_of_addRule hadd) hrow hc hx

/-- Those who know themselves and somebody, asked for twice. -/
def selfKnowing : Rule :=
  let knows (s o : Slot) : Pattern := ⟨s, .fixed (.iri ⟨"urn:knows"⟩), o⟩
  ⟨"self", [knows (.var "x") (.var "x"), knows (.var "x") (.var "y"), knows (.var "x") (.var "y")],
    [knows (.var "y") (.var "x")]⟩

def acquaintances : Graph :=
  let term (name : String) : Term := .iri ⟨name⟩
  .ofTriples none [⟨term "urn:a", term "urn:knows", term "urn:a"⟩,
    ⟨term "urn:a", term "urn:knows", term "urn:b"⟩, ⟨term "urn:b", term "urn:knows", term "urn:a"⟩]

/-- One of three knows itself, and two rows say whom it knows, in either order of the premises. -/
theorem rows_enumerate_acquaintances :
    let row (y : String) : Row := .ofList [("x", .iri ⟨"urn:a"⟩), ("y", .iri ⟨y⟩)]
    let reversed : Rule := { selfKnowing with premises := selfKnowing.premises.reverse }
    selfKnowing.premises ≠ [] ∧
      selfKnowing.rows acquaintances = [row "urn:a", row "urn:b"] ∧
      (selfKnowing.rows acquaintances).Nodup ∧
      (reversed.rows acquaintances).Perm [row "urn:a", row "urn:b"] ∧
      ∀ c ∈ selfKnowing.conclusions, ∀ x ∈ c.varNames, x ∈ (row "urn:b").keys := by
  intro row reversed
  have hne : selfKnowing.premises ≠ [] := List.cons_ne_nil _ _
  have hrows : selfKnowing.rows acquaintances = [row "urn:a", row "urn:b"] := by decide +kernel
  have hadd : (RuleBase.new "r").addRule selfKnowing =
      .ok { RuleBase.new "r" with rules := [selfKnowing] } := by decide +kernel
  obtain ⟨hnodup, -, hperm, hbound⟩ := rows_enumerate selfKnowing hne acquaintances
  have hreversed := hperm selfKnowing.premises.reverse (List.reverse_perm _)
  rw [hrows] at hreversed
  refine ⟨hne, hrows, hnodup, hreversed, hbound _ _ hadd (row "urn:b") ?_⟩
  rw [hrows]
  exact List.mem_cons_of_mem _ List.mem_cons_self

end Rule

end RdfStore
