import RdfStore.Proofs.Expr.Visiting

/-!
# Parts of expressions

A path says, call by call, which argument to go to; the parts of an expression are what it has at
its paths (`Expr.part?`). The variables that an expression reports are those among its parts
(`Expr.mem_varNames_iff`), and evaluation reads no other: in rows that agree on them it comes to the
same (`Expr.evaluate_eq_of_agree`).
-/

namespace RdfStore

/-! ## Paths -/

namespace Expr

variable {e p : Expr} {f : Function} {args : List Expr} {x : String}

/-- The part of an expression at a path, which says the place of an argument in call after call. -/
def part? : Expr → List ℕ → Option Expr
  | e, [] => some e
  | e, place :: path => e.arguments[place]?.bind fun a => a.part? path

def HasPart (e p : Expr) : Prop := ∃ path, e.part? path = some p

theorem part?_cons (e : Expr) (place : ℕ) (path : List ℕ) :
    e.part? (place :: path) = e.arguments[place]?.bind fun a => a.part? path := rfl

theorem HasPart.refl (e : Expr) : e.HasPart e := ⟨[], rfl⟩

/-- The parts of an expression are itself and the parts of its arguments. -/
theorem hasPart_iff : e.HasPart p ↔ p = e ∨ ∃ a ∈ e.arguments, a.HasPart p := by
  constructor
  · rintro ⟨path, h⟩
    cases path with
    | nil => exact .inl (Option.some.inj h).symm
    | cons place path =>
      obtain ⟨a, ha, h⟩ := Option.bind_eq_some_iff.1 h
      exact .inr ⟨a, List.mem_of_getElem? ha, path, h⟩
  · rintro (rfl | ⟨a, ha, path, h⟩)
    · exact .refl p
    · obtain ⟨place, hplace⟩ := List.mem_iff_getElem?.1 ha
      exact ⟨place :: path, Option.bind_eq_some_iff.2 ⟨a, hplace, h⟩⟩

@[simp] theorem hasPart_const {t : Term} : (const t).HasPart p ↔ p = .const t :=
  hasPart_iff.trans (or_iff_left fun ⟨_, ha, _⟩ => List.not_mem_nil ha)

@[simp] theorem hasPart_var : (var x).HasPart p ↔ p = .var x :=
  hasPart_iff.trans (or_iff_left fun ⟨_, ha, _⟩ => List.not_mem_nil ha)

@[simp] theorem hasPart_call :
    (call f args).HasPart p ↔ p = .call f args ∨ ∃ a ∈ args, a.HasPart p := hasPart_iff

theorem HasPart.argument {a : Expr} (ha : a ∈ args) (h : a.HasPart p) : (call f args).HasPart p :=
  hasPart_call.2 (.inr ⟨a, ha, h⟩)

/-! ## Variables -/

theorem mem_mentionsAll : x ∈ mentionsAll args ↔ ∃ a ∈ args, x ∈ a.mentions := by
  induction args with
  | nil => exact iff_of_false List.not_mem_nil fun ⟨a, ha, _⟩ => List.not_mem_nil ha
  | cons a args ih =>
    unfold mentionsAll
    rw [List.mem_append, ih, List.exists_mem_cons_iff]

/-- The variables that an expression reports are those that occur in it, at whatever depth. -/
theorem mem_varNames_iff : x ∈ e.varNames ↔ e.HasPart (.var x) := by
  show x ∈ SortedSet.ofList e.mentions ↔ _
  rw [SortedSet.mem_ofList]
  induction e using inductionOnArguments with
  | const t => simp [mentions]
  | var y => simp [mentions]
  | call f args ih =>
    simp only [hasPart_call, reduceCtorEq, false_or]
    show x ∈ mentionsAll args ↔ ∃ a ∈ args, a.HasPart (.var x)
    rw [mem_mentionsAll]
    exact exists_congr fun a => and_congr_right fun ha => ih a ha

end Expr

/-! ## What evaluation reads -/

/-- Only the test whether a variable is bound looks at a row, or at an argument. -/
theorem Function.Takes.combine_eq {f : Function} {os : List Outcome} (h : Takes f os)
    (hf : f ≠ .bound) (row row' : Row) (now : DateTime) (args args' : List Expr) :
    f.combine row now args os = f.combine row' now args' os := by
  cases h with
  | strict hstrict => rw [combine_of_isStrict hstrict, combine_of_isStrict hstrict]
  | bound => exact absurd rfl hf
  | _ => rfl

namespace Expr

variable {row row' : Row} {now : DateTime} {f : Function} {args args' : List Expr}

theorem length_evaluateAll : (evaluateAll row now args).length = args.length := by
  rw [evaluateAll_eq, List.length_map]

/-- Calls of any other function come to the same if their arguments do, in whatever rows. -/
theorem evaluate_call_congr (hf : f ≠ .bound)
    (h : evaluateAll row now args = evaluateAll row' now args') :
    (call f args).evaluate row now = (call f args').evaluate row' now := by
  have hlength : args.length = args'.length := by
    rw [← length_evaluateAll, h, length_evaluateAll]
  cases harity : f.arityError? args.length with
  | some err =>
    rw [evaluate_call_of_arityError harity, evaluate_call_of_arityError (hlength ▸ harity)]
  | none =>
    have htakes : f.Takes (evaluateAll row' now args') := by
      apply Function.takes
      rw [length_evaluateAll, ← hlength, harity]
    rw [evaluate_call harity, evaluate_call (hlength ▸ harity), h]
    exact htakes.combine_eq hf row row' now args args'

/-- The test reads the variable that it is about, and evaluates nothing. -/
theorem evaluate_bound_congr (h : ∀ x, .var x ∈ args → row.find? x = row'.find? x) :
    (call .bound args).evaluate row now = (call .bound args).evaluate row' now := by
  cases harity : Function.bound.arityError? args.length with
  | some err => rw [evaluate_call_of_arityError harity, evaluate_call_of_arityError harity]
  | none =>
    cases Function.takes harity with
    | strict hstrict => exact nomatch hstrict
    | bound a =>
      cases a with
      | var x =>
        show Except.ok (Value.boolean (row.find? x).isSome) =
          .ok (.boolean (row'.find? x).isSome)
        rw [h x List.mem_cons_self]
      | const t => rfl
      | call g bs => rfl

/-- One step: a call reads its variables where its arguments do. -/
theorem evaluate_call_of_agree
    (h : ∀ x, (call f args).HasPart (.var x) → row.find? x = row'.find? x)
    (hargs : ∀ a ∈ args, a.evaluate row now = a.evaluate row' now) :
    (call f args).evaluate row now = (call f args).evaluate row' now := by
  by_cases hf : f = .bound
  · subst hf
    exact evaluate_bound_congr fun x hx => h x (.argument hx (.refl _))
  · refine evaluate_call_congr hf ?_
    rw [evaluateAll_eq, evaluateAll_eq]
    exact List.map_congr_left hargs

/-- **Evaluation reads the reported variables only.** In two rows that agree on each variable of an
expression, binding it to the same term or not at all, the expression comes to the same value or the
same error, and so does its truth. -/
theorem evaluate_eq_of_agree (now : DateTime) (e : Expr) {row row' : Row}
    (h : ∀ x ∈ e.varNames, row.find? x = row'.find? x) :
    e.evaluate row now = e.evaluate row' now ∧ e.holds row now = e.holds row' now := by
  have hevaluate : e.evaluate row now = e.evaluate row' now := by
    simp only [mem_varNames_iff] at h
    induction e using inductionOnArguments with
    | const t => rfl
    | var x =>
      show row.value x = row'.value x
      unfold Row.value
      rw [h x (.refl _)]
    | call f args ih =>
      exact evaluate_call_of_agree h fun a ha => ih a ha fun x hx => h x (.argument ha hx)
  exact ⟨hevaluate, congrArg Outcome.truth hevaluate⟩

/-- The short name of someone, if there is one, and else the name. -/
def address : Expr := .call .choose [.call .bound [.var "short"], .var "short", .var "name"]

def adaRow : Row := SortedMap.ofList [("name", .plain "Ada")]

/-- An age that is not asked for makes no difference. -/
theorem evaluate_eq_of_agree_address :
    let now : DateTime := ⟨2024, 1, 1, 12, 0, 0, 0, 0⟩
    let agedRow : Row := adaRow.insert "age" (.ofInteger 36)
    adaRow ≠ agedRow ∧ (∀ x ∈ address.varNames, adaRow.find? x = agedRow.find? x) ∧
      address.evaluate adaRow now = address.evaluate agedRow now ∧
      address.evaluate agedRow now = .ok (.text "Ada" none) := by
  intro now agedRow
  have hagree : ∀ x ∈ address.varNames.toList, adaRow.find? x = agedRow.find? x := by
    decide +kernel
  obtain ⟨hevaluate, -⟩ := evaluate_eq_of_agree now address hagree
  exact ⟨by decide +kernel, hagree, hevaluate, hevaluate.symm.trans rfl⟩

end Expr

end RdfStore
