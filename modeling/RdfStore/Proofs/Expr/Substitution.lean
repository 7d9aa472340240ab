import RdfStore.Proofs.Expr.Parts

/-!
# Terms for variables

The variables that a row binds can be replaced by their terms before evaluation. An expression is
rebuilt for that from its leaves, each part being given its new arguments (`Expr.rebuild`); this
never fails and comes to the expression with terms for variables (`Expr.fill`). It then means in
every row what it meant before, if the row adds nothing to it (`Expr.rebuild_means_same`). Only the
test whether a variable is bound does not survive, since it is about the variable itself.
-/

namespace RdfStore.Expr

/-! ## Filling in -/

mutual
/-- An expression with terms for the variables that a row binds. -/
def fill (row : Row) : Expr → Expr
  | .const t => .const t
  | .var x =>
    match row.find? x with
    | some t => .const t
    | none => .var x
  | .call f args => .call f (fillAll row args)
def fillAll (row : Row) : List Expr → List Expr
  | [] => []
  | e :: es => e.fill row :: fillAll row es
end

mutual
/-- The same from the leaves up: every part is a copy of what it was, over its new arguments. -/
def rebuild (row : Row) : Expr → Except EvalError Expr
  | .const t => (const t).withArguments []
  | .var x =>
    match row.find? x with
    | some t => .ok (.const t)
    | none => (var x).withArguments []
  | .call f args => rebuildAll row args >>= (call f args).withArguments
def rebuildAll (row : Row) : List Expr → Except EvalError (List Expr)
  | [] => .ok []
  | e :: es => do return (← e.rebuild row) :: (← rebuildAll row es)
end

variable {row row' both : Row} {now : DateTime} {e p : Expr} {f : Function} {args : List Expr}
  {x : String} {t : Term}

theorem fill_var_of_bound (h : row.find? x = some t) : (var x).fill row = .const t := by
  unfold fill
  rw [h]

theorem fill_var_of_free (h : row.find? x = none) : (var x).fill row = .var x := by
  unfold fill
  rw [h]

theorem fillAll_eq (row : Row) (args : List Expr) : fillAll row args = args.map (fill row) := by
  induction args with
  | nil => rfl
  | cons a args ih =>
    unfold fillAll
    rw [ih, List.map_cons]

theorem fill_call (row : Row) (f : Function) (args : List Expr) :
    (call f args).fill row = .call f (args.map (fill row)) := by
  unfold fill
  rw [fillAll_eq]

theorem withArguments_call {args' : List Expr} (h : args'.length = args.length) :
    (call f args).withArguments args' = .ok (.call f args') :=
  if_pos h

theorem rebuildAll_eq (h : ∀ a ∈ args, a.rebuild row = .ok (a.fill row)) :
    rebuildAll row args = .ok (args.map (fill row)) := by
  induction args with
  | nil => rfl
  | cons a args ih =>
    obtain ⟨ha, hargs⟩ := List.forall_mem_cons.1 h
    unfold rebuildAll
    rw [ha, ih hargs]
    rfl

/-- No copy fails, having as many arguments as before. -/
theorem rebuild_eq (row : Row) (e : Expr) : e.rebuild row = .ok (e.fill row) := by
  induction e using inductionOnArguments with
  | const t => rfl
  | var x =>
    unfold rebuild
    cases h : row.find? x with
    | some t => rw [fill_var_of_bound h]
    | none => exact (congrArg Except.ok (fill_var_of_free h)).symm
  | call f args ih =>
    unfold rebuild
    rw [rebuildAll_eq ih, fill_call]
    exact withArguments_call (List.length_map _)

/-! ## What is where it was -/

theorem arguments_fill (row : Row) (e : Expr) :
    (e.fill row).arguments = e.arguments.map (fill row) := by
  cases e with
  | const t => rfl
  | var x =>
    cases h : row.find? x with
    | some t =>
      rw [fill_var_of_bound h]
      rfl
    | none =>
      rw [fill_var_of_free h]
      rfl
  | call f args =>
    rw [fill_call]
    rfl

/-- A filled expression has the filled parts, each at the path that it was at. -/
theorem part?_fill (row : Row) (e : Expr) (path : List ℕ) :
    (e.fill row).part? path = (e.part? path).map (fill row) := by
  induction path generalizing e with
  | nil => rfl
  | cons place path ih =>
    rw [part?_cons, part?_cons, arguments_fill, List.getElem?_map]
    cases e.arguments[place]? with
    | none => rfl
    | some a => exact ih a

/-- All but the variables that are replaced keep their name. -/
theorem rootName_fill (h : ∀ x, e = .var x → row.find? x = none) :
    (e.fill row).rootName = e.rootName := by
  cases e with
  | const t => rfl
  | var x => rw [fill_var_of_free (h x rfl)]
  | call f args =>
    rw [fill_call]
    rfl

/-! ## Meaning -/

/-- **Filling in first or looking up later.** Without a test whether a variable is bound, a filled
expression means in a further row what the expression means in both rows together. -/
theorem evaluate_fill (hbound : ∀ args, ¬e.HasPart (.call .bound args))
    (hboth : ∀ x, e.HasPart (.var x) → both.find? x = (row.find? x).or (row'.find? x)) :
    (e.fill row).evaluate row' now = e.evaluate both now := by
  induction e using inductionOnArguments with
  | const t => rfl
  | var x =>
    have hx := hboth x (.refl _)
    show _ = both.value x
    unfold Row.value
    cases h : row.find? x with
    | some t =>
      rw [fill_var_of_bound h, hx, h]
      rfl
    | none =>
      rw [fill_var_of_free h, hx, h]
      rfl
  | call f args ih =>
    have hf : f ≠ .bound := by
      rintro rfl
      exact hbound args (.refl _)
    rw [fill_call]
    refine evaluate_call_congr hf ?_
    rw [evaluateAll_eq, evaluateAll_eq, List.map_map]
    exact List.map_congr_left fun a ha => ih a ha (fun bs h => hbound bs (.argument ha h))
      fun x hx => hboth x (.argument ha hx)

-- A term is no variable that could be bound or not, so the test does not accept it.
example :
    let row : Row := SortedMap.ofList [("n", .plain "Ada")]
    (call .bound [.var "n"]).evaluate row now = .ok (.boolean true) ∧
      ((call .bound [.var "n"]).fill row).evaluate row now =
        .error (.kind "BOUND" "non-variable \"Ada\"") := ⟨rfl, rfl⟩

/-- **A rebuilt expression means the same.** An expression can always be rebuilt with terms for the
variables that a row binds. It then has the same paths as before; where such a variable was, its
term is, and everything else has the name and the number of arguments that it had. If the expression
does not test whether a variable is bound, it comes in every row that binds none of its remaining
variables to the value or the error that it came to before. -/
theorem rebuild_means_same (row : Row) (now : DateTime) (e : Expr) :
    ∃ e', e.rebuild row = .ok e' ∧
      (∀ path, e'.part? path = none ↔ e.part? path = none) ∧
      (∀ path p, e.part? path = some p → ∃ p', e'.part? path = some p' ∧
        (∀ x t, p = .var x → row.find? x = some t → p' = .const t) ∧
        ((∀ x, p = .var x → row.find? x = none) →
          p'.rootName = p.rootName ∧ p'.arguments.length = p.arguments.length)) ∧
      ((∀ args, ¬e.HasPart (.call .bound args)) →
        ∀ row', (∀ x ∈ e.varNames, row.find? x = none → row'.find? x = none) →
          e'.evaluate row' now = e.evaluate row now) := by
  refine ⟨e.fill row, rebuild_eq row e, fun path => ?_, fun path p hp => ?_, ?_⟩
  · rw [part?_fill, Option.map_eq_none_iff]
  · refine ⟨p.fill row, by rw [part?_fill, hp]; rfl, ?_, fun hkept => ⟨rootName_fill hkept, ?_⟩⟩
    · rintro x t rfl h
      exact fill_var_of_bound h
    · rw [arguments_fill, List.length_map]
  · intro hbound row' hfree
    refine evaluate_fill hbound fun x hx => ?_
    cases h : row.find? x with
    | some t => rfl
    | none => exact (hfree x (mem_varNames_iff.2 hx) h).symm

/-- One more than a number, unless another number is known. -/
def successor : Expr := .call .coalesce
  [.var "known", .call (.arithmetic .add) [.var "n", .const (.typed "1" Vocabulary.xsdInteger)]]

def fourRow : Row := SortedMap.ofList [("n", .typed "4" Vocabulary.xsdInteger)]

def sevenRow : Row := SortedMap.ofList [("n", .typed "7" Vocabulary.xsdInteger)]

/-- What replaced the number does not change with it, and the missing number is missed as before. -/
theorem rebuild_means_same_successor :
    let now : DateTime := ⟨2024, 1, 1, 12, 0, 0, 0, 0⟩
    (∀ args, ¬successor.HasPart (.call .bound args)) ∧
      (∀ x ∈ successor.varNames, fourRow.find? x = none → sevenRow.find? x = none) ∧
      ∃ e', successor.rebuild fourRow = .ok e' ∧
        e'.evaluate sevenRow now = successor.evaluate fourRow now ∧
        e'.evaluate sevenRow now = .ok (.integer 5) := by
  intro now
  have hbound : ∀ args, ¬successor.HasPart (.call .bound args) := by simp [successor]
  have hfree : ∀ x ∈ successor.varNames.toList, fourRow.find? x = none →
      sevenRow.find? x = none := by decide +kernel
  obtain ⟨e', hrebuild, -, -, hsame⟩ := rebuild_means_same fourRow now successor
  have hevaluate := hsame hbound sevenRow hfree
  exact ⟨hbound, hfree, e', hrebuild, hevaluate, hevaluate.trans rfl⟩

end RdfStore.Expr
