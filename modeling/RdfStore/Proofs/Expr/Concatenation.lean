import RdfStore.Proofs.Expr.Visiting

/-!
# Concatenations in groups

Texts one after the other have the language that all of them have, and none as soon as two of them
differ (`commonLanguage_eq_some_iff`). So it does not matter whether some of them have been put
together before (`Expr.concat_regroups`).
-/

namespace RdfStore

/-! ## The language of several texts -/

/-- The language that texts with these languages have in common. -/
def commonLanguage : List (Option String) → Option String
  | [] => none
  | g :: gs => if gs.all fun h => h = g then g else none

section Language

variable {g : String} {gs hs : List (Option String)}

theorem commonLanguage_eq_some_iff (hgs : gs ≠ []) :
    commonLanguage gs = some g ↔ ∀ h ∈ gs, h = some g := by
  cases gs with
  | nil => exact absurd rfl hgs
  | cons a gs =>
    rw [commonLanguage, List.forall_mem_cons]
    split
    · next hall =>
      refine ⟨fun ha => ⟨ha, fun h hh => ?_⟩, fun h => h.1⟩
      have hsame : h = a := by simpa using List.all_eq_true.1 hall h hh
      rw [hsame, ha]
    · next hall =>
      refine iff_of_false nofun fun h => hall (List.all_eq_true.2 fun b hb => ?_)
      rw [h.1, h.2 b hb]
      exact decide_eq_true rfl

/-- Two groups have in common what their own common languages have in common. -/
theorem commonLanguage_append (hgs : gs ≠ []) (hhs : hs ≠ []) :
    commonLanguage (gs ++ hs) = commonLanguage [commonLanguage gs, commonLanguage hs] := by
  refine Option.ext fun g => ?_
  rw [commonLanguage_eq_some_iff (List.append_ne_nil_of_left_ne_nil hgs hs),
    commonLanguage_eq_some_iff (List.cons_ne_nil _ _), List.forall_mem_append,
    List.forall_mem_cons, List.forall_mem_singleton, commonLanguage_eq_some_iff hgs,
    commonLanguage_eq_some_iff hhs]

/-- What is known after one more text: `none` at the beginning, then the language of all texts so
far, if they have one. -/
def agree : Option (Option String) → Option String → Option (Option String)
  | none, g => some g
  | some known, g => if known = g then some known else some none

theorem foldl_agree_some_none (gs : List (Option String)) :
    gs.foldl agree (some none) = some none := by
  induction gs with
  | nil => rfl
  | cons g gs ih =>
    have hstep : agree (some none) g = some none := ite_self _
    rw [List.foldl_cons, hstep, ih]

theorem foldl_agree_some (g : Option String) (gs : List (Option String)) :
    gs.foldl agree (some g) = some (commonLanguage (g :: gs)) := by
  induction gs with
  | nil => rfl
  | cons h gs ih =>
    rw [List.foldl_cons]
    by_cases hgh : g = h
    · subst hgh
      have hstep : agree (some g) g = some g := if_pos rfl
      rw [hstep, ih]
      simp [commonLanguage]
    · have hstep : agree (some g) h = some none := if_neg hgh
      rw [hstep, foldl_agree_some_none]
      simp [commonLanguage, Ne.symm hgh]

/-- The common language can be found text by text. Once two differ, no later text brings one back. -/
theorem commonLanguage_eq_foldl (gs : List (Option String)) :
    commonLanguage gs = (gs.foldl agree none).join := by
  cases gs with
  | nil => rfl
  | cons g gs =>
    have hfirst : agree none g = some g := rfl
    rw [List.foldl_cons, hfirst, foldl_agree_some]
    rfl

end Language

/-! ## Concatenation of values -/

/-- A text with its language as a value. -/
def Value.ofText (part : String × Option String) : Value := .text part.1 part.2

theorem Value.ofText_inj {part part' : String × Option String} :
    ofText part = ofText part' ↔ part = part' := by
  refine ⟨fun h => ?_, congrArg ofText⟩
  obtain ⟨htext, hlanguage⟩ := Value.text.inj h
  exact Prod.ext htext hlanguage

/-- The whole that texts with their languages make. -/
def joinedTexts (parts : List (String × Option String)) : String × Option String :=
  (String.join (parts.map Prod.fst), commonLanguage (parts.map Prod.snd))

theorem joinedTexts_append {ps qs : List (String × Option String)} (hps : ps ≠ []) (hqs : qs ≠ []) :
    joinedTexts (ps ++ qs) = joinedTexts [joinedTexts ps, joinedTexts qs] := by
  unfold joinedTexts
  rw [List.map_append, List.map_append, String.join_append, commonLanguage_append
    (fun h => hps (List.map_eq_nil_iff.1 h)) fun h => hqs (List.map_eq_nil_iff.1 h)]
  simp

namespace Function

theorem textOf_eq_ok_iff {f : Function} {v : Value} {part : String × Option String} :
    f.textOf v = .ok part ↔ v = .ofText part := by
  cases v with
  | text s g =>
    obtain ⟨s', g'⟩ := part
    simp [textOf, Value.ofText]
  | _ => exact iff_of_false nofun nofun

theorem mapM_textOf_eq_ok_iff {f : Function} {vs : List Value}
    {parts : List (String × Option String)} :
    vs.mapM f.textOf = .ok parts ↔ vs = parts.map Value.ofText :=
  mapM_eq_ok_iff fun _ _ => textOf_eq_ok_iff

theorem concatenate_eq_ok_iff {vs : List Value} {v : Value} : concatenate vs = .ok v ↔
    ∃ parts, vs = parts.map Value.ofText ∧ v = .ofText (joinedTexts parts) := by
  unfold concatenate
  rw [bind_eq_ok_iff]
  refine exists_congr fun parts => and_congr mapM_textOf_eq_ok_iff ?_
  rcases parts with _ | ⟨⟨s, g⟩, parts⟩
  · exact ⟨fun h => (Except.ok.inj h).symm, fun h => congrArg Except.ok h.symm⟩
  · have hall : (parts.all fun part => part.2 = g) = (parts.map Prod.snd).all fun h => h = g := by
      rw [List.all_map]
      rfl
    dsimp only
    rw [hall]
    exact ⟨fun h => (Except.ok.inj h).symm, fun h => congrArg Except.ok h.symm⟩

/-- One more text, behind those that have been put together. -/
def appendText (whole : String × Option (Option String)) (v : Value) :
    Except EvalError (String × Option (Option String)) := do
  let (s, g) ← concat.textOf v
  return (whole.1 ++ s, agree whole.2 g)

theorem foldlM_appendText (vs : List Value) (whole : String × Option (Option String)) :
    vs.foldlM appendText whole = (vs.mapM concat.textOf).map fun parts =>
      (whole.1 ++ String.join (parts.map Prod.fst), (parts.map Prod.snd).foldl agree whole.2) := by
  induction vs generalizing whole with
  | nil =>
    show Except.ok whole = .ok (whole.1 ++ String.join [], whole.2)
    rw [String.join_nil, String.append_empty]
  | cons v vs ih =>
    rw [List.foldlM_cons, List.mapM_cons]
    unfold appendText
    cases hv : concat.textOf v with
    | error err => rfl
    | ok part =>
      show vs.foldlM appendText (whole.1 ++ part.1, agree whole.2 part.2) = _
      rw [ih]
      cases vs.mapM concat.textOf with
      | error err => rfl
      | ok parts =>
        show Except.ok (whole.1 ++ part.1 ++ String.join (parts.map Prod.fst), _) =
          Except.ok (whole.1 ++ String.join (part.1 :: parts.map Prod.fst), _)
        rw [String.join_cons, String.append_assoc]
        rfl

/-- **One pass is enough.** Texts can be put together while they are looked at one by one, and the
first value that is no text ends it in either way. -/
theorem concatenate_eq_foldlM (vs : List Value) :
    concatenate vs = (vs.foldlM appendText ("", none)).map fun whole =>
      .text whole.1 whole.2.join := by
  rw [foldlM_appendText]
  cases hvs : vs.mapM concat.textOf with
  | error err =>
    unfold concatenate
    rw [hvs]
    rfl
  | ok parts =>
    show _ = Except.ok (Value.text ("" ++ String.join (parts.map Prod.fst))
      ((parts.map Prod.snd).foldl agree none).join)
    rw [String.empty_append, ← commonLanguage_eq_foldl]
    exact concatenate_eq_ok_iff.2 ⟨parts, mapM_textOf_eq_ok_iff.1 hvs, rfl⟩

end Function

/-! ## Concatenation of expressions -/

namespace Expr

variable {row : Row} {now : DateTime} {args xs ys : List Expr} {v : Value}

/-- A concatenation comes to something just if all its arguments come to texts. -/
theorem evaluate_concat_eq_ok_iff : (call .concat args).evaluate row now = .ok v ↔
    ∃ parts, args.map (evaluate row now) = (parts.map fun part => .ok (.ofText part)) ∧
      v = .ofText (joinedTexts parts) := by
  have harity : (Function.concat).arityError? args.length = none := by
    simp [Function.arityError?, Function.arity?, Arity.accepts]
  rw [evaluate_strict rfl harity, bind_eq_ok_iff, evaluateAll_eq]
  constructor
  · rintro ⟨vs, hvs, h⟩
    obtain ⟨parts, rfl, rfl⟩ := Function.concatenate_eq_ok_iff.1 h
    refine ⟨parts, ?_, rfl⟩
    rw [Outcome.all_eq_ok_iff.1 hvs, List.map_map]
    rfl
  · rintro ⟨parts, hparts, rfl⟩
    refine ⟨parts.map Value.ofText, ?_, Function.concatenate_eq_ok_iff.2 ⟨parts, rfl, rfl⟩⟩
    rw [Outcome.all_eq_ok_iff, hparts, List.map_map]
    rfl

theorem evaluate_concat_pair_eq_ok_iff {a b : Expr} :
    (call .concat [a, b]).evaluate row now = .ok v ↔
      ∃ p q, a.evaluate row now = .ok (.ofText p) ∧ b.evaluate row now = .ok (.ofText q) ∧
        v = .ofText (joinedTexts [p, q]) := by
  rw [evaluate_concat_eq_ok_iff]
  constructor
  · rintro ⟨parts, hparts, rfl⟩
    obtain ⟨p, ps, rfl, hp, hps⟩ := List.map_eq_cons_iff.1 hparts.symm
    obtain ⟨q, rfl, hq⟩ := List.map_eq_singleton_iff.1 hps
    exact ⟨p, q, hp.symm, hq.symm, rfl⟩
  · rintro ⟨p, q, hp, hq, rfl⟩
    refine ⟨[p, q], ?_, rfl⟩
    rw [List.map_cons, List.map_singleton, hp, hq]
    rfl

theorem evaluate_concat_append (hxs : xs ≠ []) (hys : ys ≠ []) :
    (call .concat (xs ++ ys)).evaluate row now = .ok v ↔
      (call .concat [call .concat xs, call .concat ys]).evaluate row now = .ok v := by
  have hne {args : List Expr} {parts : List (String × Option String)} (hargs : args ≠ [])
      (h : args.map (evaluate row now) = parts.map fun part => .ok (.ofText part)) :
      parts ≠ [] := by
    rintro rfl
    exact hargs (List.map_eq_nil_iff.1 h)
  rw [evaluate_concat_pair_eq_ok_iff, evaluate_concat_eq_ok_iff]
  constructor
  · rintro ⟨parts, hparts, rfl⟩
    -- The texts are split where the arguments are.
    rw [List.map_append] at hparts
    obtain ⟨ps, qs, rfl, hps, hqs⟩ := List.append_eq_map_iff.1 hparts
    refine ⟨joinedTexts ps, joinedTexts qs, ?_, ?_, ?_⟩
    · exact evaluate_concat_eq_ok_iff.2 ⟨ps, hps.symm, rfl⟩
    · exact evaluate_concat_eq_ok_iff.2 ⟨qs, hqs.symm, rfl⟩
    · rw [joinedTexts_append (hne hxs hps.symm) (hne hys hqs.symm)]
  · rintro ⟨p, q, hp, hq, rfl⟩
    obtain ⟨ps, hps, hp⟩ := evaluate_concat_eq_ok_iff.1 hp
    obtain ⟨qs, hqs, hq⟩ := evaluate_concat_eq_ok_iff.1 hq
    obtain rfl := Value.ofText_inj.1 hp
    obtain rfl := Value.ofText_inj.1 hq
    refine ⟨ps ++ qs, ?_, ?_⟩
    · rw [List.map_append, List.map_append, hps, hqs]
    · rw [joinedTexts_append (hne hxs hps) (hne hys hqs)]

/-- **Concatenations can be regrouped.** Two groups put together come to what all their arguments
come to at once. This is their texts one after the other, in the language that all have in common,
and it is there just if all arguments come to texts. -/
theorem concat_regroups (hxs : xs ≠ []) (hys : ys ≠ []) (row : Row) (now : DateTime) (v : Value) :
    ((call .concat (xs ++ ys)).evaluate row now = .ok v ↔
      (call .concat [call .concat xs, call .concat ys]).evaluate row now = .ok v) ∧
    ((call .concat (xs ++ ys)).evaluate row now = .ok v ↔
      ∃ parts : List (String × Option String),
        (xs ++ ys).map (evaluate row now) = (parts.map fun part => .ok (.text part.1 part.2)) ∧
        ∃ language, v = .text (String.join (parts.map Prod.fst)) language ∧
          ∀ g, language = some g ↔ ∀ part ∈ parts, part.2 = some g) := by
  refine ⟨evaluate_concat_append hxs hys, ?_⟩
  rw [evaluate_concat_eq_ok_iff]
  refine exists_congr fun parts => and_congr_right fun hparts => ?_
  have hne : parts.map Prod.snd ≠ [] := by
    intro h
    rw [List.map_eq_nil_iff.1 h] at hparts
    exact List.append_ne_nil_of_left_ne_nil hxs ys (List.map_eq_nil_iff.1 hparts)
  have hcommon (g : String) : commonLanguage (parts.map Prod.snd) = some g ↔
      ∀ part ∈ parts, part.2 = some g :=
    (commonLanguage_eq_some_iff hne).trans List.forall_mem_map
  constructor
  · rintro rfl
    exact ⟨_, rfl, hcommon⟩
  · rintro ⟨language, rfl, hlanguage⟩
    have hsame : language = commonLanguage (parts.map Prod.snd) :=
      Option.ext fun g => (hlanguage g).trans (hcommon g).symm
    rw [hsame]
    rfl

/-- A conflict of languages in one group is not settled by the other group. -/
theorem concat_regroups_greetings :
    let hello : Expr := .const (.literal ⟨"hello ", .tagged "en"⟩)
    let salut : Expr := .const (.literal ⟨"salut ", .tagged "fr"⟩)
    let now : DateTime := ⟨2024, 1, 1, 12, 0, 0, 0, 0⟩
    [hello, salut] ≠ [] ∧ [hello] ≠ [] ∧
      (call .concat ([hello, salut] ++ [hello])).evaluate .empty now =
        .ok (.text "hello salut hello " none) ∧
      (call .concat [call .concat [hello, salut], call .concat [hello]]).evaluate .empty now =
        .ok (.text "hello salut hello " none) := by
  intro hello salut now
  have hgroup : [hello, salut] ≠ [] := List.cons_ne_nil _ _
  have hsingle : [hello] ≠ [] := List.cons_ne_nil _ _
  have hwhole : (call .concat ([hello, salut] ++ [hello])).evaluate .empty now =
      .ok (.text "hello salut hello " none) :=
    evaluate_concat_eq_ok_iff.2
      ⟨[("hello ", some "en"), ("salut ", some "fr"), ("hello ", some "en")], rfl, rfl⟩
  exact ⟨hgroup, hsingle, hwhole, (concat_regroups hgroup hsingle _ now _).1.1 hwhole⟩

end Expr

end RdfStore
