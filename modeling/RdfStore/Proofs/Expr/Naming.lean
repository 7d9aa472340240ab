import Mathlib.Control.Monad.Basic
import RdfStore.Expr.Function

/-!
# Functions and their names

A text is looked up among the keywords, then among the extensions, and is read as an IRI last. No
keyword can be read as an IRI, but the IRI of an extension can be spelled in other ways, and such a
text stands for an unknown function whose name is that of the extension. All other functions are
found again by their names (`Function.ofName_name`).
-/

namespace RdfStore

/-! ## IRIs have a colon -/

namespace Text

theorem mem_of_mem_strip {p : Char → Bool} {c : Char} {cs : List Char} (h : c ∈ strip p cs) :
    c ∈ cs := by
  have hback := (List.dropWhile_sublist p).subset (List.mem_reverse.1 h)
  exact (List.dropWhile_sublist p).subset (List.mem_reverse.1 hback)

end Text

namespace Url

theorem colon_mem_of_scheme? {cs : List Char} {parts : List Char × List Char}
    (h : scheme? cs = some parts) : ':' ∈ cs := by
  unfold scheme? at h
  dsimp only at h
  split at h
  · next rest hrest =>
    have hcolon : ':' ∈ ':' :: rest := List.mem_cons_self
    rw [← hrest] at hcolon
    exact (List.dropWhile_sublist _).subset hcolon
  · exact nomatch h

theorem colon_mem_of_read {cs : List Char} {u : Parts} (h : read cs = .ok u) : ':' ∈ cs := by
  unfold read at h
  dsimp only at h
  split at h
  · exact nomatch h
  · next scheme rest hscheme =>
    exact Text.mem_of_mem_strip (List.mem_filter.1 (colon_mem_of_scheme? hscheme)).1

end Url

theorem Iri.colon_mem_of_read {s : String} {i : Iri} (h : Iri.read s = .ok i) :
    ':' ∈ s.toList := by
  unfold Iri.read Url.normalize at h
  cases hread : Url.read (Text.trim s).toList with
  | error e =>
    rw [hread] at h
    exact nomatch h
  | ok u =>
    have hcolon := Url.colon_mem_of_read hread
    unfold Text.trim at hcolon
    rw [String.toList_ofList] at hcolon
    exact Text.mem_of_mem_strip hcolon

namespace Function

variable {s : String} {f g : Function} {i : Iri}

/-! ## Names -/

/-- A text in capitals, as keywords are looked up. -/
def capitals (s : String) : String := String.ofList (s.toList.map Char.toUpper)

theorem capitals_name (hf : f ∈ keywords) : capitals f.name = f.name := by
  have hall : ∀ f ∈ keywords, capitals f.name = f.name := by decide +kernel
  exact hall f hf

theorem keyword_unique (hf : f ∈ keywords) (hg : g ∈ keywords) (h : f.name = g.name) : f = g := by
  have hall : ∀ f ∈ keywords, ∀ g ∈ keywords, f.name = g.name → f = g := by decide +kernel
  exact hall f hf g hg h

theorem extension_unique (hf : f ∈ extensions) (hg : g ∈ extensions) (h : f.name = g.name) :
    f = g := by
  have hall : ∀ f ∈ extensions, ∀ g ∈ extensions, f.name = g.name → f = g := by decide +kernel
  exact hall f hf g hg h

theorem colon_mem_extension (hg : g ∈ extensions) : ':' ∈ g.name.toList := by
  have hall : ∀ g ∈ extensions, ':' ∈ g.name.toList := by decide +kernel
  exact hall g hg

theorem extension_ne_unknown (hg : g ∈ extensions) : g ≠ .unknown i := by
  rintro rfl
  simp [extensions] at hg

/-- The names of the extensions are IRIs in normal form. -/
theorem read_extension (hg : g ∈ extensions) : Iri.read g.name = .ok ⟨g.name⟩ := by
  have hall : ∀ g ∈ extensions, Iri.read g.name = .ok ⟨g.name⟩ := by decide +kernel
  exact hall g hg

/-- A text with a colon is no keyword in any case. -/
theorem keyword_ne_of_colon (hs : ':' ∈ s.toList) (hf : f ∈ keywords) : f.name ≠ capitals s := by
  have hall : ∀ f ∈ keywords, ':' ∉ f.name.toList := by decide +kernel
  intro h
  refine hall f hf ?_
  rw [h]
  unfold capitals
  rw [String.toList_ofList]
  exact List.mem_map.2 ⟨':', hs, rfl⟩

/-! ## Looking up -/

theorem find?_name_eq_some {fs : List Function} (h : fs.find? (fun f => f.name = s) = some f) :
    f ∈ fs ∧ f.name = s :=
  ⟨List.mem_of_find?_eq_some h, by simpa using List.find?_some h⟩

theorem find?_name_eq_none {fs : List Function} (h : fs.find? (fun f => f.name = s) = none) :
    ∀ f ∈ fs, f.name ≠ s := fun f hf => by simpa using List.find?_eq_none.1 h f hf

/-- **What a text stands for.** A keyword in any case, an extension by its exact name, or an unknown
function if the text can be read as an IRI but is the name of no extension. -/
theorem ofName_eq_ok_iff : ofName s = .ok f ↔
    (f ∈ keywords ∧ f.name = capitals s) ∨ (f ∈ extensions ∧ f.name = s) ∨
      ∃ i, f = .unknown i ∧ Iri.read s = .ok i ∧ ∀ g ∈ extensions, g.name ≠ s := by
  unfold ofName
  dsimp only
  rw [← capitals]
  cases hkey : keywords.find? fun f => f.name = capitals s with
  | some k =>
    obtain ⟨hk, hname⟩ := find?_name_eq_some hkey
    -- A keyword has no colon, so the text is neither an extension nor an IRI.
    have hcolon : ':' ∉ s.toList := fun h => keyword_ne_of_colon h hk hname
    constructor
    · rintro h
      obtain rfl := Except.ok.inj h
      exact .inl ⟨hk, hname⟩
    · rintro (⟨hf, hfname⟩ | ⟨hf, rfl⟩ | ⟨i, -, hread, -⟩)
      · rw [keyword_unique hk hf (hname.trans hfname.symm)]
      · exact absurd (colon_mem_extension hf) hcolon
      · exact absurd (Iri.colon_mem_of_read hread) hcolon
  | none =>
    have hkeyword := find?_name_eq_none hkey
    cases hext : extensions.find? fun f => f.name = s with
    | some k =>
      obtain ⟨hk, hname⟩ := find?_name_eq_some hext
      constructor
      · rintro h
        obtain rfl := Except.ok.inj h
        exact .inr (.inl ⟨hk, hname⟩)
      · rintro (⟨hf, hfname⟩ | ⟨hf, hfname⟩ | ⟨i, -, -, hother⟩)
        · exact absurd hfname (hkeyword f hf)
        · rw [extension_unique hk hf (hname.trans hfname.symm)]
        · exact absurd hname (hother k hk)
    | none =>
      have hextension := find?_name_eq_none hext
      constructor
      · intro h
        cases hread : Iri.read s with
        | error e =>
          rw [hread] at h
          exact nomatch h
        | ok i =>
          rw [hread] at h
          exact .inr (.inr ⟨i, (Except.ok.inj h).symm, rfl, hextension⟩)
      · rintro (⟨hf, hfname⟩ | ⟨hf, hfname⟩ | ⟨i, rfl, hread, -⟩)
        · exact absurd hfname (hkeyword f hf)
        · exact absurd hfname (hextension f hf)
        · rw [hread]

/-- An extension is found by its name. -/
theorem ofName_extension (hg : g ∈ extensions) : ofName g.name = .ok g :=
  ofName_eq_ok_iff.2 (.inr (.inl ⟨hg, rfl⟩))

/-- **Functions are found again by their names, unless the text was another spelling of an
extension.** Let a text stand for a function, and let the IRI that it can be read as, if there is
one, be read as itself. Then the name of the function stands for the function just if the text is
no IRI of an extension other than its name. If it is one, the name stands for that extension. -/
theorem ofName_name (h : ofName s = .ok f)
    (hstable : ∀ i, Iri.read s = .ok i → Iri.read i.text = .ok i) :
    (ofName f.name = .ok f ↔ ∀ g ∈ extensions, Iri.read s = .ok ⟨g.name⟩ → s = g.name) ∧
      ∀ g ∈ extensions, Iri.read s = .ok ⟨g.name⟩ → ofName f.name = .ok g := by
  rcases ofName_eq_ok_iff.1 h with ⟨hf, hname⟩ | ⟨hf, rfl⟩ | ⟨i, rfl, hread, hother⟩
  · have hnone (i : Iri) : Iri.read s ≠ .ok i := fun hread =>
      keyword_ne_of_colon (Iri.colon_mem_of_read hread) hf hname
    have hback : ofName f.name = .ok f := ofName_eq_ok_iff.2 (.inl ⟨hf, (capitals_name hf).symm⟩)
    exact ⟨iff_of_true hback fun g _ hread => absurd hread (hnone _),
      fun g _ hread => absurd hread (hnone _)⟩
  · have hback := ofName_extension hf
    have hsame {g : Function} (hread : Iri.read f.name = .ok ⟨g.name⟩) : f.name = g.name :=
      congrArg Iri.text (Except.ok.inj ((read_extension hf).symm.trans hread))
    refine ⟨iff_of_true hback fun g _ hread => hsame hread, fun g hg hread => ?_⟩
    rw [hback, extension_unique hf hg (hsame hread)]
  · have hself := hstable i hread
    constructor
    · constructor
      · intro hback g hg hi
        obtain rfl : i = ⟨g.name⟩ := Except.ok.inj (hread.symm.trans hi)
        have hfound : ofName g.name = .ok g := ofName_extension hg
        exact absurd (Except.ok.inj (hfound.symm.trans hback)) (extension_ne_unknown hg)
      · intro hexact
        refine ofName_eq_ok_iff.2 (.inr (.inr ⟨i, rfl, hself, fun g hg hname => ?_⟩))
        obtain rfl : i = ⟨g.name⟩ := congrArg Iri.mk hname.symm
        exact hother g hg (hexact g hg hread).symm
    · rintro g hg hi
      obtain rfl : i = ⟨g.name⟩ := Except.ok.inj (hread.symm.trans hi)
      exact ofName_extension hg

/-- A name with capitals is read as an IRI in lower case, and the function is found by that. -/
theorem ofName_name_twice :
    ofName "HTTP://Example.org/twice" = .ok (.unknown ⟨"http://example.org/twice"⟩) ∧
      ofName (unknown ⟨"http://example.org/twice"⟩).name =
        .ok (.unknown ⟨"http://example.org/twice"⟩) := by
  have hread : Iri.read "HTTP://Example.org/twice" = .ok ⟨"http://example.org/twice"⟩ := by
    decide +kernel
  have hstable : Iri.read "http://example.org/twice" = .ok ⟨"http://example.org/twice"⟩ := by
    decide +kernel
  have hother : ∀ g ∈ extensions, g.name ≠ "HTTP://Example.org/twice" ∧
      g.name ≠ "http://example.org/twice" := by decide +kernel
  have hfirst := ofName_eq_ok_iff.2 (.inr (.inr ⟨_, rfl, hread, fun g hg => (hother g hg).1⟩))
  refine ⟨hfirst, (ofName_name hfirst fun i hi => ?_).1.2 fun g hg hg' => ?_⟩
  · obtain rfl := Except.ok.inj (hread.symm.trans hi)
    exact hstable
  · have hname := congrArg Iri.text (Except.ok.inj (hread.symm.trans hg'))
    exact absurd hname.symm (hother g hg).2

/-- With a blank in front the name of a square root stands for an unknown function. The name of this
one is without the blank, and stands for the square root. -/
theorem name_of_padded_sqrt :
    ofName " urn:kestrel:fn:sqrt" = .ok (.unknown ⟨"urn:kestrel:fn:sqrt"⟩) ∧
      Iri.read "urn:kestrel:fn:sqrt" = .ok ⟨"urn:kestrel:fn:sqrt"⟩ ∧
      ofName (unknown ⟨"urn:kestrel:fn:sqrt"⟩).name = .ok (.real .sqrt) ∧
      unknown ⟨"urn:kestrel:fn:sqrt"⟩ ≠ real .sqrt := by
  decide +kernel

end Function

end RdfStore
