import RdfStore.Store.Inference
import RdfStore.Proofs.Store.ReadOnly

/-!
# Actions that fail before they write

An action is atomic if a failure leaves the session as it was. It is atomic if all that can fail
in it only reads, and whatever writes comes after that and cannot fail. Adding a graph is of this
kind, although reasoners run and events are sent on the way (`StoreM.atomic_addGraph`).
-/

namespace RdfStore.StoreM

variable {α β : Type}

/-- The action has a result in every session. -/
def Infallible (m : StoreM α) : Prop := ∀ s e t, m.exec s ≠ (.error e, t)

/-- The action leaves the session as it is if it fails. -/
def Atomic (m : StoreM α) : Prop := ∀ s e t, m.exec s = (.error e, t) → t = s

/-! ## Sequences -/

theorem infallible_pure (a : α) : (pure a : StoreM α).Infallible := fun _ _ _ => nofun

theorem infallible_get : (get : StoreM Session).Infallible := fun _ _ _ => nofun

theorem infallible_collection : collection.Infallible := fun _ _ _ => nofun

theorem infallible_modifyStore (f : Store → Store) : (modifyStore f).Infallible :=
  fun _ _ _ => nofun

theorem infallible_setCollection (c : Collection) : (setCollection c).Infallible :=
  infallible_modifyStore _

theorem Infallible.bind {m : StoreM α} {f : α → StoreM β} (hm : m.Infallible)
    (hf : ∀ a, (f a).Infallible) : (m >>= f).Infallible := by
  intro s e t h
  rcases exec_bind_error_iff.1 h with h | ⟨a, u, -, h⟩
  · exact hm s e t h
  · exact hf a u e t h

theorem Infallible.atomic {m : StoreM α} (h : m.Infallible) : m.Atomic :=
  fun s e t hs => absurd hs (h s e t)

theorem ReadsOnly.atomic {m : StoreM α} (h : m.ReadsOnly) : m.Atomic :=
  fun _ _ _ hs => h.eq_of_exec hs

/-- What only reads may come before an atomic action. -/
theorem ReadsOnly.bind_atomic {m : StoreM α} {f : α → StoreM β} (hm : m.ReadsOnly)
    (hf : ∀ a, (f a).Atomic) : (m >>= f).Atomic := by
  intro s e t h
  rcases hm.bind_error_iff.1 h with ⟨-, rfl⟩ | ⟨a, -, h⟩
  · rfl
  · exact hf a s e t h

/-- What cannot fail may come after an atomic action. -/
theorem Atomic.bind_infallible {m : StoreM α} {f : α → StoreM β} (hm : m.Atomic)
    (hf : ∀ a, (f a).Infallible) : (m >>= f).Atomic := by
  intro s e t h
  rcases exec_bind_error_iff.1 h with h | ⟨a, u, -, h⟩
  · exact hm s e t h
  · exact absurd h (hf a u e t)

/-! ## Graphs -/

theorem infallible_auxiliary : auxiliary.Infallible :=
  infallible_get.bind fun _ => (infallible_setCollection _).bind fun _ => infallible_pure _

theorem infallible_writeRef (r : GraphRef) (g : Graph) : (writeRef r g).Infallible :=
  infallible_collection.bind fun _ => infallible_setCollection _

/-- A graph is refused before anything is written. -/
theorem atomic_enter (g : Graph) (mergeIfExists : Bool) : (enter g mergeIfExists).Atomic :=
  readsOnly_collection.bind_atomic fun _ => (readsOnly_lift _ _).bind_atomic fun _ =>
    ((infallible_setCollection _).bind fun _ => infallible_pure _).atomic

/-- **Adding a graph is atomic.** The name is checked and the reasoners run before the graph comes
in, and once it is in nothing can fail. -/
theorem atomic_addGraph (g : Graph) (mergeIfExists : Bool) : (addGraph g mergeIfExists).Atomic := by
  refine readsOnly_get.bind_atomic fun s => ?_
  dsimp only
  split
  · -- The name is reserved, and what follows the refusal is not run.
    exact ReadsOnly.atomic fun _ => rfl
  · split
    · exact (readsOnly_lift _ _).bind_atomic fun g => atomic_enter g mergeIfExists
    · split
      · exact atomic_enter g mergeIfExists
      · refine (readsOnly_lift _ _).bind_atomic fun inferred => ?_
        refine (atomic_enter g mergeIfExists).bind_infallible fun r => ?_
        exact infallible_auxiliary.bind fun aux => infallible_collection.bind fun c =>
          (infallible_writeRef aux _).bind fun _ => infallible_pure r

end RdfStore.StoreM
