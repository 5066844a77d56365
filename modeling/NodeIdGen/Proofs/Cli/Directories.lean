import NodeIdGen.Cli.Run
import NodeIdGen.Proofs.Cli.Tree

/-!
# Making directories

A directory is made only where nothing stands, so making directories touches no file and loses no
directory, however far it comes. `OnlyGrows` says so of a computation; it is closed under the ways
in which the steps of `createDirectories` are put together.
-/

namespace NodeIdGen.Cli

namespace Tree

variable {t u v : Tree} {l : Location} {path : String} {c : ByteArray}

/-- The two trees hold the same files, with the same content. -/
def SameFiles (t u : Tree) : Prop :=
  ∀ l c, t.get? l = some (.file c) ↔ u.get? l = some (.file c)

theorem SameFiles.refl (t : Tree) : t.SameFiles t :=
  fun _ _ => .rfl

/-- The second tree is the first one, perhaps with further directories. -/
structure Grows (t u : Tree) : Prop where
  keeps : t.Keeps u
  files : t.SameFiles u

theorem Grows.refl (t : Tree) : t.Grows t :=
  ⟨fun _ h => h, .refl t⟩

theorem Grows.trans (h : t.Grows u) (h' : u.Grows v) : t.Grows v := by
  refine ⟨fun l hl => h'.keeps l (h.keeps l hl), fun l c => ?_⟩
  exact (h.files l c).trans (h'.files l c)

theorem grows_put_directory (h : t.get? l = none) : t.Grows (t.put l .directory) := by
  have hroot : l ≠ [] := by
    rintro rfl
    cases h
  have hdirectory : t.get? l ≠ some .directory := by
    rw [h]
    exact nofun
  refine ⟨keeps_put hdirectory, fun k c => ?_⟩
  by_cases hk : k = l
  · rw [hk, h, get?_put_self hroot]
    exact ⟨nofun, nofun⟩
  · rw [get?_put_of_ne hk]

theorem grows_of_makeDirectory (h : t.makeDirectory path = .ok u) : t.Grows u := by
  rw [makeDirectory, Except.bind_ok_iff] at h
  obtain ⟨s, -, h⟩ := h
  split at h
  · cases h
  · next name hname =>
    split at h
    · cases h
    · next hnone =>
      cases h
      exact grows_put_directory hnone

/-- What is read through a path is read through it when there are further directories. -/
theorem Grows.read (h : t.Grows u) (hr : t.read path = .ok c) : u.read path = .ok c := by
  obtain ⟨directory, name, hs, hget⟩ := read_eq_ok.1 hr
  exact read_eq_ok.2 ⟨directory, name, spot_of_keeps h.keeps hs, (h.files _ _).1 hget⟩

end Tree

theorem changeTree_apply (change : Tree → Except FileFault Tree) (t : Tree) :
    changeTree change t = match change t with
      | .ok u => (.ok (), u)
      | .error f => (.error f, t) := rfl

/-- Whatever becomes of the computation, it only adds directories to the tree. -/
def OnlyGrows {α : Type} (x : StateM Tree α) : Prop :=
  ∀ t : Tree, t.Grows (x t).2

namespace OnlyGrows

variable {α β : Type}

protected theorem pure (a : α) : OnlyGrows (pure a) :=
  fun t => .refl t

protected theorem bind {x : StateM Tree α} {f : α → StateM Tree β} (hx : OnlyGrows x)
    (hf : ∀ a, OnlyGrows (f a)) : OnlyGrows (x >>= f) :=
  fun t => (hx t).trans (hf _ _)

/-- A change of the tree is made or not made at all. -/
theorem changeTree {change : Tree → Except FileFault Tree}
    (h : ∀ {t u}, change t = .ok u → t.Grows u) : OnlyGrows (changeTree change) := by
  intro t
  rw [changeTree_apply]
  cases hu : change t with
  | ok u => exact h hu
  | error f => exact .refl t

theorem ensureDirectory (path : String) : OnlyGrows (ensureDirectory Files.ofTree path) := by
  refine .bind (changeTree Tree.grows_of_makeDirectory) fun made => ?_
  cases made with
  | ok _ => exact .pure _
  | error f =>
      refine .bind (fun t => .refl t) fun there => ?_
      cases there <;> exact .pure _

/-- By induction on the number of directories that may still be missing. -/
theorem makeDirectories (n : Nat) (path : String) :
    OnlyGrows (makeDirectories Files.ofTree n path) := by
  induction n generalizing path with
  | zero => exact .pure _
  | succ n ih =>
      rw [Cli.makeDirectories]
      split
      · exact .pure _
      · refine .bind (ensureDirectory path) fun made => ?_
        split
        · next parent _ =>
          refine .bind (ih parent) fun above => ?_
          cases above with
          | ok _ => exact ensureDirectory path
          | error f => exact .pure _
        · exact .pure _

theorem makeParent (out : String) : OnlyGrows (makeParent Files.ofTree out) := by
  rw [Cli.makeParent]
  split
  · exact .pure _
  · exact .bind (makeDirectories _ _) fun _ => .pure _

end OnlyGrows

end NodeIdGen.Cli
