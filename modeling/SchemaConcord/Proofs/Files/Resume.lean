import SchemaConcord.Proofs.Files.Erase

/-!
# Going on with a change

What becomes of directories of which only the outer ones were made: making them again goes on from there, and ends in
the tree in which it would have ended (`makeDirectories_again`).
-/

namespace SchemaConcord.FileTree

variable {t t' u v w : FileTree} {l m : Location} {names rest outer : List String} {name root : String} {p q : Path}

/-! ## On the way -/

/-- The way to a path leads through directories only. -/
theorem follow_of_append (h : t.follow l (names ++ rest) = .ok m) (hrest : rest ≠ []) :
    ∃ k n, t.follow l names = .ok k ∧ t.entry? k = some (.directory n) := by
  rw [follow_append_bind] at h
  cases hk : t.follow l names with
  | error o =>
    rw [hk] at h
    cases h
  | ok k =>
    rw [hk] at h
    have h : t.follow k rest = .ok m := h
    cases rest with
    | nil => exact absurd rfl hrest
    | cons name rest =>
      rw [follow] at h
      split at h
      · cases h
      · cases h
      · next n hd => exact ⟨k, n, rfl, hd⟩

/-- A file in the way stays in the way when directories are added. -/
theorem Alters.follow_error (h : AddsDirectories t t') {o : Obstacle} (hf : t.follow l names = .error o)
    (ho : o ≠ .missing) : t'.follow l names = .error o := by
  induction names generalizing l with
  | nil => cases hf
  | cons name rest ih =>
    unfold FileTree.follow at hf ⊢
    split at hf
    · cases hf
      exact absurd rfl ho
    · next he =>
      rw [h.file he id]
      exact hf
    · next n hd =>
      rw [h.directory hd]
      exact ih hf

/-! ## Directories made in part -/

theorem ensureDirectory_error (h : AddsDirectories t t') {f : FileFault} (hf : t.ensureDirectory p = .error f)
    (hmissing : f.obstacle ≠ .missing) : t'.ensureDirectory p = .error f := by
  unfold ensureDirectory at hf ⊢
  unfold locate at hf ⊢
  rw [h.home]
  split at hf
  · next o ho =>
    cases hf
    rw [h.follow_error ho hmissing]
  · next m hm =>
    rw [h.follow hm]
    split at hf
    · cases hf
    · cases hf
    · next he =>
      simp only [h.file he id]
      exact hf

theorem makeDirectoriesFrom_eq {n : Nat} (hl : t.locate ⟨root, names.reverse⟩ = .ok l)
    (hd : t.entry? l = some (.directory n)) : makeDirectoriesFrom root names t = .ok t := by
  have h := makeDirectories_eq hl hd
  rwa [makeDirectories, List.reverse_reverse] at h

/-- When a directory is there at once, so are those around it. -/
theorem makeDirectoriesFrom_outer (h : t.ensureDirectory ⟨root, (name :: names).reverse⟩ = .ok t')
    (houter : outer <:+ names) : makeDirectoriesFrom root outer t = .ok t := by
  obtain ⟨inner, rfl⟩ := houter
  have hparts : (name :: (inner ++ outer)).reverse = outer.reverse ++ (inner.reverse ++ [name]) := by simp
  rw [hparts] at h
  unfold ensureDirectory at h
  split at h
  · cases h
  · next m hm =>
    obtain ⟨k, n, hk, hd⟩ := follow_of_append hm (by simp)
    exact makeDirectoriesFrom_eq hk hd

theorem makeDirectoriesFrom_again (houter : outer <:+ names) (hu : makeDirectoriesFrom root outer t = .ok u)
    (hw : makeDirectoriesFrom root names t = .ok w) : makeDirectoriesFrom root names u = .ok w := by
  induction names generalizing w with
  | nil =>
    cases List.suffix_nil.mp houter
    cases hu.symm.trans hw
    obtain ⟨_, l, n, hl, hd⟩ := makeDirectoriesFrom_ok hu
    exact makeDirectoriesFrom_eq hl hd
  | cons name names ih =>
    rcases List.suffix_cons_iff.mp houter with rfl | houter
    · cases hu.symm.trans hw
      obtain ⟨_, l, n, hl, hd⟩ := makeDirectoriesFrom_ok hu
      exact makeDirectoriesFrom_eq hl hd
    · have hstep := hw
      unfold makeDirectoriesFrom at hw
      dsimp only at hw
      split at hw
      · next hfirst =>
        cases hu.symm.trans (makeDirectoriesFrom_outer hfirst houter)
        exact hstep
      · split at hw
        · cases hv : makeDirectoriesFrom root names t with
          | error f => rw [hv] at hw; cases hw
          | ok v =>
            rw [hv] at hw
            have hrest := ih houter hv
            unfold makeDirectoriesFrom
            dsimp only
            cases hagain : u.ensureDirectory ⟨root, (name :: names).reverse⟩ with
            | ok w' =>
              -- The directories around are there, so nothing was added to them.
              cases hrest.symm.trans (makeDirectoriesFrom_outer hagain List.suffix_rfl)
              exact hagain.symm.trans hw
            | error f =>
              dsimp only
              by_cases hmissing : f.obstacle = .missing
              · rw [if_pos hmissing, hrest]
                exact hw
              · have herror := ensureDirectory_error (makeDirectoriesFrom_ok hrest).1 hagain hmissing
                cases herror.symm.trans hw
        · cases hw

theorem makeDirectories_again (hroot : q.root = p.root) (hparts : q.parts <+: p.parts)
    (hu : t.makeDirectories q = .ok u) (hw : t.makeDirectories p = .ok w) : u.makeDirectories p = .ok w := by
  unfold makeDirectories at hu hw ⊢
  rw [hroot] at hu
  exact makeDirectoriesFrom_again (List.reverse_suffix.mpr hparts) hu hw

end SchemaConcord.FileTree
