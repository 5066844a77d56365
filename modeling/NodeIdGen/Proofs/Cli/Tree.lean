import NodeIdGen.Cli.Tree
import NodeIdGen.Proofs.Except

/-!
# Reading what was written

Paths are followed through directories only. So a change that leaves every directory where it is
leaves every path that leads somewhere leading there, and a file that is written is such a change:
it is read back through its path, and whatever stands at another location is read as before.
-/

namespace NodeIdGen.Cli.Tree

variable {t u v : Tree} {k l : Location} {e : Entry} {path p q : String} {c d : ByteArray}

/-! ## Locations -/

theorem lookup_filter_ne (h : k ≠ l) (es : List (Location × Entry)) :
    (es.filter (·.1 ≠ l)).lookup k = es.lookup k := by
  induction es with
  | nil => rfl
  | cons p es ih =>
      obtain ⟨m, e⟩ := p
      by_cases hm : m = l
      · subst hm
        rw [List.filter_cons_of_neg (by simp), ih, List.lookup_cons, beq_false_of_ne h]
      · rw [List.filter_cons_of_pos (by simp [hm]), List.lookup_cons, List.lookup_cons, ih]

theorem get?_put_self (h : l ≠ []) : (t.put l e).get? l = some e := by
  rw [get?, if_neg h]
  exact List.lookup_cons_self

theorem get?_put_of_ne (h : k ≠ l) : (t.put l e).get? k = t.get? k := by
  unfold get? put
  rw [List.lookup_cons, beq_false_of_ne h]
  rw [lookup_filter_ne h t.entries]

/-! ## Paths -/

/-- Every directory of one tree is a directory of the other. -/
def Keeps (t u : Tree) : Prop :=
  ∀ l, t.get? l = some .directory → u.get? l = some .directory

theorem keeps_put (h : t.get? l ≠ some .directory) : t.Keeps (t.put l e) := by
  intro k hk
  have hne : k ≠ l := by
    rintro rfl
    exact h hk
  rw [get?_put_of_ne hne, hk]

theorem enter_of_keeps (h : t.Keeps u) {name : String} (he : t.enter l name = .ok k) :
    u.enter l name = .ok k := by
  unfold enter at he ⊢
  by_cases hstay : name = "."
  · rw [if_pos hstay] at he ⊢
    exact he
  rw [if_neg hstay] at he ⊢
  by_cases hup : name = ".."
  · rw [if_pos hup] at he ⊢
    exact he
  rw [if_neg hup] at he ⊢
  by_cases hlong : longestName < name.utf8ByteSize
  · rw [if_pos hlong] at he
    cases he
  rw [if_neg hlong] at he ⊢
  split at he
  · cases he
  · cases he
  · next hd => rwa [h _ hd]

theorem foldlM_enter_of_keeps (h : t.Keeps u) {names : List String}
    (he : names.foldlM t.enter l = .ok k) : names.foldlM u.enter l = .ok k := by
  induction names generalizing l with
  | nil => exact he
  | cons n names ih =>
      rw [List.foldlM_cons, Except.bind_ok_iff] at he ⊢
      obtain ⟨m, hm, he⟩ := he
      exact ⟨m, enter_of_keeps h hm, ih he⟩

/-- A path that leads somewhere still leads there. -/
theorem spot_of_keeps (h : t.Keeps u) {s : Spot} (hs : t.spot path = .ok s) :
    u.spot path = .ok s := by
  unfold spot at hs ⊢
  dsimp only at hs ⊢
  by_cases hzero : path.toList.contains '\x00' = true
  · rw [if_pos hzero] at hs
    cases hs
  rw [if_neg hzero] at hs ⊢
  by_cases hempty : path = ""
  · rw [if_pos hempty] at hs
    cases hs
  rw [if_neg hempty, Except.bind_ok_iff] at hs ⊢
  obtain ⟨m, hm, hs⟩ := hs
  refine ⟨m, foldlM_enter_of_keeps h hm, ?_⟩
  cases hlast : (pathNames path).getLast? with
  | none => rwa [hlast] at hs
  | some name =>
      rw [hlast] at hs
      dsimp only at hs ⊢
      by_cases hdots : name = "." ∨ name = ".."
      · rw [if_pos hdots, Except.bind_ok_iff] at hs ⊢
        obtain ⟨n, hn, hs⟩ := hs
        exact ⟨n, enter_of_keeps h hn, hs⟩
      · rwa [if_neg hdots] at hs ⊢

/-! ## Files -/

/-- The location of the file that a path leads to, whether the file is there or not. -/
def place? (t : Tree) (path : String) : Option Location :=
  match t.spot path with
  | .ok ⟨directory, some name, _⟩ => some (directory ++ [name])
  | _ => none

theorem read_eq_ok : t.read path = .ok c ↔ ∃ directory name,
    t.spot path = .ok ⟨directory, some name, false⟩ ∧
      t.get? (directory ++ [name]) = some (.file c) := by
  unfold read
  rw [Except.bind_ok_iff]
  constructor
  · rintro ⟨⟨directory, name, slash⟩, hs, h⟩
    split at h
    · cases h
    · next n hn =>
      split at h
      · cases h
      · cases h
      · next content hget =>
        split at h
        · cases h
        · next hslash =>
          cases h
          obtain rfl : slash = false := Bool.eq_false_iff.2 hslash
          obtain rfl : name = some n := hn
          exact ⟨directory, n, hs, hget⟩
  · rintro ⟨directory, name, hs, hget⟩
    refine ⟨_, hs, ?_⟩
    dsimp only
    rw [hget]
    rfl

theorem write_eq_ok : t.write path c = .ok u ↔ ∃ directory name,
    t.spot path = .ok ⟨directory, some name, false⟩ ∧
      t.get? (directory ++ [name]) ≠ some .directory ∧
      u = t.put (directory ++ [name]) (.file c) := by
  unfold write
  rw [Except.bind_ok_iff]
  constructor
  · rintro ⟨⟨directory, name, slash⟩, hs, h⟩
    split at h
    · cases h
    · next n hn =>
      split at h
      · cases h
      · next hslash =>
        split at h
        · cases h
        · next hget =>
          cases h
          obtain rfl : slash = false := Bool.eq_false_iff.2 hslash
          obtain rfl : name = some n := hn
          exact ⟨directory, n, hs, hget, rfl⟩
  · rintro ⟨directory, name, hs, hget, rfl⟩
    refine ⟨_, hs, ?_⟩
    dsimp only
    rw [if_neg Bool.false_ne_true]
    split
    · next hdir => exact absurd hdir hget
    · rfl

theorem read_of_write (h : t.write path c = .ok u) : u.read path = .ok c := by
  obtain ⟨directory, name, hs, hget, rfl⟩ := write_eq_ok.1 h
  exact read_eq_ok.2 ⟨directory, name, spot_of_keeps (keeps_put hget) hs,
    get?_put_self (List.append_ne_nil_of_right_ne_nil _ (List.cons_ne_nil _ _))⟩

theorem read_of_write_of_ne {path' : String} (h : t.write path c = .ok u)
    (hne : t.place? path ≠ t.place? path') (hr : t.read path' = .ok d) : u.read path' = .ok d := by
  obtain ⟨directory, name, hs, hget, rfl⟩ := write_eq_ok.1 h
  obtain ⟨directory', name', hs', hget'⟩ := read_eq_ok.1 hr
  have other : directory' ++ [name'] ≠ directory ++ [name] := by
    intro he
    rw [place?, place?, hs, hs'] at hne
    exact hne (congrArg some he.symm)
  refine read_eq_ok.2 ⟨directory', name', spot_of_keeps (keeps_put hget) hs', ?_⟩
  rw [get?_put_of_ne other, hget']

/-! ## Files and the paths that lead to them -/

theorem Keeps.trans (h : t.Keeps u) (h' : u.Keeps v) : t.Keeps v :=
  fun l hl => h' l (h l hl)

theorem keeps_of_write (h : t.write path c = .ok u) : t.Keeps u := by
  obtain ⟨directory, name, -, hget, rfl⟩ := write_eq_ok.1 h
  exact keeps_put hget

theorem place?_eq_some : t.place? p = some l ↔ ∃ directory name slash,
    t.spot p = .ok ⟨directory, some name, slash⟩ ∧ l = directory ++ [name] := by
  rw [place?]
  constructor
  · intro h
    split at h
    · next directory name slash hs =>
      exact ⟨directory, name, slash, hs, (Option.some.inj h).symm⟩
    · cases h
  · rintro ⟨directory, name, slash, hs, rfl⟩
    rw [hs]

/-- A path that leads to a file leads to it when there are further directories. -/
theorem Keeps.place? (h : t.Keeps u) (hp : t.place? p = some l) : u.place? p = some l := by
  obtain ⟨directory, name, slash, hs, hl⟩ := place?_eq_some.1 hp
  exact place?_eq_some.2 ⟨directory, name, slash, spot_of_keeps h hs, hl⟩

theorem place?_of_read (h : t.read p = .ok c) :
    ∃ l, t.place? p = some l ∧ t.get? l = some (.file c) := by
  obtain ⟨directory, name, hs, hget⟩ := read_eq_ok.1 h
  exact ⟨_, place?_eq_some.2 ⟨directory, name, false, hs, rfl⟩, hget⟩

theorem place?_of_write (h : t.write p c = .ok u) : ∃ l, t.place? p = some l := by
  obtain ⟨directory, name, hs, -, -⟩ := write_eq_ok.1 h
  exact ⟨_, place?_eq_some.2 ⟨directory, name, false, hs, rfl⟩⟩

/-- Two paths to one file read the same, if a file can be read through the second at all. -/
theorem Keeps.read_of_place? (h : u.Keeps v) (hp : u.read p = .ok c) (hq : v.read q = .ok d)
    (hsame : v.place? q = v.place? p) : v.read p = .ok d := by
  obtain ⟨directory, name, hs, -⟩ := read_eq_ok.1 hp
  have hs' := spot_of_keeps h hs
  have hplace : v.place? p = some (directory ++ [name]) :=
    place?_eq_some.2 ⟨directory, name, false, hs', rfl⟩
  obtain ⟨l, hl, hget⟩ := place?_of_read hq
  obtain rfl : l = directory ++ [name] := Option.some.inj (hl.symm.trans (hsame.trans hplace))
  exact read_eq_ok.2 ⟨directory, name, hs', hget⟩

end NodeIdGen.Cli.Tree
