import NodeIdGen.Proofs.Syntax.Run

/-!
# Runs on known tokens

What a rule of the grammar does in front of given tokens, as a relation between the rule, the
tokens, the result and what is left. The relation is closed under the ways rules are composed, so a
run of a long rule is put together from the runs of its parts. Where the tokens at the front are
known, a part that only looks at them computes.

The result may be a fault. Behind the one part that may fail, `bind_map` carries the rest of a rule,
and `toEnd` a whole list of them.
-/

namespace NodeIdGen.Syntax.Parser

/-- In front of the tokens the parser has this result and, unless that is a fault, leaves the rest,
whatever group was left over before. -/
def Runs {α : Type} (p : Parser α) (ts : Rest) (r : Except Fault α) (rest : Rest) : Prop :=
  ∀ l, p ⟨ts, l⟩ = r.map fun a => (a, ⟨rest, l⟩)

namespace Runs

variable {α β γ : Type} {p : Parser α} {f : α → Parser β} {r : Except Fault α}
  {r' : Except Fault β} {a : α} {ts us rest : Rest}

theorem pure (a : α) : Runs (Pure.pure a) ts (.ok a) ts :=
  fun _ => rfl

theorem bind (hp : Runs p ts (.ok a) us) (hf : Runs (f a) us r' rest) :
    Runs (p >>= f) ts r' rest := by
  intro l
  rw [bind_of_ok (hp l)]
  exact hf l

theorem get {f : State → Parser β} (h : ∀ l, Runs (f ⟨ts, l⟩) ts r' rest) :
    Runs (get >>= f) ts r' rest :=
  fun l => h l l

theorem look : Runs Parser.look ts (.ok ts) ts :=
  fun _ => rfl

theorem test {t : Rest → Bool} {b : Bool} (h : t ts = b) : Runs (Parser.test t) ts (.ok b) ts := by
  intro l
  rw [test_apply, h]
  rfl

/-- A part that may fail goes on only with what was read. -/
theorem andThen {y : α → Except Fault β} (hp : Runs p ts r us)
    (hf : ∀ a, Runs (f a) us (y a) rest) : Runs (p >>= f) ts (r >>= y) rest := by
  intro l
  cases r with
  | error e => exact bind_of_error (hp l) f
  | ok a => exact (bind_of_ok (hp l) f).trans (hf a l)

/-- Behind a part that may fail, the rest of a rule does nothing but change what was read. -/
theorem bind_map {x : Except Fault γ} {k : γ → α} {m : γ → β} (hp : Runs p ts (x.map k) us)
    (hf : ∀ c, Runs (f (k c)) us (.ok (m c)) rest) : Runs (p >>= f) ts (x.map m) rest := by
  intro l
  cases x with
  | error e => exact bind_of_error (hp l) f
  | ok c => exact (bind_of_ok (hp l) f).trans (hf c l)

theorem map {g : α → β} (hp : Runs p ts (.ok a) us) : Runs (g <$> p) ts (.ok (g a)) us := by
  intro l
  rw [map_apply, hp l]
  rfl

theorem discard (hp : Runs p ts (.ok a) us) : Runs (Functor.discard p) ts (.ok ()) us := by
  intro l
  rw [discard_apply, hp l]
  rfl

theorem group (d : Delimiter) {content : Rest} (hp : Runs p content r []) :
    Runs (Parser.group d p) (.group d content :: rest) r rest := by
  intro l
  rw [group_apply, if_pos rfl, hp l]
  cases r with
  | error e => rfl
  | ok a => cases l <;> rfl

/-! ### Repetition -/

variable {ι : Type} {q : Parser γ} {again : Parser Bool} {more : Rest → Bool} {block : ι → Rest}
  {result : ι → Except Fault γ} {i : ι} {is : List ι}

/-- One round for each block, up to what follows them. The induction is on the blocks behind the
first, because a loop starts with a round. -/
theorem rounds (sep : Rest)
    (hq : ∀ j ∈ i :: is, ∀ ts, Runs q (block j ++ ts) (result j) (sep ++ ts))
    (hmore : ∀ j ∈ is, ∀ ts, Runs again (sep ++ (block j ++ ts)) (.ok true) (block j ++ ts))
    (hend : Runs again (sep ++ rest) (.ok false) rest) {n : Nat} (hn : is.length < n) :
    Runs (Parser.rounds q again n) ((i :: is).flatMap block ++ rest) ((i :: is).mapM result)
      rest := by
  induction is generalizing i n with
  | nil =>
      obtain ⟨n, rfl⟩ := Nat.exists_eq_add_of_lt hn
      rw [List.flatMap_cons, List.mapM_cons, List.append_assoc]
      exact andThen (hq i List.mem_cons_self _) fun a => bind hend (pure [a])
  | cons j is ih =>
      obtain ⟨n, rfl⟩ := Nat.exists_eq_succ_of_ne_zero (Nat.ne_zero_of_lt hn)
      rw [List.forall_mem_cons] at hq hmore
      have next := ih hq.2 hmore.2 (Nat.lt_of_succ_lt_succ hn)
      rw [List.flatMap_cons, List.append_assoc] at next
      rw [List.flatMap_cons, List.mapM_cons, List.append_assoc, List.flatMap_cons,
        List.append_assoc]
      refine andThen (hq.1 _) fun a => bind (hmore.1 _) ?_
      exact andThen next fun as => pure (a :: as)

theorem length_le_flatMap (hblock : ∀ j ∈ is, block j ≠ []) :
    is.length ≤ (is.flatMap block).length := by
  induction is with
  | nil => exact Nat.zero_le _
  | cons j is ih =>
      rw [List.forall_mem_cons] at hblock
      have := ih hblock.2
      have := List.length_pos_iff.2 hblock.1
      simp only [List.flatMap_cons, List.length_append, List.length_cons]
      omega

/-- There are no more blocks than tokens, so the loop does not end before them. -/
theorem chained (sep : Rest) (hblock : ∀ j ∈ i :: is, block j ≠ [])
    (hq : ∀ j ∈ i :: is, ∀ ts, Runs q (block j ++ ts) (result j) (sep ++ ts))
    (hmore : ∀ j ∈ is, ∀ ts, Runs again (sep ++ (block j ++ ts)) (.ok true) (block j ++ ts))
    (hend : Runs again (sep ++ rest) (.ok false) rest) :
    Runs (Parser.chained q again) ((i :: is).flatMap block ++ rest) ((i :: is).mapM result)
      rest := by
  have bound := length_le_flatMap hblock
  refine bind look (rounds sep hq hmore hend ?_)
  simp only [List.length_append, List.length_cons] at bound ⊢
  omega

theorem whileIs_of_not (h : more ts = false) : Runs (whileIs more p) ts (.ok []) ts :=
  (test h).bind (pure [])

/-- Where each block is read for itself, and a further one is recognised, all of them are read in
their order, up to the first fault. -/
theorem whileIs (hblock : ∀ j ∈ is, block j ≠ [])
    (hq : ∀ j ∈ is, ∀ ts, Runs q (block j ++ ts) (result j) ts)
    (hmore : ∀ j ∈ is, ∀ ts, more (block j ++ ts) = true) (hend : more rest = false) :
    Runs (Parser.whileIs more q) (is.flatMap block ++ rest) (is.mapM result) rest := by
  cases is with
  | nil => exact whileIs_of_not hend
  | cons i is =>
      have first : more ((i :: is).flatMap block ++ rest) = true := by
        rw [List.flatMap_cons, List.append_assoc]
        exact hmore i List.mem_cons_self _
      refine bind (test first) (chained [] hblock hq ?_ (test hend))
      exact fun j hj ts => test (hmore j (List.mem_cons_of_mem _ hj) ts)

/-- The blocks may go on to the end of the group. -/
theorem toEnd (hblock : ∀ j ∈ is, block j ≠ [])
    (hq : ∀ j ∈ is, ∀ rest, Runs q (block j ++ rest) (result j) rest) :
    Runs (Parser.toEnd q) (is.flatMap block) (is.mapM result) [] := by
  have more : ∀ j ∈ is, ∀ ts : Rest, (!(block j ++ ts).isEmpty) = true := by
    intro j hj ts
    simp [hblock j hj]
  have all : Runs (Parser.toEnd q) (is.flatMap block ++ []) (is.mapM result) [] :=
    whileIs hblock hq more rfl
  rwa [List.append_nil] at all

/-- Where a comma stands behind each block, the last one as well, the loop goes on behind the comma
unless nothing follows it. -/
theorem commaSeparated
    (hq : ∀ j ∈ is, ∀ ts, Runs q (block j ++ .punct ',' false :: ts) (result j)
      (.punct ',' false :: ts)) :
    Runs (Parser.commaSeparated q) (is.flatMap fun j => block j ++ [.punct ',' false])
      (is.mapM result) [] := by
  have again : ∀ {ts : Rest} {b : Bool}, ts.isEmpty = b → Runs (do
      if ← Parser.test (·.isEmpty) then
        return false
      else
        symbol ","
        return !(← Parser.test (·.isEmpty)) : Parser Bool)
      (.punct ',' false :: ts) (.ok !b) ts := by
    rintro ts _ rfl
    exact fun _ => rfl
  have nonempty : ∀ j (ts : Rest),
      ((block j ++ [Token.punct ',' false]) ++ ts).isEmpty = false := by
    simp
  cases is with
  | nil => exact fun _ => rfl
  | cons i is =>
      have all : Runs _ (((i :: is).flatMap fun j => block j ++ [.punct ',' false]) ++ [])
          ((i :: is).mapM result) [] :=
        chained [.punct ',' false] (fun j _ => by simp)
          (fun j hj ts => by simpa using hq j hj ts)
          (fun j _ ts => again (nonempty j ts)) (again rfl)
      rw [List.append_nil] at all
      have first : ((i :: is).flatMap fun j => block j ++ [.punct ',' false]).isEmpty = false := by
        rw [List.flatMap_cons]
        exact nonempty i _
      exact bind (test first) all

/-- A run that leaves nothing is a result on the whole text. -/
theorem parseAll {p : Grammar → Parser α} (hp : Runs (p (grammar (nestingBound ts))) ts r []) :
    Syntax.parseAll p ts = r := by
  unfold Syntax.parseAll StateT.run
  rw [hp none]
  cases r <;> rfl

end Runs

end NodeIdGen.Syntax.Parser
