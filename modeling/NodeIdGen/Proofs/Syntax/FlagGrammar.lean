import NodeIdGen.Proofs.Syntax.ForwardItems

/-!
# What a flag block may contain

The content of a flag block is a list of entries, each a structure with a type and a body of
constants. `Parts (FlagEntry g)` writes this down rule by rule, over what the parsers of attributes,
visibilities, types and values take from the tokens, and `parseFlags_eq_ok` says that the blocks so
described are those that are accepted, with the entries and the names of their constants as they
stand there.

A group that is not read to its end stops nothing before the end of the text. So `Takes` asks for a
state in which none is noted, and because reading goes forward none was noted on the way.
-/

namespace NodeIdGen.Syntax

open NodeIdGen.Syntax.Parser

-- a long rule is a deep term of binds
set_option synthInstance.maxSize 100000

variable {α β : Type}

/-! ## Taking from the front -/

namespace Parser

/-- From the front of the tokens `ts` the parser takes `a`, and leaves `us`; every group that it
reads it reads to the end. -/
def Takes (p : Parser α) (ts : Rest) (a : α) (us : Rest) : Prop :=
  p ⟨ts, none⟩ = .ok (a, ⟨us, none⟩)

variable {p : Parser α} {f : α → Parser β} {a b : α} {c : β} {ts us : Rest}

theorem takes_bind [∀ a, Forward (f a)] :
    Takes (p >>= f) ts c us ↔ ∃ a vs, Takes p ts a vs ∧ Takes (f a) vs c us := by
  constructor
  · intro h
    obtain ⟨a, ⟨vs, l⟩, hp, hf⟩ := ok_of_bind h
    have hl : l = none := (Forward.leads hf).noted rfl
    subst hl
    exact ⟨a, vs, hp, hf⟩
  · rintro ⟨a, vs, hp, hf⟩
    exact (bind_of_ok hp f).trans hf

theorem Takes.length_le [Forward p] (h : Takes p ts a us) : us.length ≤ ts.length :=
  (Forward.suffix h).length_le

theorem takes_pure : Takes (pure a) ts b us ↔ a = b ∧ ts = us := by
  simp [Takes]

theorem takes_discard {u : Unit} : Takes (discard p) ts u us ↔ ∃ a, Takes p ts a us := by
  rw [Takes, discard_apply]
  constructor
  · intro h
    split at h
    · next a t hp =>
      cases h
      exact ⟨a, hp⟩
    · cases h
  · rintro ⟨a, hp⟩
    rw [show p ⟨ts, none⟩ = _ from hp]

theorem takes_map {g : α → β} : Takes (g <$> p) ts c us ↔ ∃ a, Takes p ts a us ∧ g a = c := by
  rw [Takes, map_apply]
  constructor
  · intro h
    split at h
    · next a t hp =>
      cases h
      exact ⟨a, hp, rfl⟩
    · cases h
  · rintro ⟨a, hp, rfl⟩
    rw [show p ⟨ts, none⟩ = _ from hp]

theorem takes_group {d : Delimiter} :
    Takes (group d p) ts a us ↔ ∃ content, ts = .group d content :: us ∧ Takes p content a [] := by
  constructor
  · intro h
    obtain ⟨content, after, ⟨rest, leftover⟩, hts, hp, hleave⟩ := ok_of_group h
    have hafter : us = after := congrArg State.rest hleave
    have hnone : (leave d after ⟨rest, leftover⟩).leftover = none :=
      (congrArg State.leftover hleave).symm
    obtain ⟨rfl, rfl⟩ := leftover_leave.1 hnone
    exact ⟨content, hafter ▸ hts, hp⟩
  · rintro ⟨content, rfl, hp⟩
    rw [Takes, group_apply, if_pos rfl, show p ⟨content, none⟩ = _ from hp]
    rfl

theorem takes_word {w : String} {u : Unit} : Takes (word w) ts u us ↔ ts = .ident w :: us := by
  rw [Takes, word, bind_of_ok look_apply]
  dsimp only
  split
  · next n vs =>
    split
    · next hn => simp [hn]
    · next hn => simp [hn]
  · next hts =>
    simp only [wanted_apply, reduceCtorEq, false_iff]
    exact fun h => hts _ _ h

theorem takes_word? {w : String} {found : Bool} : Takes (word? w) ts found us ↔
    (found = true ∧ ts = .ident w :: us) ∨
      (found = false ∧ ts = us ∧ ∀ vs, ts ≠ .ident w :: vs) := by
  rw [Takes, word?, bind_of_ok look_apply]
  dsimp only
  split
  · next n vs =>
    split
    · next hn => simp [bind_apply, hn, eq_comm]
    · next hn => simp [Ne.symm hn, eq_comm]
  · next hts =>
    have hne : ∀ vs, ts ≠ .ident w :: vs := fun vs h => hts _ _ h
    simp [hne, eq_comm]

theorem takes_name {n : String} :
    Takes name ts n us ↔ ts = .ident n :: us ∧ isReserved n = false := by
  rw [Takes, name, bind_of_ok look_apply]
  dsimp only
  split
  · next m vs =>
    split
    · next hm =>
      simp only [wanted_apply, reduceCtorEq, List.cons.injEq, Token.ident.injEq, false_iff]
      rintro ⟨⟨rfl, -⟩, hn⟩
      rw [hm] at hn
      cases hn
    · next hm =>
      simp only [bind_apply, moveTo_apply, pure_apply, Except.ok.injEq, Prod.mk.injEq,
        State.mk.injEq, and_true, List.cons.injEq, Token.ident.injEq, iff_self_and]
      rintro ⟨rfl, -⟩
      exact Bool.eq_false_iff.2 hm
  · next hts =>
    simp only [wanted_apply, reduceCtorEq, false_iff]
    exact fun h => hts _ _ h.1

/-- A mark of one character is read whether or not another one follows without a gap. -/
theorem takes_symbol {s : String} {c : Char} (hs : s.toList = [c]) {u : Unit} :
    Takes (symbol s) ts u us ↔ ∃ joint, ts = .punct c joint :: us := by
  have front : ∀ vs, Rest.symbol? [c] ts = some vs ↔ ∃ joint, ts = .punct c joint :: vs := by
    intro vs
    rcases ts with _ | ⟨t, ts⟩
    · simp [Rest.symbol?]
    · cases t <;> simp [Rest.symbol?, and_comm, eq_comm]
  rw [Takes, symbol, bind_of_ok look_apply, hs]
  dsimp only
  cases h : Rest.symbol? [c] ts with
  | some vs =>
      obtain ⟨joint, rfl⟩ := (front vs).1 h
      simp
  | none =>
      simp only [wanted_apply, reduceCtorEq, false_iff]
      intro hts
      rw [(front us).2 hts] at h
      cases h

theorem takes_symbol? {s : String} {found : Bool} : Takes (symbol? s) ts found us ↔
    (found = true ∧ Rest.symbol? s.toList ts = some us) ∨
      (found = false ∧ Rest.symbol? s.toList ts = none ∧ us = ts) := by
  rw [Takes, symbol?, bind_of_ok look_apply]
  dsimp only
  cases Rest.symbol? s.toList ts with
  | some vs => simp [bind_apply, eq_comm]
  | none => simp [eq_comm]

theorem takes_anyWord {n : String} : Takes anyWord ts n us ↔ ts = .ident n :: us := by
  rw [Takes, anyWord, bind_of_ok look_apply]
  dsimp only
  split
  · next m vs => simp [bind_apply]
  · next hts =>
    simp only [wanted_apply, reduceCtorEq, false_iff]
    exact fun h => hts _ _ h

theorem takes_look_bind {f : Rest → Parser α} :
    Takes (look >>= f) ts a us ↔ Takes (f ts) ts a us := Iff.rfl

theorem takes_test_bind {t : Rest → Bool} {f : Bool → Parser α} :
    Takes (test t >>= f) ts a us ↔ Takes (f (t ts)) ts a us := Iff.rfl

/-! ## Taking part after part -/

/-- All of the tokens, part by part. -/
inductive Parts (R : Rest → α → Rest → Prop) : Rest → List α → Prop
  | nil : Parts R [] []
  | cons {ts us : Rest} {a : α} {as : List α} (h : R ts a us) (hs : Parts R us as) :
      Parts R ts (a :: as)

theorem takes_test {t : Rest → Bool} {found : Bool} :
    Takes (test t) ts found us ↔ found = t ts ∧ us = ts := by
  simp [Takes, eq_comm]

theorem ne_nil_of_takes_rounds {again : Parser Bool} [Forward p] [Forward again] {k : Nat}
    {as : List α} (h : Takes (rounds p again k) ts as us) : as ≠ [] := by
  cases k with
  | zero => cases h
  | succ k =>
    rw [rounds] at h
    obtain ⟨a, vs, -, h⟩ := takes_bind.1 h
    obtain ⟨more, ws, -, h⟩ := takes_bind.1 h
    split at h
    · obtain ⟨bs, xs, -, h⟩ := takes_bind.1 h
      exact (takes_pure.1 h).1 ▸ List.cons_ne_nil a bs
    · exact (takes_pure.1 h).1 ▸ List.cons_ne_nil a []

/-- A loop has one result exactly if it ends after one round. -/
theorem takes_chained_singleton {again : Parser Bool} [Forward p] [Forward again] :
    Takes (chained p again) ts [a] us ↔ ∃ vs, Takes p ts a vs ∧ Takes again vs false us := by
  rw [chained, takes_look_bind, rounds]
  constructor
  · intro h
    obtain ⟨b, vs, hb, h⟩ := takes_bind.1 h
    obtain ⟨more, ws, hmore, h⟩ := takes_bind.1 h
    split at h
    · obtain ⟨bs, xs, hbs, h⟩ := takes_bind.1 h
      obtain ⟨hcons, -⟩ := takes_pure.1 h
      exact absurd (List.cons.inj hcons).2 (ne_nil_of_takes_rounds hbs)
    · next hfalse =>
      obtain ⟨hcons, rfl⟩ := takes_pure.1 h
      obtain rfl := (List.cons.inj hcons).1
      rw [Bool.not_eq_true] at hfalse
      exact ⟨vs, hb, hfalse ▸ hmore⟩
  · rintro ⟨vs, ha, hagain⟩
    exact takes_bind.2 ⟨a, vs, ha, takes_bind.2 ⟨false, us, hagain, takes_pure.2 ⟨rfl, rfl⟩⟩⟩

variable {R : Rest → α → Rest → Prop}

/-- Rounds to the end of the tokens. Each reads a token, so that there are no more rounds than
tokens; the induction is on their bound. -/
theorem takes_rounds [Forward p] (hp : ∀ ts a us, Takes p ts a us ↔ R ts a us)
    (hlen : ∀ ts a us, R ts a us → us.length < ts.length) {n : Nat} {as : List α} (hts : ts ≠ [])
    (hn : ts.length ≤ n) :
    Takes (rounds p (test (!·.isEmpty)) n) ts as us ↔ us = [] ∧ Parts R ts as := by
  induction n generalizing ts as with
  | zero => exact absurd (List.length_eq_zero_iff.1 (Nat.le_zero.1 hn)) hts
  | succ n ih =>
      rw [rounds, takes_bind]
      simp only [takes_bind, takes_test, hp]
      constructor
      · rintro ⟨a, vs, ha, more, ws, ⟨rfl, rfl⟩, h⟩
        cases ws with
        | nil =>
            obtain ⟨rfl, rfl⟩ := takes_pure.1 h
            exact ⟨rfl, .cons ha .nil⟩
        | cons t ws =>
            obtain ⟨bs, xs, hbs, hpure⟩ := takes_bind.1 h
            obtain ⟨rfl, rfl⟩ := takes_pure.1 hpure
            have := hlen _ _ _ ha
            obtain ⟨rfl, hparts⟩ := (ih (List.cons_ne_nil _ _) (by omega)).1 hbs
            exact ⟨rfl, .cons ha hparts⟩
      · rintro ⟨rfl, hparts⟩
        cases hparts with
        | nil => exact absurd rfl hts
        | @cons _ vs a as ha hs =>
            refine ⟨a, vs, ha, _, vs, ⟨rfl, rfl⟩, ?_⟩
            cases hs with
            | nil => exact takes_pure.2 ⟨rfl, rfl⟩
            | @cons _ ws b bs hb hs =>
                have := hlen _ _ _ ha
                have := hlen _ _ _ hb
                have hvs : vs ≠ [] := List.ne_nil_of_length_pos (by omega)
                rw [if_pos (by simpa using hvs)]
                refine takes_bind.2 ⟨b :: bs, [], ?_, takes_pure.2 ⟨rfl, rfl⟩⟩
                exact (ih hvs (by omega)).2 ⟨rfl, .cons hb hs⟩

theorem takes_toEnd [Forward p] (hp : ∀ ts a us, Takes p ts a us ↔ R ts a us)
    (hlen : ∀ ts a us, R ts a us → us.length < ts.length) {as : List α} :
    Takes (toEnd p) ts as us ↔ us = [] ∧ Parts R ts as := by
  cases ts with
  | nil =>
      have stop : Takes (toEnd p) [] as us ↔ Takes (pure []) [] as us := Iff.rfl
      rw [stop, takes_pure]
      constructor
      · rintro ⟨rfl, rfl⟩
        exact ⟨rfl, .nil⟩
      · rintro ⟨rfl, hparts⟩
        cases hparts with
        | nil => exact ⟨rfl, rfl⟩
        | cons h _ => exact absurd (hlen _ _ _ h) (Nat.not_lt_zero _)
  | cons t ts =>
      exact takes_rounds hp hlen (List.cons_ne_nil _ _) (Nat.le_succ _)

end Parser

/-! ## The parts of a block -/

/-- A constant of a flag block: attributes, `const`, a name or the placeholder, and a value. -/
inductive FlagConstant (g : Grammar) (ts : Rest) : Option String → Rest → Prop
  | named {attrs : List Attribute} {n : String} {equals ends : Bool} {vs us : Rest} {e : Expr}
      (hattrs : Takes (outerAttributes g) ts attrs
        (.ident "const" :: .ident n :: .punct '=' equals :: vs))
      (hname : isReserved n = false)
      (hvalue : Takes (g.expr true) vs e (.punct ';' ends :: us)) : FlagConstant g ts (some n) us
  | placeholder {attrs : List Attribute} {equals ends : Bool} {vs us : Rest} {e : Expr}
      (hattrs : Takes (outerAttributes g) ts attrs
        (.ident "const" :: .ident "_" :: .punct '=' equals :: vs))
      (hvalue : Takes (g.expr true) vs e (.punct ';' ends :: us)) : FlagConstant g ts none us

/-- An entry of a flag block: attributes, a visibility, `struct`, a name, a type, and constants in
braces. Its flags are the names of the constants that have one. -/
inductive FlagEntry (g : Grammar) (ts : Rest) : FlagDecl → Rest → Prop
  | entry {attrs : List Attribute} {visible colon : Bool} {n : String} {ty : Ty}
      {vs ws us content : Rest} {constants : List (Option String)}
      (hattrs : Takes (outerAttributes g) ts attrs vs)
      (hvisibility : Takes visibility vs visible
        (.ident "struct" :: .ident n :: .punct ':' colon :: ws))
      (hname : isReserved n = false)
      (hty : Takes (g.ty true) ws ty (.group .brace content :: us))
      (hconstants : Parts (FlagConstant g) content constants) :
      FlagEntry g ts ⟨attrs, n, constants.filterMap id⟩ us

/-- The tokens are the content of a flag block with these entries. -/
def IsFlagBlock (content : List Token) (entries : List FlagDecl) : Prop :=
  Parts (FlagEntry (grammar (nestingBound content))) content entries

/-! ## What is accepted -/

variable {g : Grammar} [ForwardGrammar g] {ts us : Rest}

theorem takes_flagConstant {flag : Option String} :
    Takes (flagConstant g) ts flag us ↔ FlagConstant g ts flag us := by
  unfold flagConstant
  simp only [takes_bind, takes_discard, takes_word, takes_word?]
  constructor
  · rintro ⟨_, _, ⟨attrs, hattrs⟩, _, _, rfl, found, _, ⟨rfl, rfl⟩ | ⟨rfl, rfl, -⟩, h⟩
    · rw [if_pos rfl] at h
      simp only [takes_bind, takes_pure, takes_discard, takes_symbol (s := "=") (c := '=') rfl,
        takes_symbol (s := ";") (c := ';') rfl] at h
      obtain ⟨_, _, ⟨rfl, rfl⟩, _, vs, ⟨equals, rfl⟩, _, _, ⟨e, he⟩, _, _, ⟨ends, rfl⟩, rfl,
        rfl⟩ := h
      exact .placeholder hattrs he
    · rw [if_neg Bool.false_ne_true] at h
      simp only [takes_bind, takes_pure, takes_discard, takes_map, takes_name,
        takes_symbol (s := "=") (c := '=') rfl, takes_symbol (s := ";") (c := ';') rfl] at h
      obtain ⟨_, _, ⟨n, ⟨rfl, hn⟩, rfl⟩, _, vs, ⟨equals, rfl⟩, _, _, ⟨e, he⟩, _, _, ⟨ends, rfl⟩,
        rfl, rfl⟩ := h
      exact .named hattrs hn he
  · intro h
    cases h with
    | @named _ n _ _ _ _ _ hattrs hname hvalue =>
        -- the placeholder is reserved, so the name is not taken for it
        have hne : n ≠ "_" := by
          rintro rfl
          cases hname
        refine ⟨(), _, ⟨_, hattrs⟩, (), _, rfl, false, _, .inr ⟨rfl, rfl, by simp [hne]⟩, ?_⟩
        rw [if_neg Bool.false_ne_true]
        simp only [takes_bind, takes_pure, takes_discard, takes_map, takes_name,
          takes_symbol (s := "=") (c := '=') rfl, takes_symbol (s := ";") (c := ';') rfl]
        exact ⟨_, _, ⟨_, ⟨rfl, hname⟩, rfl⟩, (), _, ⟨_, rfl⟩, (), _, ⟨_, hvalue⟩, (), _, ⟨_, rfl⟩,
          rfl, rfl⟩
    | placeholder hattrs hvalue =>
        refine ⟨(), _, ⟨_, hattrs⟩, (), _, rfl, true, _, .inl ⟨rfl, rfl⟩, ?_⟩
        rw [if_pos rfl]
        simp only [takes_bind, takes_pure, takes_discard, takes_symbol (s := "=") (c := '=') rfl,
          takes_symbol (s := ";") (c := ';') rfl]
        exact ⟨_, _, ⟨rfl, rfl⟩, (), _, ⟨_, rfl⟩, (), _, ⟨_, hvalue⟩, (), _, ⟨_, rfl⟩, rfl,
          rfl⟩

theorem FlagConstant.length_lt {flag : Option String} (h : FlagConstant g ts flag us) :
    us.length < ts.length := by
  cases h with
  | named hattrs hname hvalue =>
      have := hattrs.length_le
      have := hvalue.length_le
      simp only [List.length_cons] at *
      omega
  | placeholder hattrs hvalue =>
      have := hattrs.length_le
      have := hvalue.length_le
      simp only [List.length_cons] at *
      omega

theorem takes_flagDecl {e : FlagDecl} :
    Takes (flagDecl g) ts e us ↔ FlagEntry g ts e us := by
  have constants := fun {content as} => @takes_toEnd _ (flagConstant g) content [] _ _
    (fun _ _ _ => takes_flagConstant) (fun _ _ _ => FlagConstant.length_lt) as
  unfold flagDecl
  simp only [takes_bind, takes_pure, takes_discard, takes_word, takes_name, takes_group, constants,
    takes_symbol (s := ":") (c := ':') rfl]
  constructor
  · rintro ⟨attrs, vs, hattrs, _, _, ⟨visible, hvisible⟩, _, _, rfl, n, _, ⟨rfl, hn⟩, _, ws,
      ⟨colon, rfl⟩, _, _, ⟨ty, hty⟩, flags, _, ⟨content, rfl, -, hflags⟩, rfl, rfl⟩
    exact .entry hattrs hvisible hn hty hflags
  · rintro ⟨hattrs, hvisible, hn, hty, hflags⟩
    exact ⟨_, _, hattrs, (), _, ⟨_, hvisible⟩, (), _, rfl, _, _, ⟨rfl, hn⟩, (), _, ⟨_, rfl⟩, (), _,
      ⟨_, hty⟩, _, _, ⟨_, rfl, trivial, hflags⟩, rfl, rfl⟩

theorem FlagEntry.length_lt {e : FlagDecl} (h : FlagEntry g ts e us) : us.length < ts.length := by
  obtain ⟨hattrs, hvisible, -, hty, -⟩ := h
  have := hattrs.length_le
  have := hvisible.length_le
  have := hty.length_le
  simp only [List.length_cons] at *
  omega

/-- The accepted contents are those that consist of entries, and what is read are these. -/
theorem parseFlags_eq_ok {content : List Token} {entries : List FlagDecl} :
    parseFlags content = .ok entries ↔ IsFlagBlock content entries := by
  unfold parseFlags
  rw [parseAll_eq_ok]
  refine (takes_toEnd (fun _ _ _ => takes_flagDecl) (fun _ _ _ => FlagEntry.length_lt)).trans ?_
  exact and_iff_right rfl

end NodeIdGen.Syntax
