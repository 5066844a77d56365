import NodeIdGen.Proofs.Syntax.ForwardItems

/-!
# Names come from the text

A parser invents no names: what an item is called, what its fields are called, and what stands in
the paths of the attributes on them, are words that stood among the tokens. So a property that all
words of the tokens have is a property of the names, and a name that was read as one is moreover not
reserved. The one exception is the placeholder `_`, which is reserved and still accepted in the
place of a field's name.
-/

namespace NodeIdGen.Syntax

open NodeIdGen.Syntax.Parser

/-! ## The words of tokens -/

mutual

/-- The words of a token, at any depth. -/
def Token.words : Token → List String
  | .ident n => [n]
  | .group _ ts => wordsOf ts
  | _ => []

def wordsOf : List Token → List String
  | [] => []
  | t :: ts => t.words ++ wordsOf ts

end

theorem wordsOf_eq_flatMap (ts : List Token) : wordsOf ts = ts.flatMap Token.words := by
  induction ts with
  | nil => rfl
  | cons t ts ih => rw [wordsOf, ih, List.flatMap_cons]

theorem mem_wordsOf {w : String} {ts : List Token} :
    w ∈ wordsOf ts ↔ ∃ t ∈ ts, w ∈ t.words := by
  rw [wordsOf_eq_flatMap, List.mem_flatMap]

/-- Every word of the tokens has the property. -/
def WordsAll (P : String → Prop) (ts : List Token) : Prop :=
  ∀ w ∈ wordsOf ts, P w

namespace WordsAll

variable {P : String → Prop} {ts us : List Token}

theorem of_suffix (h : WordsAll P ts) (hs : us <:+ ts) : WordsAll P us := by
  intro w hw
  obtain ⟨t, ht, hwt⟩ := mem_wordsOf.1 hw
  exact h w (mem_wordsOf.2 ⟨t, hs.subset ht, hwt⟩)

theorem nil : WordsAll P [] :=
  fun _ hw => nomatch hw

theorem cons {t : Token} (ht : ∀ w ∈ t.words, P w) (h : WordsAll P ts) : WordsAll P (t :: ts) :=
  fun w hw => (List.mem_append.1 hw).elim (ht w) (h w)

theorem append (h : WordsAll P ts) (h' : WordsAll P us) : WordsAll P (ts ++ us) := by
  intro w hw
  rw [wordsOf_eq_flatMap, List.flatMap_append, List.mem_append, ← wordsOf_eq_flatMap,
    ← wordsOf_eq_flatMap] at hw
  exact hw.elim (h w) (h' w)

theorem reverse (h : WordsAll P ts) : WordsAll P ts.reverse := by
  intro w hw
  obtain ⟨t, ht, hwt⟩ := mem_wordsOf.1 hw
  exact h w (mem_wordsOf.2 ⟨t, List.mem_reverse.1 ht, hwt⟩)

theorem content {d : Delimiter} (h : WordsAll P (.group d us :: ts)) : WordsAll P us :=
  fun w hw => h w (List.mem_append_left _ hw)

theorem head {n : String} (h : WordsAll P (.ident n :: ts)) : P n :=
  h n (List.mem_append_left _ (List.mem_singleton.2 rfl))

end WordsAll

/-! ## What a parser makes of words -/

variable {α β : Type} {P : String → Prop}

/-- Where all words that are left have the property `P`, each result has the property `Q`. -/
structure Yields (P : String → Prop) (p : Parser α) (Q : α → Prop) : Prop where
  holds : ∀ {s t : State} {a : α}, WordsAll P s.rest → p s = .ok (a, t) → Q a

namespace Yields

variable {p q : Parser α} {f : α → Parser β} {Q : α → Prop} {R : β → Prop}

protected theorem pure {a : α} (h : Q a) : Yields P (pure a) Q :=
  ⟨fun _ hp => by cases hp; exact h⟩

protected theorem throw (e : Fault) : Yields P (throw e) Q :=
  ⟨fun _ hp => by cases hp⟩

theorem wanted (w : Wanted) : Yields P (wanted w) Q :=
  ⟨fun _ hp => by cases hp⟩

/-- The words left behind the first part are among the words before it. -/
theorem bind [Forward p] (hp : Yields P p Q) (hf : ∀ a, Q a → Yields P (f a) R) :
    Yields P (p >>= f) R := by
  refine ⟨fun hs h => ?_⟩
  obtain ⟨a, u, h₁, h₂⟩ := ok_of_bind h
  exact (hf a (hp.holds hs h₁)).holds (hs.of_suffix (Forward.suffix h₁)) h₂

/-- Nothing has to be known of the first part's result. -/
theorem skip (p : Parser α) [Forward p] (hf : ∀ a, Yields P (f a) R) : Yields P (p >>= f) R :=
  bind (Q := fun _ => True) ⟨fun _ _ => trivial⟩ fun a _ => hf a

theorem ite {c : Prop} [Decidable c] (hp : Yields P p Q) (hq : Yields P q Q) :
    Yields P (if c then p else q) Q := by
  split
  · exact hp
  · exact hq

/-- Behind a look, the words that were seen have the property. -/
theorem of_look {f : Rest → Parser β}
    (h : ∀ ts, WordsAll P ts → ∀ {s t b}, s.rest = ts → f ts s = .ok (b, t) → R b) :
    Yields P (look >>= f) R :=
  ⟨fun hs hp => h _ hs rfl (ok_of_look hp)⟩

theorem group {d : Delimiter} (hp : Yields P p Q) : Yields P (group d p) Q := by
  refine ⟨fun {s t a} hs h => ?_⟩
  obtain ⟨content, after, u, hrest, hcontent, -⟩ := ok_of_group h
  rw [hrest] at hs
  exact hp.holds hs.content hcontent

/-! ### Repetition: what each round yields, all of them yield -/

theorem rounds [Forward p] {again : Parser Bool} [Forward again] (hp : Yields P p Q) (n : Nat) :
    Yields P (rounds p again n) (fun as => ∀ a ∈ as, Q a) := by
  induction n with
  | zero => exact .throw _
  | succ n ih =>
      refine hp.bind fun a ha => .skip again fun more => .ite ?_ (.pure ?_)
      · exact ih.bind fun as has => .pure (List.forall_mem_cons.2 ⟨ha, has⟩)
      · exact List.forall_mem_singleton.2 ha

theorem chained [Forward p] {again : Parser Bool} [Forward again] (hp : Yields P p Q) :
    Yields P (chained p again) (fun as => ∀ a ∈ as, Q a) :=
  .skip look fun _ => hp.rounds _

theorem whileIs [Forward p] (more : Rest → Bool) (hp : Yields P p Q) :
    Yields P (whileIs more p) (fun as => ∀ a ∈ as, Q a) :=
  .skip _ fun _ => .ite hp.chained (.pure (List.forall_mem_nil _))

theorem toEnd [Forward p] (hp : Yields P p Q) :
    Yields P (toEnd p) (fun as => ∀ a ∈ as, Q a) :=
  hp.whileIs _

theorem commaSeparated [Forward p] (hp : Yields P p Q) :
    Yields P (commaSeparated p) (fun as => ∀ a ∈ as, Q a) :=
  .skip _ fun _ => .ite (.pure (List.forall_mem_nil _)) hp.chained

end Yields

/-! ## Names -/

/-- A word that may name something. -/
def Names (P : String → Prop) (n : String) : Prop :=
  P n ∧ isReserved n = false

/-- A word that the grammar lets name a field. -/
def NamesField (P : String → Prop) (n : String) : Prop :=
  Names P n ∨ n = "_"

theorem name_yields : Yields P name (Names P) := by
  refine .of_look fun ts hts s t n hs h => ?_
  split at h
  · next m us =>
    split at h
    · cases h
    · next hm => cases h; exact ⟨hts.head, Bool.eq_false_iff.2 hm⟩
  · cases h

/-- What stands in the place of a field's name: the placeholder, or a name. -/
theorem fieldName_yields {f : Bool → String → Parser β} {R : β → Prop}
    (hf : ∀ u n, NamesField P n → Yields P (f u n) R) :
    Yields P (do
      let u ← test (·.atWord "_")
      if u then anyWord >>= f u else name >>= f u) R := by
  refine ⟨fun {s t a} hs h => ?_⟩
  obtain ⟨u, s₁, h₁, h⟩ := ok_of_bind h
  cases h₁
  split at h
  · next hu =>
    obtain ⟨ts, l⟩ := s
    match ts, hu with
    | .ident m :: us, hu =>
        obtain ⟨n, s₂, h₂, h⟩ := ok_of_bind h
        cases h₂
        refine (hf _ m (.inr ?_)).holds (hs.of_suffix (List.suffix_cons _ _)) h
        simpa [Rest.atWord] using hu
  · obtain ⟨n, s₂, h₂, h⟩ := ok_of_bind h
    exact (hf _ n (.inl (name_yields.holds hs h₂))).holds (hs.of_suffix (Forward.suffix h₂)) h

theorem anyWord_yields : Yields P anyWord P := by
  refine .of_look fun ts hts s t n hs h => ?_
  split at h
  · cases h; exact hts.head
  · cases h

theorem word?_yields (w : String) : Yields P (word? w) (fun found => found = true → P w) := by
  refine .of_look fun ts hts s t found hs h hfound => ?_
  split at h
  · next n us =>
    split at h
    · next hn => exact hn ▸ hts.head
    · cases h; cases hfound
  · cases h; cases hfound

/-! ## Attributes -/

/-- The names in the path of an attribute have the property. -/
def Attribute.Sound (P : String → Prop) (a : Attribute) : Prop :=
  ∀ s ∈ a.path.segments, P s.name

theorem plainPath_yields : Yields P plainPath (fun p => ∀ s ∈ p.segments, P s.name) := by
  refine .skip _ fun rooted => .skip _ fun _ => .ite ?_ ?_
  · refine anyWord_yields.chained.bind fun names hnames => .pure ?_
    exact List.forall_mem_map.2 hnames
  · exact name_yields.bind fun n hn => .pure (List.forall_mem_singleton.2 hn.1)

theorem attributePath_yields : Yields P attributePath (fun p => ∀ s ∈ p.segments, P s.name) := by
  refine (word?_yields "unsafe").bind fun found hfound => ?_
  split
  · next h => exact .pure (List.forall_mem_singleton.2 (hfound h))
  · exact plainPath_yields

/-! ## Fields -/

/-- A field that has no name, or one that is fit for a field. -/
def FieldDecl.Sound (P : String → Prop) (f : FieldDecl) : Prop :=
  ∀ n, f.name = some n → NamesField P n

section Rules

set_option synthInstance.maxSize 100000

variable (g : Grammar) [ForwardGrammar g]

theorem outerAttributes_yields : Yields P (outerAttributes g) (fun as => ∀ a ∈ as, a.Sound P) := by
  have content : Yields P (attributeContent g) (Attribute.Sound P) := by
    refine attributePath_yields.bind fun p hp => .skip _ fun ts => .ite ?_ (.ite ?_ ?_)
    · exact .skip _ fun _ => .pure hp
    · refine .skip _ fun _ => .skip _ fun us => .ite ⟨fun _ h => by cases h⟩ ?_
      exact .skip _ fun _ => .pure hp
    · exact .pure hp
  exact Yields.whileIs _ (.skip _ fun _ => content.group)

/-- The names of a field and of the attributes on it all have the property. -/
def FieldDecl.Whole (P : String → Prop) (f : FieldDecl) : Prop :=
  f.Sound P ∧ ∀ a ∈ f.attrs, a.Sound P

theorem namedFields_yields (n : Nat) :
    Yields P (namedFields g n) (fun fs => ∀ f ∈ fs, f.Whole P) := by
  cases n with
  | zero => exact .throw _
  | succ n =>
      unfold namedFields
      dsimp only
      refine Yields.group (Yields.commaSeparated ?_)
      refine (outerAttributes_yields g).bind fun attrs hattrs => .skip _ fun _ => ?_
      refine fieldName_yields fun u m hm => ?_
      have whole : FieldDecl.Whole P ⟨attrs, some m⟩ :=
        ⟨fun k hk => Option.some.inj hk ▸ hm, hattrs⟩
      refine .skip _ fun _ => .skip _ fun nested => .ite ?_ ?_
      · exact .skip _ fun _ => .skip _ fun _ => .pure whole
      · exact .skip _ fun _ => .pure whole

theorem structBody_yields : Yields P (structBody g) (fun fs => ∀ f ∈ fs, f.Whole P) := by
  have positional : Yields P (positionalField g) (FieldDecl.Whole P) := by
    refine (outerAttributes_yields g).bind fun attrs hattrs => .skip _ fun _ => .skip _ fun _ => ?_
    exact .pure ⟨nofun, hattrs⟩
  refine .skip _ fun restricted => .skip _ fun ts => .ite ?_ (.ite ?_ ?_)
  · refine Yields.bind (Yields.group positional.commaSeparated) fun fs hfs => ?_
    exact .skip _ fun _ => .skip _ fun _ => .pure hfs
  · exact .skip _ fun _ => namedFields_yields g _
  · exact .skip _ fun _ => .pure (List.forall_mem_nil _)

/-! ## Items -/

/-- The names that an item declares, and the words inside an invocation, have the property. -/
def Item.Sound (P : String → Prop) : Item → Prop
  | .struct d => Names P d.name ∧ ∀ f ∈ d.fields, f.Sound P
  | .enum d => Names P d.name
  | .invocation _ content => WordsAll P content
  | _ => True

/-- The attributes that an item keeps, on itself and on its fields. -/
def Item.attributes : Item → List Attribute
  | .struct d => d.attrs ++ d.fields.flatMap FieldDecl.attrs
  | .enum d => d.attrs
  | _ => []

/-- The names of an item and of the attributes that it keeps all have the property. -/
def Item.Whole (P : String → Prop) (i : Item) : Prop :=
  i.Sound P ∧ ∀ a ∈ i.attributes, a.Sound P

/-- The parser's results are items that declare no schema. -/
class Plain (p : Parser Item) : Prop where
  sound : ∀ {P : String → Prop} {s t : State} {i : Item}, p s = .ok (i, t) → i.Sound P

/-- Structures and enumerations have a name, which need not have any property. -/
theorem Plain.attributes_eq_nil {p : Parser Item} [Plain p] {s t : State} {i : Item}
    (h : p s = .ok (i, t)) : i.attributes = [] := by
  have declares : i.Sound fun _ => False := Plain.sound h
  cases i with
  | struct d => exact declares.1.1.elim
  | enum d => exact declares.1.elim
  | _ => rfl

theorem Yields.of_plain (p : Parser Item) [Plain p] : Yields P p (Item.Whole P) :=
  ⟨fun _ h => ⟨Plain.sound h, Plain.attributes_eq_nil h ▸ List.forall_mem_nil _⟩⟩

section Plain

instance (p : Parser α) (f : α → Parser Item) [∀ a, Plain (f a)] : Plain (p >>= f) := by
  refine ⟨fun h => ?_⟩
  obtain ⟨a, u, -, h⟩ := ok_of_bind h
  exact Plain.sound h

theorem Plain.bind (p : Parser α) {f : α → Parser Item} (h : ∀ a, Plain (f a)) :
    Plain (p >>= f) :=
  inferInstance

instance (c : Prop) [Decidable c] (p q : Parser Item) [Plain p] [Plain q] :
    Plain (if c then p else q) := by
  split <;> assumption

instance (w : Wanted) : Plain (wanted w) :=
  ⟨fun h => by cases h⟩

instance (c : Prop) [Decidable c] (i j : Item) [Plain (pure i)] [Plain (pure j)] :
    Plain (pure (if c then i else j)) := by
  split <;> assumption

instance : Plain (pure .other) := ⟨fun h => by cases h; trivial⟩

instance : Plain (pure .useItem) := ⟨fun h => by cases h; trivial⟩

instance (n : String) : Plain (pure (.function n)) := ⟨fun h => by cases h; trivial⟩

instance (n : String) : Plain (pure (.typeAlias n)) := ⟨fun h => by cases h; trivial⟩

instance (n : String) : Plain (pure (.union n)) := ⟨fun h => by cases h; trivial⟩

instance (n : String) : Plain (pure (.trait n)) := ⟨fun h => by cases h; trivial⟩

instance (n : String) : Plain (pure (.constant n)) := ⟨fun h => by cases h; trivial⟩

instance (n : String) : Plain (pure (.static n)) := ⟨fun h => by cases h; trivial⟩

instance (n : String) : Plain (pure (.module n)) := ⟨fun h => by cases h; trivial⟩

instance (i : Implementation) : Plain (pure (.implementation i)) :=
  ⟨fun h => by cases h; trivial⟩

/-! Every kind of item but three ends with a result that declares nothing. -/

instance : Plain (functionItem g) := by unfold functionItem; infer_instance

instance : Plain libraryItem := by unfold libraryItem; dsimp only; infer_instance

instance : Plain (foreignItem g) := by unfold foreignItem; infer_instance

instance : Plain (useItem g) := by unfold useItem; infer_instance

instance : Plain (staticItem g) := by unfold staticItem; infer_instance

instance : Plain (traitItem g) := by unfold traitItem; infer_instance

instance : Plain (traitOrAliasItem g) := by unfold traitOrAliasItem; infer_instance

instance : Plain (moduleItem g) := by unfold moduleItem; dsimp only; infer_instance

instance : Plain (unionItem g) := by unfold unionItem; infer_instance

instance : Plain newMacroItem := by unfold newMacroItem; dsimp only; infer_instance

instance (attrs : List Attribute) (visible : Bool) : Plain (implItem g attrs visible) := by
  unfold implItem
  dsimp only
  infer_instance

instance (attrs : List Attribute) (visible : Bool) : Plain (unsafeItem g attrs visible) := by
  unfold unsafeItem
  dsimp only
  infer_instance

instance : Plain (constantItem g) := by
  refine Plain.bind _ fun _ => Plain.bind _ fun ⟨n, valued, plain⟩ => ?_
  dsimp only
  infer_instance

instance : Plain (aliasItem g) := by
  refine Plain.bind _ fun ⟨n, plain⟩ => ?_
  dsimp only
  infer_instance

end Plain

section Attributed

variable {attrs : List Attribute} (hattrs : ∀ a ∈ attrs, a.Sound P)

include hattrs

theorem structItem_yields : Yields P (structItem g attrs) (Item.Whole P) := by
  refine .skip _ fun _ => name_yields.bind fun n hn => .skip _ fun _ => ?_
  refine (structBody_yields g).bind fun fs hfs => .pure ⟨⟨hn, fun f hf => (hfs f hf).1⟩, ?_⟩
  refine List.forall_mem_append.2 ⟨hattrs, fun a ha => ?_⟩
  obtain ⟨f, hf, ha⟩ := List.mem_flatMap.1 ha
  exact (hfs f hf).2 a ha

theorem enumItem_yields : Yields P (enumItem g attrs) (Item.Whole P) := by
  refine .skip _ fun _ => name_yields.bind fun n hn => .skip _ fun _ => .skip _ fun _ => ?_
  exact .skip _ fun _ => .pure ⟨hn, hattrs⟩

end Attributed

theorem anyGroup_yields : Yields P anyGroup (fun c => WordsAll P c.2) := by
  refine .of_look fun ts hts s t c hs h => ?_
  split at h
  · cases h; exact hts.content
  · cases h

theorem invocationItem_yields : Yields P invocationItem (Item.Whole P) := by
  unfold invocationItem
  dsimp only
  refine .skip _ fun p => .skip _ fun _ => .skip _ fun _ => .ite ?_ ?_
  all_goals
    refine .skip _ fun _ => anyGroup_yields.bind fun c hc => .ite ?_ ?_
    · exact .skip _ fun _ => .pure ⟨hc, List.forall_mem_nil _⟩
    · exact .pure ⟨hc, List.forall_mem_nil _⟩

/-- An item is a structure, an enumeration, an invocation, or it declares nothing. -/
theorem itemRule_yields_of {Q : Item → Prop}
    (hstruct : ∀ attrs, (∀ a ∈ attrs, a.Sound P) → Yields P (structItem g attrs) Q)
    (henum : ∀ attrs, (∀ a ∈ attrs, a.Sound P) → Yields P (enumItem g attrs) Q)
    (hinvocation : Yields P invocationItem Q)
    (hplain : ∀ (p : Parser Item) [Plain p], Yields P p Q) :
    Yields P (itemRule g) Q := by
  refine (outerAttributes_yields g).bind fun attrs hattrs => ?_
  refine .skip _ fun visible => .skip _ fun ts => .skip _ fun _ => ?_
  repeat' apply Yields.ite
  all_goals first
    | exact hstruct attrs hattrs
    | exact henum attrs hattrs
    | exact hinvocation
    | exact .wanted _
    | exact hplain _

theorem itemRule_yields : Yields P (itemRule g) (Item.Whole P) := by
  refine itemRule_yields_of g ?_ ?_ invocationItem_yields fun p => .of_plain p
  · intro attrs hattrs
    exact structItem_yields g hattrs
  · intro attrs hattrs
    exact enumItem_yields g hattrs

/-! ## Flag blocks -/

theorem flagDecl_yields : Yields P (flagDecl g) (fun d => Names P d.name) := by
  refine .skip _ fun attrs => .skip _ fun _ => .skip _ fun _ => name_yields.bind fun n hn => ?_
  exact .skip _ fun _ => .skip _ fun _ => .skip _ fun _ => .pure hn

end Rules

/-! ## Whole texts -/

/-- What the rule of items yields at every depth, all items of a file have. -/
theorem Item.forall_of_parseAll {Q : Item → Prop} {ts : List Token} {items : List Item}
    (hts : WordsAll P ts) (hrule : ∀ n, Yields P (itemRule (grammar n)) Q)
    (h : parseAll fileItems ts = .ok items) : ∀ i ∈ items, Q i := by
  have item (n : Nat) : Yields P (grammar n).item Q := by
    cases n with
    | zero => exact .throw _
    | succ n => exact ⟨fun hs hp => (hrule n).holds hs hp⟩
  have file (n : Nat) : Yields P (fileItems (grammar n)) (fun items => ∀ i ∈ items, Q i) :=
    .skip _ fun _ => (item n).toEnd
  exact (file _).holds hts (parseAll_eq_ok.1 h)

theorem Item.whole_of_parseAll {ts : List Token} {items : List Item} (hts : WordsAll P ts)
    (h : parseAll fileItems ts = .ok items) : ∀ i ∈ items, i.Whole P :=
  Item.forall_of_parseAll hts (fun n => itemRule_yields (grammar n)) h

theorem FlagDecl.names_of_parseFlags {ts : List Token} {ds : List FlagDecl} (hts : WordsAll P ts)
    (h : parseFlags ts = .ok ds) : ∀ d ∈ ds, Names P d.name :=
  (flagDecl_yields _).toEnd.holds hts (parseAll_eq_ok.1 h)

end NodeIdGen.Syntax
