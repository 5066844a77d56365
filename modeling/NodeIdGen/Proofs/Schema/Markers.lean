import NodeIdGen.Proofs.Generate.Wiring
import NodeIdGen.Proofs.Schema.WrittenForms

/-!
# Which markers attributes stand for

The two markers with a meaning cannot be forged and cannot be missed. An attribute stands for one of
them exactly if its path is the one plain name for it, and it is refused exactly if there is more
between its brackets than that name. Every other attribute but documentation stands for the marker
that its path reads as, and that is never one of the two, because a path is made of words and no
word has a hyphen.

So which markers there are is told by which attributes there are, in whatever order and however
often.
-/

namespace NodeIdGen.Syntax

open NodeIdGen.Syntax.Parser

-- a long rule is a deep term of binds
set_option synthInstance.maxSize 100000

variable {ts us content : Rest} {n : String}

/-! ## The tokens of an attribute -/

theorem atPlainSegment_name (hn : isReserved n = false) :
    atPlainSegment (.ident n :: us) = true := by
  simp [atPlainSegment, Rest.atName, hn]

/-- Behind a segment, the path ends where no `::` follows. -/
theorem takes_noSegment : Takes (do
      if ← symbol? "::" then
        if ← test atPlainSegment then
          return true
        else
          broken "expected path segment after `::`"
      else
        return false) ts false us ↔ Rest.symbol? "::".toList ts = none ∧ us = ts := by
  rw [takes_bind]
  constructor
  · rintro ⟨found, vs, hfound, h⟩
    rcases takes_symbol?.1 hfound with ⟨rfl, -⟩ | ⟨rfl, hnone, rfl⟩
    · rw [if_pos rfl] at h
      rw [takes_test_bind] at h
      split at h
      · cases (takes_pure.1 h).1
      · cases h
    · rw [if_neg Bool.false_ne_true] at h
      obtain ⟨-, rfl⟩ := takes_pure.1 h
      exact ⟨hnone, rfl⟩
  · rintro ⟨hnone, rfl⟩
    exact ⟨false, us, takes_symbol?.2 (.inr ⟨rfl, hnone, rfl⟩), takes_pure.2 ⟨rfl, rfl⟩⟩

theorem takes_plainPath_ofName (hn : isReserved n = false) :
    Takes plainPath content (.ofName n) us ↔
      content = .ident n :: us ∧ Rest.symbol? "::".toList us = none := by
  unfold plainPath
  rw [takes_bind]
  constructor
  · rintro ⟨rooted, vs, hrooted, h⟩
    rw [takes_test_bind] at h
    split at h
    · obtain ⟨names, ws, hnames, h⟩ := takes_bind.1 h
      obtain ⟨hpath, rfl⟩ := takes_pure.1 h
      obtain rfl : rooted = false := congrArg Path.rooted hpath
      have hsegments : names.map (Segment.mk · .absent) = [Segment.mk n .absent] :=
        congrArg Path.segments hpath
      obtain ⟨m, rfl, hm⟩ := List.map_eq_singleton_iff.1 hsegments
      obtain rfl : m = n := congrArg Segment.name hm
      obtain ⟨xs, hword, hend⟩ := takes_chained_singleton.1 hnames
      obtain ⟨hnone, rfl⟩ := takes_noSegment.1 hend
      rcases takes_symbol?.1 hrooted with ⟨htrue, -⟩ | ⟨-, -, rfl⟩
      · cases htrue
      · exact ⟨takes_anyWord.1 hword, hnone⟩
    · next hsegment =>
      obtain ⟨m, ws, hm, h⟩ := takes_bind.1 h
      obtain ⟨rfl, hreserved⟩ := takes_name.1 hm
      exact absurd (atPlainSegment_name hreserved) hsegment
  · rintro ⟨rfl, hnone⟩
    have unrooted : Rest.symbol? "::".toList (.ident n :: us) = none := rfl
    refine ⟨false, _, takes_symbol?.2 (.inr ⟨rfl, unrooted, rfl⟩), ?_⟩
    rw [takes_test_bind, if_pos (atPlainSegment_name hn)]
    refine takes_bind.2 ⟨[n], us, ?_, takes_pure.2 ⟨rfl, rfl⟩⟩
    exact takes_chained_singleton.2 ⟨us, takes_anyWord.2 rfl, takes_noSegment.2 ⟨hnone, rfl⟩⟩

theorem takes_attributePath_ofName (hn : isReserved n = false) :
    Takes attributePath content (.ofName n) us ↔
      content = .ident n :: us ∧ Rest.symbol? "::".toList us = none := by
  have hne : n ≠ "unsafe" := by
    rintro rfl
    cases hn
  rw [attributePath, takes_bind, ← takes_plainPath_ofName hn]
  constructor
  · rintro ⟨found, vs, hfound, h⟩
    rcases takes_word?.1 hfound with ⟨rfl, -⟩ | ⟨rfl, rfl, -⟩
    · obtain ⟨hpath, -⟩ := takes_pure.1 h
      exact absurd (congrArg Path.lastName? hpath)
        (by simp [Path.lastName?, Path.ofName, Ne.symm hne])
    · exact h
  · intro h
    obtain ⟨rfl, -⟩ := (takes_plainPath_ofName hn).1 h
    exact ⟨false, _, takes_word?.2 (.inr ⟨rfl, rfl, by simp [hne]⟩), h⟩

variable {g : Grammar} [ForwardGrammar g] {a : Attribute}

/-- An attribute has arguments or a value exactly if something stands behind its path. -/
theorem takes_attributeContent (h : Takes (attributeContent g) content a []) :
    ∃ args, Takes attributePath content a.path args ∧ (a.payload = true ↔ args ≠ []) := by
  unfold attributeContent at h
  obtain ⟨path, args, hpath, h⟩ := takes_bind.1 h
  rw [takes_look_bind] at h
  split at h
  · next hgroup =>
    obtain ⟨_, vs, hskip, h⟩ := takes_bind.1 h
    obtain ⟨rfl, rfl⟩ := takes_pure.1 h
    refine ⟨args, hpath, iff_of_true rfl ?_⟩
    rintro rfl
    cases hgroup
  · split at h
    · next hvalue =>
      obtain ⟨_, vs, hsymbol, h⟩ := takes_bind.1 h
      rw [takes_look_bind] at h
      split at h
      · cases h
      · obtain ⟨_, ws, hexpr, h⟩ := takes_bind.1 h
        obtain ⟨rfl, rfl⟩ := takes_pure.1 h
        refine ⟨args, hpath, iff_of_true rfl ?_⟩
        rintro rfl
        cases hvalue
    · obtain ⟨rfl, rfl⟩ := takes_pure.1 h
      exact ⟨[], hpath, iff_of_false Bool.false_ne_true fun h => h rfl⟩

/-- An attribute has the path of one name exactly if that name stands in front and no further
segment behind it, and it is that name alone exactly if nothing else stands there. -/
theorem plain_of_takes (hn : isReserved n = false) (h : Takes (attributeContent g) content a []) :
    (a.path = .ofName n ∧ a.payload = true ↔
        ∃ args, content = .ident n :: args ∧ args ≠ [] ∧ Rest.symbol? "::".toList args = none) ∧
      (a.path = .ofName n ∧ a.payload = false ↔ content = [.ident n]) := by
  obtain ⟨args, hpath, hpayload⟩ := takes_attributeContent h
  have plain : ∀ {args'}, content = .ident n :: args' → Rest.symbol? "::".toList args' = none →
      a.path = .ofName n ∧ args = args' := by
    intro args' hcontent hend
    have hname := (takes_attributePath_ofName hn).2 ⟨hcontent, hend⟩
    obtain ⟨hpath, hstate⟩ := Prod.mk.inj (Except.ok.inj (hpath.symm.trans hname))
    exact ⟨hpath, congrArg State.rest hstate⟩
  constructor
  · constructor
    · rintro ⟨hname, hloaded⟩
      obtain ⟨hcontent, hend⟩ := (takes_attributePath_ofName hn).1 (hname ▸ hpath)
      exact ⟨args, hcontent, hpayload.1 hloaded, hend⟩
    · rintro ⟨args', hcontent, hargs, hend⟩
      obtain ⟨hname, rfl⟩ := plain hcontent hend
      exact ⟨hname, hpayload.2 hargs⟩
  · constructor
    · rintro ⟨hname, hbare⟩
      obtain ⟨hcontent, -⟩ := (takes_attributePath_ofName hn).1 (hname ▸ hpath)
      rw [hcontent, not_not.1 (mt hpayload.2 (by rw [hbare]; exact Bool.false_ne_true))]
    · intro hcontent
      obtain ⟨hname, rfl⟩ := plain hcontent rfl
      exact ⟨hname, Bool.eq_false_iff.2 fun hloaded => hpayload.1 hloaded rfl⟩

/-! ## The attributes of flag entries -/

theorem flagDecl_attrs_yield {P : String → Prop} (g : Grammar) [ForwardGrammar g] :
    Yields P (flagDecl g) (fun d => ∀ a ∈ d.attrs, a.Sound P) := by
  refine (outerAttributes_yields g).bind fun attrs hattrs => .skip _ fun _ => .skip _ fun _ => ?_
  exact .skip _ fun _ => .skip _ fun _ => .skip _ fun _ => .skip _ fun _ => .pure hattrs

theorem FlagDecl.attrs_of_parseFlags {P : String → Prop} {ts : List Token} {ds : List FlagDecl}
    (hts : WordsAll P ts) (h : parseFlags ts = .ok ds) : ∀ d ∈ ds, ∀ a ∈ d.attrs, a.Sound P :=
  (flagDecl_attrs_yield _).toEnd.holds hts (parseAll_eq_ok.1 h)

end NodeIdGen.Syntax

namespace NodeIdGen.Schema

open NodeIdGen.Syntax NodeIdGen.Syntax.Parser NodeIdGen.Generate

/-! ## Where attributes stand -/

/-- The attributes at one place among the items, with the name of the declaration there. -/
inductive AttributesAt (items : List Item) : String → List Attribute → Prop
  | struct {d : StructDecl} (hd : .struct d ∈ items) : AttributesAt items d.name d.attrs
  | field {d : StructDecl} {f : FieldDecl} (hd : .struct d ∈ items) (hf : f ∈ d.fields) :
      AttributesAt items d.name f.attrs
  | enum {d : EnumDecl} (hd : .enum d ∈ items) : AttributesAt items d.name d.attrs
  | entry {path : Path} {content : List Token} {entries : List FlagDecl} {e : FlagDecl}
      (hblock : .invocation path content ∈ items) (hcontent : parseFlags content = .ok entries)
      (he : e ∈ entries) : AttributesAt items e.name e.attrs

/-- The paths of the attributes in a source text are made of words. -/
theorem AttributesAt.sound {text : String} {items : List Item} (hparse : parseFile text = .ok items)
    {decl : String} {attrs : List Attribute} (h : AttributesAt items decl attrs) :
    ∀ a ∈ attrs, a.Sound IsWord := by
  have whole := areWords_of_parseFile hparse
  cases h with
  | struct hd => exact fun a ha => (whole _ hd).2 a (List.mem_append_left _ ha)
  | field hd hf =>
      exact fun a ha => (whole _ hd).2 a (List.mem_append_right _ (List.mem_flatMap.2 ⟨_, hf, ha⟩))
  | enum hd => exact (whole _ hd).2
  | entry hblock hcontent he =>
      exact FlagDecl.attrs_of_parseFlags (whole _ hblock).1 hcontent _ he

/-! ## The markers -/

variable {attrs attrs' : List Attribute} {decl : String} {s : AttrSet}

theorem markers_eq_ok : markers attrs decl = .ok s ↔ Bare attrs ∧ s = markersOf attrs := by
  rw [markers_eq, Except.elim_ok_iff, attrsDefect?_eq_none, eq_comm (a := s)]

theorem attrsDefect?_eq_some {d : Defect} (h : attrsDefect? decl attrs = some d) :
    ∃ a ∈ attrs, IsLoaded a ∧ d = .payload a.path.text decl := by
  obtain ⟨a, ha, hd⟩ := List.exists_of_findSome?_eq_some h
  rw [loadDefect?] at hd
  split at hd
  · next hloaded => exact ⟨a, ha, hloaded, (Option.some.inj hd).symm⟩
  · cases hd

theorem markers_eq_error {d : Defect} (h : markers attrs decl = .error d) :
    ∃ a ∈ attrs, IsLoaded a ∧ d = .payload a.path.text decl := by
  rw [markers_eq, Except.elim_error_iff] at h
  exact attrsDefect?_eq_some h

/-- The markers fail exactly if there is an attribute with a meaning that has arguments or a
value. -/
theorem markers_fail_iff : (∃ d, markers attrs decl = .error d) ↔ ∃ a ∈ attrs, IsLoaded a := by
  constructor
  · rintro ⟨d, hd⟩
    obtain ⟨a, ha, hloaded, -⟩ := markers_eq_error hd
    exact ⟨a, ha, hloaded⟩
  · rintro ⟨a, ha, hloaded⟩
    cases h : markers attrs decl with
    | error d => exact ⟨d, rfl⟩
    | ok s => exact absurd hloaded ((markers_eq_ok.1 h).1 a ha)

theorem eq_bareAttribute_iff {n : String} {a : Attribute} :
    a = bareAttribute n ↔ a.path = .ofName n ∧ a.payload = false := by
  obtain ⟨path, payload⟩ := a
  rw [bareAttribute, Attribute.mk.injEq]

theorem isLoaded_iff_of_path {n m : String} (h : (n, m) ∈ meanings) {a : Attribute}
    (hpath : a.path = .ofName n) : IsLoaded a ↔ a.payload = true := by
  have two : ∀ p ∈ meanings, p.1 = "node_id" ∨ p.1 = "no_node_id" := by decide
  refine and_iff_right ?_
  rcases two _ h with rfl | rfl
  · exact .inl hpath
  · exact .inr hpath

/-- An attribute stands for a marker with a meaning exactly if it is the bare name for it. -/
theorem marker?_eq_meaning {n m : String} (h : (n, m) ∈ meanings) {a : Attribute}
    (ha : a.Sound IsWord) : marker? a decl = .ok (some m) ↔ a = bareAttribute n := by
  rw [marker?_eq, Except.elim_ok_iff, markerOf?_eq_some_iff h ha, loadDefect?]
  constructor
  · rintro ⟨hload, hpath⟩
    have hpayload : a.payload = false := by
      refine Bool.eq_false_iff.2 fun hpayload => ?_
      rw [if_pos ((isLoaded_iff_of_path h hpath).2 hpayload)] at hload
      cases hload
    exact eq_bareAttribute_iff.2 ⟨hpath, hpayload⟩
  · rintro rfl
    refine ⟨if_neg ?_, rfl⟩
    rw [isLoaded_iff_of_path h rfl]
    exact Bool.false_ne_true

/-- The set of markers that attributes stand for: the two with a meaning by the bare attribute, and
else what the paths of all other attributes but documentation read as. -/
structure MarkedBy (attrs : List Attribute) (s : AttrSet) : Prop where
  identifier : identifierField ∈ s ↔ bareAttribute "node_id" ∈ attrs
  noIdentifier : noIdentifier ∈ s ↔ bareAttribute "no_node_id" ∈ attrs
  others : ∀ m, m ≠ identifierField → m ≠ Schema.noIdentifier → (m ∈ s ↔ ∃ a ∈ attrs,
    a.path ≠ .ofName "doc" ∧ a.path ≠ .ofName "node_id" ∧ a.path ≠ .ofName "no_node_id" ∧
      a.path.text = m)

theorem markerOf?_eq_other {a : Attribute} {m : String} (hid : m ≠ identifierField)
    (hno : m ≠ noIdentifier) :
    markerOf? a = some m ↔ a.path ≠ .ofName "doc" ∧ a.path ≠ .ofName "node_id" ∧
      a.path ≠ .ofName "no_node_id" ∧ a.path.text = m := by
  rw [markerOf?]
  split
  · next hpath => simp [hpath]
  · next hdoc =>
    split
    · next hpath => simp [hpath, Ne.symm hid]
    · next hnode =>
      split
      · next hpath => simp [hpath, Ne.symm hno]
      · next hnone => simp [hdoc, hnode, hnone]

theorem markedBy_iff (hsound : ∀ a ∈ attrs, a.Sound IsWord) (hbare : Bare attrs) :
    MarkedBy attrs s ↔ s = markersOf attrs := by
  have of_markers : MarkedBy attrs (markersOf attrs) := by
    refine ⟨mem_markersOf_iff (by decide) hsound hbare, mem_markersOf_iff (by decide) hsound hbare,
      ?_⟩
    intro m hid hno
    simp only [markersOf, AttrSet.mem_ofList, List.mem_filterMap, markerOf?_eq_other hid hno]
  constructor
  · intro h
    refine AttrSet.ext_mem fun m => ?_
    by_cases hid : m = identifierField
    · rw [hid, h.identifier, of_markers.identifier]
    by_cases hno : m = noIdentifier
    · rw [hno, h.noIdentifier, of_markers.noIdentifier]
    rw [h.others m hid hno, of_markers.others m hid hno]
  · rintro rfl
    exact of_markers

/-- The order of the attributes makes no difference, nor does it how often each of them stands
there. -/
theorem markers_congr (h : ∀ a, a ∈ attrs' ↔ a ∈ attrs) :
    (markers attrs' decl).toOption = (markers attrs decl).toOption := by
  have bare : Bare attrs' ↔ Bare attrs := by
    refine forall_congr' fun a => ?_
    rw [h a]
  have same : markersOf attrs' = markersOf attrs := by
    refine AttrSet.ext_mem fun m => ?_
    simp only [markersOf, AttrSet.mem_ofList, List.mem_filterMap, h]
  refine Option.ext fun s => ?_
  rw [Except.toOption_eq_some, Except.toOption_eq_some, markers_eq_ok, markers_eq_ok, bare, same]

/-- Between the brackets of an attribute with a meaning stands its plain name alone, or that name
and what is taken for arguments or a value. -/
theorem meaning_of_takes {g : Grammar} [ForwardGrammar g] {content : List Token} {a : Attribute}
    (h : Takes (attributeContent g) content a []) :
    (IsLoaded a ↔ ∃ n args, (n = "node_id" ∨ n = "no_node_id") ∧ content = .ident n :: args ∧
        args ≠ [] ∧ Rest.symbol? "::".toList args = none) ∧
      (a = bareAttribute "node_id" ↔ content = [.ident "node_id"]) ∧
      (a = bareAttribute "no_node_id" ↔ content = [.ident "no_node_id"]) := by
  obtain ⟨id_loaded, id_bare⟩ := plain_of_takes (n := "node_id") (by decide) h
  obtain ⟨no_id_loaded, no_id_bare⟩ := plain_of_takes (n := "no_node_id") (by decide) h
  refine ⟨?_, eq_bareAttribute_iff.trans id_bare, eq_bareAttribute_iff.trans no_id_bare⟩
  rw [IsLoaded, or_and_right, id_loaded, no_id_loaded]
  constructor
  · rintro (⟨args, hargs⟩ | ⟨args, hargs⟩)
    · exact ⟨_, args, .inl rfl, hargs⟩
    · exact ⟨_, args, .inr rfl, hargs⟩
  · rintro ⟨n, args, rfl | rfl, hargs⟩
    · exact .inl ⟨args, hargs⟩
    · exact .inr ⟨args, hargs⟩

/-- At each place of a source text where attributes stand: they are refused exactly if one with a
meaning has arguments or a value, with the declaration named; otherwise the markers are those that
the attributes stand for. No attribute but the bare name stands for a marker with a meaning, and
neither order nor repetition makes a difference. Between its brackets, an attribute with a meaning
is the plain name alone, or that name and what is taken for its arguments or value. -/
theorem markers_at_place {text : String} {items : List Item} (hparse : parseFile text = .ok items)
    {decl : String} {attrs : List Attribute} (hplace : AttributesAt items decl attrs) :
    ((∃ d, markers attrs decl = .error d) ↔ ∃ a ∈ attrs, IsLoaded a) ∧
      (∀ d, markers attrs decl = .error d →
        d.diagnostic.code.number = "AGN0120" ∧ d.diagnostic.decl = some decl) ∧
      (∀ s, markers attrs decl = .ok s ↔ (∀ a ∈ attrs, ¬ IsLoaded a) ∧ MarkedBy attrs s) ∧
      (∀ a ∈ attrs, (marker? a decl = .ok (some identifierField) ↔ a = bareAttribute "node_id") ∧
        (marker? a decl = .ok (some noIdentifier) ↔ a = bareAttribute "no_node_id")) ∧
      (∀ attrs', (∀ a, a ∈ attrs' ↔ a ∈ attrs) →
        (markers attrs' decl).toOption = (markers attrs decl).toOption) ∧
      ∀ (g : Grammar) [ForwardGrammar g] (content : List Token) (a : Attribute),
        Takes (attributeContent g) content a [] →
        (IsLoaded a ↔ ∃ n args, (n = "node_id" ∨ n = "no_node_id") ∧ content = .ident n :: args ∧
          args ≠ [] ∧ Rest.symbol? "::".toList args = none) ∧
        (a = bareAttribute "node_id" ↔ content = [.ident "node_id"]) ∧
        (a = bareAttribute "no_node_id" ↔ content = [.ident "no_node_id"]) := by
  have hsound := hplace.sound hparse
  refine ⟨markers_fail_iff, ?_, ?_, ?_, fun _ h => markers_congr h, ?_⟩
  · intro d hd
    obtain ⟨a, -, -, rfl⟩ := markers_eq_error hd
    exact ⟨rfl, rfl⟩
  · intro s
    rw [markers_eq_ok]
    refine and_congr_right fun hbare => ?_
    exact (markedBy_iff hsound hbare).symm
  · intro a ha
    exact ⟨marker?_eq_meaning (by decide) (hsound a ha),
      marker?_eq_meaning (by decide) (hsound a ha)⟩
  · intro g _ content a h
    exact meaning_of_takes h

/-- Attributes that look like the one with a meaning, and the one with a meaning with a value. -/
def lookalikeSource : String :=
  "#[r#no_node_id] #[::no_node_id] #[a::no_node_id] #[unsafe(no_node_id)] struct Leaf(u8); " ++
    "#[no_node_id = 1] struct Pair(u8, u8);"

/-- What the first attributes are read as. -/
def lookalikes : List Attribute :=
  [⟨.ofName "r#no_node_id", false⟩, ⟨⟨true, [⟨"no_node_id", .absent⟩]⟩, false⟩,
    ⟨⟨false, [⟨"a", .absent⟩, ⟨"no_node_id", .absent⟩]⟩, false⟩, ⟨.ofName "unsafe", true⟩]

/-- What the last attribute is read as. -/
def loadedAttribute : Attribute :=
  ⟨.ofName "no_node_id", true⟩

theorem lookalikes_at_place : ∃ items, parseFile lookalikeSource = .ok items ∧
    AttributesAt items "Leaf" lookalikes ∧ AttributesAt items "Pair" [loadedAttribute] ∧
    (∃ s, markers lookalikes "Leaf" = .ok s ∧ noIdentifier ∉ s ∧ "no_node_id" ∈ s) ∧
    ∃ d, markers [loadedAttribute] "Pair" = .error d ∧ d.diagnostic.code.number = "AGN0120" ∧
      d.diagnostic.decl = some "Pair" := by
  have parsed : (parseFile lookalikeSource).toOption.map structsOf =
      some [⟨lookalikes, "Leaf", false, [⟨[], none⟩]⟩,
        ⟨[loadedAttribute], "Pair", false, [⟨[], none⟩, ⟨[], none⟩]⟩] := by
    decide +kernel
  obtain ⟨items, hitems, hstructs⟩ := Option.map_eq_some_iff.1 parsed
  have hparse := Except.toOption_eq_some.1 hitems
  have declared : ∀ d ∈ structsOf items, AttributesAt items d.name d.attrs := by
    intro d hd
    obtain ⟨i, hi, hid⟩ := List.mem_filterMap.1 hd
    cases i with
    | struct d' => exact Option.some.inj hid ▸ .struct hi
    | _ => cases hid
  rw [hstructs] at declared
  have leaf : AttributesAt items "Leaf" lookalikes := declared _ List.mem_cons_self
  have pair : AttributesAt items "Pair" [loadedAttribute] :=
    declared _ (List.mem_cons_of_mem _ List.mem_cons_self)
  refine ⟨items, hparse, leaf, pair, ?_, ?_⟩
  · obtain ⟨hfail, -, hok, -⟩ := markers_at_place hparse leaf
    cases h : markers lookalikes "Leaf" with
    | error d => exact absurd (hfail.1 ⟨d, h⟩) (by decide)
    | ok s =>
        have marked := ((hok s).1 h).2
        refine ⟨s, rfl, mt marked.noIdentifier.1 (by decide), ?_⟩
        exact (marked.others "no_node_id" (by decide) (by decide)).2 (by decide)
  · obtain ⟨hfail, hreported, -⟩ := markers_at_place hparse pair
    obtain ⟨d, hd⟩ := hfail.2 ⟨loadedAttribute, List.mem_cons_self, by decide⟩
    exact ⟨d, hd, hreported d hd⟩

end NodeIdGen.Schema
