import JavaSyntax.Layout.ClassDefinition
import JavaSyntax.Proofs.Trees.Equality
import JavaSyntax.Proofs.Trees.Mentions

/-!
# Documents of equal trees

Equal trees are laid out alike: their documents have the same texts and margins in the same places,
and where one names a class, the other names an equal reference. Equality does not look at how a
class is imported, so that must be asked of the references that the two trees mention, pair by pair.
`WhenImportedAlike` is what holds if it is so. It keeps that there are equally many references on
both sides, because this tells which of them belong to which part of a tree.
-/

set_option autoImplicit false

namespace JavaSyntax

/-- Equal references whose classes are imported alike: no table tells them apart. -/
structure Reference.Interchangeable (r s : Reference) : Prop where
  equal : (r == s) = true
  isStaticImport : r.isStaticImport = s.isStaticImport

/-! ## Documents that agree -/

/-- Pieces that are the same up to interchangeable references. -/
inductive Piece.Agrees : Piece → Piece → Prop
  | margin (depth : Nat) : Agrees (margin depth) (margin depth)
  | text (s : String) : Agrees (text s) (text s)
  | newline : Agrees newline newline
  | name {r s : Reference} (h : r.Interchangeable s) : Agrees (name r) (name s)

theorem forall₂_map {α β : Type} {R : β → β → Prop} {f g : α → β} {xs ys : List α}
    (h : List.Forall₂ (fun x y => R (f x) (g y)) xs ys) :
    List.Forall₂ R (xs.map f) (ys.map g) :=
  List.forall₂_map_left_iff.2 (List.forall₂_map_right_iff.2 h)

namespace Doc

/-- Documents that agree piece by piece. -/
def Agrees (c d : Doc) : Prop := List.Forall₂ Piece.Agrees c d

variable {c c' d d' : Doc}

theorem Agrees.refl (d : Doc) : Agrees d d := by
  refine List.forall₂_same.2 fun p _ => ?_
  cases p with
  | margin depth => exact .margin depth
  | text s => exact .text s
  | newline => exact .newline
  | name r => exact .name ⟨r.beq_self, rfl⟩

theorem Agrees.append (hc : Agrees c c') (hd : Agrees d d') : Agrees (c ++ d) (c' ++ d') :=
  List.rel_append hc hd

theorem agrees_name {r s : Reference} (h : r.Interchangeable s) : Agrees [.name r] [.name s] :=
  .cons (.name h) .nil

theorem Agrees.nest (h : Agrees d d') : Agrees (nest d) (nest d') := by
  refine forall₂_map (h.imp fun p q hp => ?_)
  cases hp with
  | margin depth => exact .margin (depth + 1)
  | text s => exact .text s
  | newline => exact .newline
  | name h => exact .name h

theorem Agrees.line (h : Agrees d d') : Agrees (line d) (line d') :=
  .cons (.margin 0) (h.append (.refl _))

theorem Agrees.parens (h : Agrees d d') : Agrees (parens d) (parens d') :=
  .cons (.text "(") (h.append (.refl _))

theorem Agrees.braced (hc : Agrees c c') (hd : Agrees d d') : Agrees (braced c d) (braced c' d') :=
  ((hc.append (.refl _)).line.append hd.nest).append (.refl _)

theorem Agrees.flatMap {α : Type} {xs ys : List α} {f : α → Doc}
    (h : List.Forall₂ (fun x y => Agrees (f x) (f y)) xs ys) :
    Agrees (xs.flatMap f) (ys.flatMap f) := by
  induction h with
  | nil => exact .nil
  | cons hx _ ih => exact hx.append ih

theorem Agrees.intercalate {ds es : List Doc} (h : List.Forall₂ Agrees ds es) (separator : Doc) :
    Agrees (separator.intercalate ds) (separator.intercalate es) := by
  induction h with
  | nil => exact .nil
  | @cons d e ds es hd hds ih =>
    cases hds with
    | nil => simpa using hd
    | @cons d₁ e₁ ds es hd₁ hds =>
      rw [List.intercalate_cons_cons, List.intercalate_cons_cons]
      exact (hd.append (.refl separator)).append ih

theorem Agrees.operand (h : Agrees d d') {e e' : Expr} (hsame : e.same e' = true) :
    Agrees (e.operand d) (e'.operand d') := by
  rw [Expr.operand, Expr.operand, Expr.bindsLoosely_eq_of_same hsame]
  split
  · exact h.parens
  · exact h

/-- What a call or creation is applied to. -/
theorem agrees_applied {ds es : List Doc} (h : List.Forall₂ Agrees ds es) :
    Agrees (parens (commaSeparated ds)) (parens (commaSeparated es)) :=
  (Agrees.intercalate h _).parens

/-- The members of a class, the statements first unless there are none. -/
theorem agrees_members {ss ss' : List Statement} {ds es : List Doc}
    (hsame : sameStatements ss ss' = true) (hss : Agrees (statementsDoc ss) (statementsDoc ss'))
    (h : List.Forall₂ Agrees ds es) :
    Agrees (blankSeparated ((if ss.isEmpty then [] else [statementsDoc ss]) ++ ds))
      (blankSeparated ((if ss'.isEmpty then [] else [statementsDoc ss']) ++ es)) := by
  rw [isEmpty_eq_of_sameStatements hsame]
  refine Agrees.intercalate (List.rel_append ?_ h) _
  split
  · exact .nil
  · exact .cons hss .nil

end Doc

/-! ## References that are imported alike -/

/-- What holds if the references of two lists, which are equally many, are imported alike. -/
structure WhenImportedAlike (rs ss : List Reference) (P : Prop) : Prop where
  length_eq : rs.length = ss.length
  of_alike : rs.map (·.isStaticImport) = ss.map (·.isStaticImport) → P

namespace WhenImportedAlike

variable {rs rs' ss ss' : List Reference} {P Q : Prop}

theorem imp (h : WhenImportedAlike rs ss P) (hPQ : P → Q) : WhenImportedAlike rs ss Q :=
  ⟨h.length_eq, fun halike => hPQ (h.of_alike halike)⟩

theorem nil (h : P) : WhenImportedAlike [] [] P := ⟨rfl, fun _ => h⟩

theorem append (h : WhenImportedAlike rs ss P) (h' : WhenImportedAlike rs' ss' Q) :
    WhenImportedAlike (rs ++ rs') (ss ++ ss') (P ∧ Q) where
  length_eq := by rw [List.length_append, List.length_append, h.length_eq, h'.length_eq]
  of_alike halike := by
    rw [List.map_append, List.map_append] at halike
    obtain ⟨hfirst, hsecond⟩ := List.append_inj halike (by simpa using h.length_eq)
    exact ⟨h.of_alike hfirst, h'.of_alike hsecond⟩

theorem cons {r s : Reference} (hrs : (r == s) = true) (h : WhenImportedAlike rs ss P) :
    WhenImportedAlike (r :: rs) (s :: ss) (r.Interchangeable s ∧ P) where
  length_eq := congrArg (· + 1) h.length_eq
  of_alike halike := by
    obtain ⟨hfirst, hothers⟩ := List.cons.inj halike
    exact ⟨⟨hrs, hfirst⟩, h.of_alike hothers⟩

theorem flatMap {α : Type} {f : α → List Reference} {R : α → α → Prop} {xs ys : List α}
    (h : List.Forall₂ (fun x y => WhenImportedAlike (f x) (f y) (R x y)) xs ys) :
    WhenImportedAlike (xs.flatMap f) (ys.flatMap f) (List.Forall₂ R xs ys) := by
  induction h with
  | nil => exact .nil .nil
  | cons hx _ ih => exact (hx.append ih).imp fun ⟨hx, hxs⟩ => .cons hx hxs

end WhenImportedAlike

namespace Doc

/-! ## Types -/

/-- How references agree in a document, by their names alone and with their type arguments. -/
def NamedAlike (r s : Reference) : Prop := r.Interchangeable s ∧ Agrees r.doc s.doc

theorem agrees_further {rs ss : List Reference} (h : List.Forall₂ NamedAlike rs ss) :
    Agrees (Reference.furtherDoc rs) (Reference.furtherDoc ss) := by
  induction h with
  | nil => exact .nil
  | cons hr _ ih => exact .cons (.text ", ") (hr.2.append ih)

theorem agrees_argumentsDoc {rs ss : List Reference} (h : List.Forall₂ NamedAlike rs ss) :
    Agrees (Reference.argumentsDoc rs) (Reference.argumentsDoc ss) := by
  cases h with
  | nil => exact .nil
  | cons hr hrs => exact .cons (.text "<") ((hr.2.append (agrees_further hrs)).append (.refl _))

theorem namedAlike_of_arguments {r s : Reference} (h : (r == s) = true)
    (harguments : WhenImportedAlike (Reference.allMentions r.arguments)
      (Reference.allMentions s.arguments) (List.Forall₂ NamedAlike r.arguments s.arguments)) :
    WhenImportedAlike r.mentions s.mentions (NamedAlike r s) := by
  rw [r.mentions_eq, s.mentions_eq]
  refine (harguments.cons h).imp fun ⟨hname, harguments⟩ => ⟨hname, ?_⟩
  rw [r.doc_eq, s.doc_eq]
  exact .cons (.name hname) (agrees_argumentsDoc harguments)

mutual
theorem namedAlike_reference : ∀ r s : Reference, (r == s) = true →
    WhenImportedAlike r.mentions s.mentions (NamedAlike r s)
  | .wildcard as, s, h =>
    namedAlike_of_arguments h (namedAlike_references as s.arguments (Reference.beq_iff.1 h).2)
  | .compiled _ as _ _, s, h =>
    namedAlike_of_arguments h (namedAlike_references as s.arguments (Reference.beq_iff.1 h).2)
  | .generated _ as _ _, s, h =>
    namedAlike_of_arguments h (namedAlike_references as s.arguments (Reference.beq_iff.1 h).2)

theorem namedAlike_references : ∀ rs ss : List Reference, (rs == ss) = true →
    WhenImportedAlike (Reference.allMentions rs) (Reference.allMentions ss)
      (List.Forall₂ NamedAlike rs ss)
  | [], [], _ => .nil .nil
  | r :: rs, s :: ss, h => by
    rw [List.cons_beq_cons, Bool.and_eq_true] at h
    exact ((namedAlike_reference r s h.1).append (namedAlike_references rs ss h.2)).imp
      fun ⟨hr, hrs⟩ => .cons hr hrs
  | [], _ :: _, h => by simp at h
  | _ :: _, [], h => by simp at h
end

/-- How types agree in a document, with and without their type arguments. -/
def TypedAlike (t u : JavaType) : Prop := Agrees t.doc u.doc ∧ Agrees t.rawDoc u.rawDoc

theorem typedAlike_type {t u : JavaType} (h : (t == u) = true) :
    WhenImportedAlike t.mentions u.mentions (TypedAlike t u) := by
  cases JavaType.alike_of_beq h with
  | void => exact .nil ⟨.refl _, .refl _⟩
  | primitive p => exact .nil ⟨.refl _, .refl _⟩
  | primitives p => exact .nil ⟨.refl _, .refl _⟩
  | reference h =>
    exact (namedAlike_reference _ _ h).imp fun ⟨hname, hdoc⟩ =>
      ⟨hdoc.append (.refl _), (agrees_name hname).append (.refl _)⟩
  | references h =>
    exact (namedAlike_reference _ _ h).imp fun ⟨hname, hdoc⟩ =>
      ⟨hdoc.append (.refl _), (agrees_name hname).append (.refl _)⟩

/-! ## Annotations, declarations and values -/

theorem agrees_annotation {a b : Annotation} (h : (a == b) = true) :
    WhenImportedAlike a.mentions b.mentions (Agrees a.doc b.doc) := by
  obtain ⟨htype, hdescription⟩ := Annotation.beq_iff.1 h
  refine (namedAlike_reference a.type b.type htype).imp fun ⟨hname, _⟩ => ?_
  rw [ Annotation.doc, Annotation.doc, hdescription]
  exact .cons (.text "@") (.cons (.name hname) (Agrees.refl _))

theorem agrees_annotations {as bs : List Annotation} (h : (as == bs) = true) :
    WhenImportedAlike (as.flatMap Annotation.mentions) (bs.flatMap Annotation.mentions)
      (List.Forall₂ (fun a b => Agrees a.doc b.doc) as bs) :=
  .flatMap ((forall₂_of_beq h).imp fun _ _ => agrees_annotation)

theorem agrees_declaration {d e : Declaration} (h : (d == e) = true) :
    WhenImportedAlike d.mentions e.mentions (Agrees d.doc e.doc) := by
  obtain ⟨hvariable, hannotations, haccess, hstatic, hfinal⟩ := Declaration.beq_iff.1 h
  obtain ⟨hidentifier, htype⟩ := Variable.beq_iff.1 hvariable
  have hmodifiers : d.modifiers = e.modifiers := by
    rw [Declaration.modifiers, Declaration.modifiers, haccess, hstatic, hfinal]
  have hname : d.name = e.name := congrArg Identifier.text hidentifier
  refine ((agrees_annotations hannotations).append (typedAlike_type htype)).imp
    fun ⟨hannotations, htype, _⟩ => ?_
  have hlines := Agrees.flatMap (hannotations.imp fun _ _ ha => ha.append (.refl (ofText " ")))
  rw [Declaration.doc, Declaration.doc, hmodifiers, hname]
  exact ((hlines.append (.refl _)).append htype).append (.refl _)

theorem agrees_value {v w : Value} (h : (v == w) = true) :
    WhenImportedAlike v.mentions w.mentions (Agrees v.doc w.doc) := by
  cases v <;> cases w
  -- Values of different forms are told apart before anything is compared.
  all_goals first | exact absurd h Bool.false_ne_true | skip
  case literal.literal l k =>
    obtain rfl : l = k := eq_of_beq h
    exact .nil (.refl _)
  case string.string s t =>
    obtain rfl : s = t := eq_of_beq h
    exact .nil (.refl _)
  case null.null => exact .nil (.refl _)
  case this.this t u => exact (typedAlike_type h).imp fun _ => .refl _
  case super.super t u => exact (typedAlike_type h).imp fun _ => .refl _
  case constant.constant t name u name' =>
    change (_ && _) = true at h
    rw [Bool.and_eq_true] at h
    obtain rfl : name = name' := eq_of_beq h.2
    exact (typedAlike_type h.1).imp fun ⟨_, hraw⟩ => hraw.append (.refl _)

/-! ## Headings -/

theorem agrees_typeArguments {rs ss : List Reference} (h : List.Forall₂ NamedAlike rs ss) :
    Agrees (Layout.typeArguments rs) (Layout.typeArguments ss) := by
  cases h with
  | nil => exact .refl _
  | cons hr hrs =>
    have hnames := forall₂_map (f := fun r => ([.name r] : Doc)) (g := fun r => [.name r])
      ((List.Forall₂.cons hr hrs).imp fun _ _ hr => agrees_name hr.1)
    exact .cons (.text "<") ((Agrees.intercalate hnames _).append (.refl _))

theorem agrees_created {r s : Reference} (h : NamedAlike r s) (isDiamond : Bool) :
    Agrees (Layout.created r isDiamond) (Layout.created s isDiamond) := by
  have hempty : r.arguments.isEmpty = s.arguments.isEmpty := by
    have harguments := forall₂_of_beq (Reference.beq_iff.1 h.1.equal).2
    cases hr : r.arguments <;> cases hs : s.arguments <;> rw [hr, hs] at harguments <;>
      first | rfl | cases harguments
  rw [Layout.created, Layout.created, hempty]
  split
  · exact .cons (.name h.1) (Agrees.refl _)
  · exact h.2

theorem agrees_clause {rs ss : List Reference} (h : List.Forall₂ NamedAlike rs ss) (word : String) :
    Agrees (Layout.clause word rs) (Layout.clause word ss) := by
  cases h with
  | nil => exact .refl _
  | cons hr hrs =>
    have hdocs := forall₂_map (f := Reference.doc) (g := Reference.doc)
      ((List.Forall₂.cons hr hrs).imp fun _ _ hr => hr.2)
    exact .cons (.text _) (Agrees.intercalate hdocs _)

/-- What stands above a method or class. -/
theorem agrees_preamble {as bs : List Annotation} (comments : List Comment)
    (h : List.Forall₂ (fun a b => Agrees a.doc b.doc) as bs) :
    Agrees (Layout.preamble comments as) (Layout.preamble comments bs) :=
  (Agrees.refl _).append (Agrees.flatMap (h.imp fun _ _ ha => ha.line))

/-- Methods with equal headers agree if their bodies do. -/
theorem agrees_layoutMethod {h k : MethodHeader} (hk : (h == k) = true) :
    WhenImportedAlike h.mentions k.mentions
      (∀ body body', Agrees body body' →
        Agrees (Layout.method h body) (Layout.method k body')) := by
  obtain ⟨hcomments, hannotations, hmodifiers, hconstructor, htype, hidentifier, hparameters,
    hexceptions⟩ := MethodHeader.beq_iff.1 hk
  have hparameters := WhenImportedAlike.flatMap
    ((forall₂_of_beq hparameters).imp fun _ _ => agrees_declaration)
  refine ((((agrees_annotations hannotations).append (typedAlike_type htype)).append
    hparameters).append (namedAlike_references _ _ hexceptions)).imp ?_
  rintro ⟨⟨⟨hannotations, htype, -⟩, hparameters⟩, hexceptions⟩ body body' hbody
  have hreturn : Agrees (if k.isConstructor then [] else h.returnType.doc ++ ofText " ")
      (if k.isConstructor then [] else k.returnType.doc ++ ofText " ") := by
    split
    · exact .refl _
    · exact htype.append (.refl _)
  have hhead : Agrees (Layout.methodHead h) (Layout.methodHead k) := by
    rw [Layout.methodHead, Layout.methodHead, hmodifiers, hconstructor, hidentifier]
    exact ((((Agrees.refl _).append hreturn).append (.refl _)).append
      (agrees_applied (forall₂_map hparameters))).append (agrees_clause hexceptions _)
  rw [Layout.method, Layout.method, hcomments, hmodifiers]
  refine (agrees_preamble _ hannotations).append ?_
  split
  · exact (hhead.append (.refl _)).line
  · exact (hhead.append (.refl _)).braced hbody

/-- Classes with equal headers agree if their members do. -/
theorem agrees_layoutClass {h k : ClassHeader} (hk : (h == k) = true) :
    WhenImportedAlike h.mentions k.mentions
      (∀ body body', Agrees body body' →
        Agrees
          (Layout.preamble h.comments h.annotations ++
            braced (Layout.classHead h ++ ofText " ") body)
          (Layout.preamble k.comments k.annotations ++
            braced (Layout.classHead k ++ ofText " ") body')) := by
  obtain ⟨hcomments, hannotations, -, hmodifiers, hidentifier, hsuperclass, hinterfaces⟩ :=
    ClassHeader.beq_iff.1 hk
  have hsuperclass : (h.superclass.toList == k.superclass.toList) = true := by
    cases hs : h.superclass <;> cases ks : k.superclass <;> simp [hs, ks] at hsuperclass ⊢
    exact hsuperclass
  refine (((agrees_annotations hannotations).append
    (namedAlike_references _ _ hsuperclass)).append (namedAlike_references _ _ hinterfaces)).imp ?_
  rintro ⟨⟨hannotations, hsuperclass⟩, hinterfaces⟩ body body' hbody
  have hhead : Agrees (Layout.classHead h) (Layout.classHead k) := by
    rw [Layout.classHead, Layout.classHead, hmodifiers, hidentifier]
    exact ((Agrees.refl _).append (agrees_clause hsuperclass _)).append
      (agrees_clause hinterfaces _)
  rw [hcomments]
  exact (agrees_preamble _ hannotations).append ((hhead.append (.refl _)).braced hbody)

end Doc

end JavaSyntax
