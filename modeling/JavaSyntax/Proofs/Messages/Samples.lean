import JavaSyntax.Message.Sample
import JavaSyntax.Proofs.Construction.Rebuilding
import JavaSyntax.Proofs.Messages.StandIns
import Mathlib.Data.List.Forall2

/-!
# What samples of messages are made of

A sample starts a builder, calls one setter after the other on what the setter before it returns,
and builds the message at the end. Each call could fail for what it is called on, but none does: a
builder is an object, and a stand-in has a value. What remains is composed for each field alone, as
`Field.setter`, and by `Message.sample_eq_map` a sample is no more than the list of its setters. It
fails where the first of them does.
-/

set_option autoImplicit false

namespace JavaSyntax

/-- A list of constructions makes one thing for each element, in order. -/
theorem mapM_eq_ok_iff_forall₂ {α β : Type} {f : α → Checked β} {as : List α} {bs : List β} :
    as.mapM f = .ok bs ↔ List.Forall₂ (fun a b => f a = .ok b) as bs := by
  induction as generalizing bs with
  | nil =>
    rw [List.mapM_nil, pure_eq_ok_iff, List.forall₂_nil_left_iff, eq_comm]
  | cons a as ih =>
    simp only [List.mapM_cons, bind_eq_ok_iff, ih, pure_eq_ok_iff, List.forall₂_cons_left_iff]
    grind

/-! ## Calls -/

theorem Receiver.allowed_object {e : Expr} (h : e.type.isReference = true) :
    Allowed (object e).object? (object e).ownerType? :=
  ⟨.inr rfl, by simpa [object?] using JavaType.isReference_iff.1 h, by simp [ownerType?]⟩

theorem Receiver.allowed_owner {r : Reference} (h : (JavaType.ofReference r).IsClass) :
    Allowed (owner r).object? (owner r).ownerType? :=
  ⟨.inl rfl, by simp [object?], by simpa [ownerType?] using h⟩

namespace CallDraft

variable {receiver : Receiver} {arguments : List Expr}

/-- A call of a lawful receiver is built if the arguments have values. -/
theorem build_of_allowed (name : Identifier)
    (hreceiver : Receiver.Allowed receiver.object? receiver.ownerType?)
    (harguments : ∀ e ∈ arguments, e.type.isVoid = false) (type : JavaType) :
    { name := some name.text
      object := receiver.object?
      owner := receiver.ownerType?
      arguments := arguments.map some
      returnType := some type : CallDraft }.build = .ok (.call name receiver [] arguments type) :=
  build_eq_ok_iff.2
    ⟨⟨hreceiver, fun hne => absurd rfl hne, by simpa using harguments⟩, rfl⟩

/-- Such a call fails for its name alone. -/
theorem build_eq_map (hreceiver : Receiver.Allowed receiver.object? receiver.ownerType?)
    (harguments : ∀ e ∈ arguments, e.type.isVoid = false) (text : String) (type : JavaType) :
    { name := some text
      object := receiver.object?
      owner := receiver.ownerType?
      arguments := arguments.map some
      returnType := some type : CallDraft }.build =
      (fun name => .call name receiver [] arguments type) <$> Identifier.ofString text := by
  cases hname : Identifier.ofString text with
  | error r =>
    simp only [build, given, bind, Except.bind, hname]
    rfl
  | ok name =>
    obtain rfl := Identifier.ofString_eq_ok_iff.1 hname
    exact build_of_allowed name hreceiver harguments type

end CallDraft

namespace Field

variable {f : Field} {known : List String}

/-! ## Fields that are set -/

/-- Whether a sample leaves a field out: it shares its place with others, or it is a single message
or enumeration and its class is not known. -/
def IsOmitted (f : Field) (known : List String) : Prop :=
  f.isOneof = true ∨
    f.isRepeated = false ∧ (f.isMessage = true ∨ f.isEnum = true) ∧
      ∀ r ∈ f.type.reference?, r.name ∉ known

instance (f : Field) (known : List String) : Decidable (f.IsOmitted known) :=
  inferInstanceAs (Decidable (_ ∨ _))

theorem isSet_eq_not_isOmitted : f.isSet known = !decide (f.IsOmitted known) := by
  have hclass : f.hasKnownClass known = true ↔ ¬ ∀ r ∈ f.type.reference?, r.name ∉ known := by
    unfold hasKnownClass
    cases f.type.reference? <;> simp
  rw [Bool.eq_iff_iff, isSet]
  simp only [Bool.and_eq_true, Bool.or_eq_true, Bool.not_eq_true', hclass, IsOmitted]
  grind

end Field

/-! ## Setters -/

/-- The call of a setter, but for the builder that it is called on. -/
structure Setter where
  name : Identifier
  value : Expr

/-- The setter of a field. Its value is composed before its name is looked at. -/
def Field.setter (f : Field) : Checked Setter := do
  let value ← f.placeholder true
  let name ← Identifier.ofString f.setterName
  return { name := name, value := value }

/-- Whether a field is set in this way: to its stand-in, by a method with the name for it. -/
def Setter.Sets (s : Setter) (f : Field) : Prop :=
  f.placeholder true = .ok s.value ∧ s.name.text = f.setterName

/-- The call of a setter on a builder, which it returns. -/
def Setter.call (builderType : JavaType) (builder : Expr) (s : Setter) : Expr :=
  .call s.name (.object builder) [] [s.value] builderType

namespace Field

variable {f : Field}

/-- Whether a field can be set: there is a stand-in for it, and a name for its setter. -/
def IsSettable (f : Field) : Prop :=
  (∃ value, f.placeholder true = .ok value) ∧ Identifier.isValid f.setterName = true

/-- Why a field cannot be set; what is wrong with its stand-in comes first. -/
def FailsWith (f : Field) (r : Rejection) : Prop :=
  f.placeholder true = .error r ∨
    (∃ value, f.placeholder true = .ok value) ∧ Identifier.ofString f.setterName = .error r

theorem setter_eq_ok_iff {s : Setter} : f.setter = .ok s ↔ s.Sets f := by
  simp only [setter, bind_eq_ok_iff, Identifier.ofString_eq_ok_iff, pure_eq_ok_iff, Setter.Sets]
  constructor
  · rintro ⟨value, hvalue, name, hname, rfl⟩
    exact ⟨hvalue, hname⟩
  · rintro ⟨hvalue, hname⟩
    exact ⟨s.value, hvalue, s.name, hname, rfl⟩

theorem exists_setter_eq_ok_iff : (∃ s, f.setter = .ok s) ↔ f.IsSettable := by
  simp only [setter_eq_ok_iff, Setter.Sets, IsSettable, Identifier.isValid_iff]
  constructor
  · rintro ⟨s, hvalue, hname⟩
    exact ⟨⟨s.value, hvalue⟩, s.name, hname⟩
  · rintro ⟨⟨value, hvalue⟩, name, hname⟩
    exact ⟨{ name := name, value := value }, hvalue, hname⟩

theorem setter_eq_error_iff {r : Rejection} : f.setter = .error r ↔ f.FailsWith r := by
  unfold setter FailsWith
  cases f.placeholder true <;> cases Identifier.ofString f.setterName <;>
    simp [bind, Except.bind, pure, Except.pure]

/-- Setting a field fails for its setter alone, whatever the builder is. -/
theorem setOn_eq_map {builder : Expr} (hbuilder : builder.type.isReference = true)
    (builderType : JavaType) :
    f.setOn builderType builder = Setter.call builderType builder <$> f.setter := by
  unfold setOn setter
  cases hvalue : f.placeholder true with
  | error r => rfl
  | ok value =>
    -- The builder is an object and the stand-in has a value, so only the name can be refused.
    have hvoid : ∀ e ∈ [value], e.type.isVoid = false :=
      List.forall_mem_singleton.2 (isVoid_of_placeholder hvalue)
    refine (CallDraft.build_eq_map (Receiver.allowed_object hbuilder) hvoid _ _).trans ?_
    cases Identifier.ofString f.setterName <;> rfl

/-- One setter is called on what the one before it returns. -/
theorem foldlM_setOn_eq_map {builderType : JavaType} (htype : builderType.isReference = true)
    (fs : List Field) {builder : Expr} (hbuilder : builder.type.isReference = true) :
    fs.foldlM (setOn builderType) builder =
      (List.foldl (Setter.call builderType) builder) <$> fs.mapM setter := by
  -- Later builders are what a setter returns, so the first one must be left open.
  induction fs generalizing builder with
  | nil => rfl
  | cons f fs ih =>
    rw [List.foldlM_cons, List.mapM_cons, setOn_eq_map hbuilder]
    cases f.setter with
    | error r => rfl
    | ok s =>
      have hnext : (Setter.call builderType builder s).type.isReference = true := htype
      refine (ih hnext).trans ?_
      cases fs.mapM setter <;> rfl

end Field

/-! ## Builders -/

/-- The class that builds messages is nested in the class of the messages. -/
theorem JavaType.builderType_of_className {r : Reference} {c : ClassName}
    (hc : r.className? = some c) (hpackage : c.package ≠ []) :
    (ofReference r).builderType =
      .ok (.ofReference <|
        .generated ⟨c.package, c.enclosing ++ [c.name], { text := "Builder" }⟩ [] none false) := by
  unfold builderType
  refine map_eq_ok_iff.2 ⟨_, GeneratedDraft.build_eq_ok_iff.2 ⟨?_, ?_⟩, rfl⟩
  · simp [Reference.toDraft?, Reference.packageName, Reference.enclosing, Reference.name, hc,
      ClassName.packageName]
  · simpa [Reference.className?] using hpackage

theorem JavaType.isReference_of_builderType {t builderType : JavaType}
    (h : t.builderType = .ok builderType) : builderType.isReference = true := by
  unfold JavaType.builderType at h
  split at h
  · cases h
  · obtain ⟨r, -, rfl⟩ := map_eq_ok_iff.1 h
    rfl

/-! ## Samples -/

namespace Message

/-- The fields of a message that a sample sets, in order. -/
def sampled (m : Message) (known : List String) : List Field :=
  m.fields.filter fun f => !decide (f.IsOmitted known)

/-- The expression that starts a builder for the messages of a class. -/
def newBuilder (r : Reference) (builderType : JavaType) : Expr :=
  .call { text := "newBuilder" } (.owner r) [] [] builderType

/-- The builder on which setters have been called in order. -/
def chain (r : Reference) (builderType : JavaType) (setters : List Setter) : Expr :=
  setters.foldl (Setter.call builderType) (newBuilder r builderType)

/-- The expression that builds a message with these setters. -/
def built (r : Reference) (builderType : JavaType) (setters : List Setter) : Expr :=
  .call { text := "build" } (.object (chain r builderType setters)) [] [] (.ofReference r)

variable {r : Reference} {builderType : JavaType}

theorem type_chain (setters : List Setter) : (chain r builderType setters).type = builderType := by
  obtain rfl | ⟨before, s, rfl⟩ := setters.eq_nil_or_concat
  · rfl
  · rw [chain, List.concat_eq_append, List.foldl_append]
    rfl

theorem build_newBuilder (hclass : (JavaType.ofReference r).IsClass) :
    { owner := some (.ofReference r)
      name := some "newBuilder"
      returnType := some builderType : CallDraft }.build = .ok (newBuilder r builderType) :=
  CallDraft.build_of_allowed { text := "newBuilder" } (Receiver.allowed_owner hclass)
    (List.forall_mem_nil _) builderType

theorem build_chain (hbuilder : builderType.isReference = true) (setters : List Setter) :
    { object := some (chain r builderType setters)
      name := some "build"
      returnType := some (.ofReference r) : CallDraft }.build =
      .ok (built r builderType setters) := by
  have htype : (chain r builderType setters).type.isReference = true := by
    rw [type_chain, hbuilder]
  exact CallDraft.build_of_allowed { text := "build" } (Receiver.allowed_object htype)
    (List.forall_mem_nil _) (.ofReference r)

/-- A sample is made of the setters of the fields alone. -/
theorem sample_eq_map {m : Message} (known : List String) (htype : m.type = .ofReference r)
    (hclass : m.type.IsClass) (hbuilder : m.type.builderType = .ok builderType) :
    m.sample known = built r builderType <$> (m.sampled known).mapM Field.setter := by
  have hreference := JavaType.isReference_of_builderType hbuilder
  have hfields : m.fields.filter (·.isSet known) = m.sampled known := by
    simp only [sampled, Field.isSet_eq_not_isOmitted]
  have hfold : (m.sampled known).foldlM (Field.setOn builderType) (newBuilder r builderType)
      = chain r builderType <$> (m.sampled known).mapM Field.setter :=
    Field.foldlM_setOn_eq_map hreference _ hreference
  rw [htype] at hclass
  rw [sample, hbuilder, hfields, htype]
  simp only [bind, Except.bind, build_newBuilder hclass, hfold]
  cases (m.sampled known).mapM Field.setter with
  | error r => rfl
  | ok setters => exact build_chain hreference setters

/-- A sample fails without any fields already, or else for one that cannot be set. -/
theorem failsWith_of_sample {m : Message} {known : List String} {reason : Rejection}
    (h : m.sample known = .error reason) :
    { m with fields := [] }.sample known = .error reason ∨
      ∃ f ∈ m.sampled known, f.FailsWith reason := by
  cases hbuilder : m.type.builderType with
  | error r =>
    simp only [sample, hbuilder] at h ⊢
    exact .inl h
  | ok builderType =>
    cases hnew : { owner := some m.type
                   name := some "newBuilder"
                   returnType := some builderType : CallDraft }.build with
    | error r =>
      simp only [sample, hbuilder, bind, Except.bind, hnew] at h ⊢
      exact .inl h
    | ok e =>
      have hclass : m.type.IsClass :=
        (CallDraft.build_eq_ok_iff.1 hnew).1.receiver.owner m.type rfl
      obtain ⟨r, htype⟩ := hclass.exists_eq
      rw [sample_eq_map known htype hclass hbuilder, map_eq_error_iff, mapM_eq_error_iff] at h
      obtain ⟨before, f, after, heq, -, hf⟩ := h
      exact .inr ⟨f, heq ▸ List.mem_append_right before List.mem_cons_self,
        Field.setter_eq_error_iff.1 hf⟩

/-- For a message whose type is a class that has a builder, a sample is composed exactly if every
field that is to be set can be set. It is then of the type of the message, and calls one setter for
each of these fields, in order, each on the builder that the one before it returns. Otherwise it
fails with what is wrong with the first field that cannot be set. -/
theorem sample_sets_fields {m : Message} (known : List String) (hclass : m.type.IsClass)
    (hbuilder : m.type.builderType = .ok builderType) :
    ((∃ e, m.sample known = .ok e) ↔ ∀ f ∈ m.sampled known, f.IsSettable) ∧
    (∀ e, m.sample known = .ok e →
      e.type = m.type ∧
        ∃ r setters, m.type = .ofReference r ∧ e = built r builderType setters ∧
          List.Forall₂ (fun f (s : Setter) => s.Sets f) (m.sampled known) setters) ∧
    ∀ reason, m.sample known = .error reason →
      ∃ before f after, m.sampled known = before ++ f :: after ∧
        (∀ g ∈ before, g.IsSettable) ∧ f.FailsWith reason := by
  obtain ⟨r, htype⟩ := hclass.exists_eq
  rw [sample_eq_map known htype hclass hbuilder]
  refine ⟨?_, fun e he => ?_, fun reason hreason => ?_⟩
  · simp only [← Field.exists_setter_eq_ok_iff, ← exists_mapM_eq_ok_iff, map_eq_ok_iff]
    grind
  · obtain ⟨setters, hsetters, rfl⟩ := map_eq_ok_iff.1 he
    refine ⟨htype.symm, r, setters, htype, rfl, ?_⟩
    exact (mapM_eq_ok_iff_forall₂.1 hsetters).imp fun _ _ => Field.setter_eq_ok_iff.1
  · obtain ⟨before, f, after, heq, hbefore, hf⟩ :=
      mapM_eq_error_iff.1 (map_eq_error_iff.1 hreason)
    exact ⟨before, f, after, heq, fun g hg => Field.exists_setter_eq_ok_iff.1 (hbefore g hg),
      Field.setter_eq_error_iff.1 hf⟩

/-- A sample of `EchoRequest` sets its text and its list, and leaves out the field that shares its
place. A field that can hold any object has no stand-in, so there is no sample of a message with
such a field. -/
theorem sample_sets_fields_echo :
    let echo : Reference :=
      .generated ⟨[{ text := "com" }], [], { text := "EchoRequest" }⟩ [] none false
    let content : Field := { name := "content", type := .string }
    let reply : Field := { name := "reply", type := .string, isOneof := true }
    let strings : Reference := .compiled ClassName.arrayList [.wellKnown ClassName.string] [] false
    let tags : Field := { name := "tags", type := .ofReference strings, isRepeated := true }
    let payload : Field := { name := "payload", type := .ofClass ClassName.object }
    let echoed : Message :=
      { name := "EchoRequest", type := .ofReference echo, fields := [content, reply, tags] }
    let refused : Message :=
      { name := "EchoRequest", type := .ofReference echo, fields := [payload] }
    (∃ e, echoed.sample [] = .ok e ∧ e.type = .ofReference echo) ∧
      ∃ reason, refused.sample [] = .error reason ∧ payload.FailsWith reason := by
  intro echo content reply strings tags payload echoed refused
  have hclass : (JavaType.ofReference echo).IsClass := ⟨rfl, rfl, by decide⟩
  have hbuilder := JavaType.builderType_of_className (r := echo) rfl (by decide)
  have hcontent : content.IsSettable := ⟨⟨_, rfl⟩, by decide +kernel⟩
  have htags : tags.IsSettable := ⟨⟨_, rfl⟩, by decide +kernel⟩
  have hpayload : (payload.placeholder true).isOk = false := by decide +kernel
  obtain ⟨hechoed, htype, -⟩ := sample_sets_fields (m := echoed) [] hclass hbuilder
  obtain ⟨hrefused, -, hfailure⟩ := sample_sets_fields (m := refused) [] hclass hbuilder
  constructor
  · obtain ⟨e, he⟩ :=
      hechoed.2 (List.forall_mem_cons.2 ⟨hcontent, List.forall_mem_singleton.2 htags⟩)
    exact ⟨e, he, (htype e he).1⟩
  · cases h : refused.sample [] with
    | ok e =>
      obtain ⟨⟨value, hvalue⟩, -⟩ := hrefused.1 ⟨e, h⟩ payload List.mem_cons_self
      rw [hvalue] at hpayload
      cases hpayload
    | error reason =>
      obtain ⟨before, f, after, heq, -, hf⟩ := hfailure reason h
      have hsingle : [payload] = before ++ f :: after := heq
      obtain ⟨-, hrest⟩ | ⟨-, hnil⟩ := List.append_eq_singleton_iff.1 hsingle.symm
      · obtain rfl := (List.cons.inj hrest).1
        exact ⟨reason, rfl, hf⟩
      · cases hnil

end Message

end JavaSyntax
