import JavaSyntax.Expr.Draft
import JavaSyntax.Reference.Draft
import JavaSyntax.Text.Units

/-!
# Fields of messages

A field of a message, and the value that stands in for it in generated samples and tests. The
value is derived from the name of the field, so that it is the same in every run.
-/

set_option autoImplicit false

namespace JavaSyntax

/-- A field of a message, with what the schema says about it. -/
structure Field where
  name : String
  type : JavaType
  isMessage : Bool := false
  isEnum : Bool := false
  isRepeated : Bool := false
  isMap : Bool := false
  /-- Whether the field shares its place with others. -/
  isOneof : Bool := false

namespace JavaType

/-- The type of byte strings. -/
def byteString : JavaType := ofClass ClassName.byteString

/-- The nested class that builds the messages of a type. -/
def builderType (t : JavaType) : Checked JavaType :=
  match t.reference? with
  | none => reject "default value" "message type" (.notMessage t.display)
  | some r =>
    JavaType.ofReference <$>
      { package := some r.packageName
        name := some "Builder"
        enclosing := r.enclosing.map (·.text) ++ [r.name] : GeneratedDraft }.build

end JavaType

namespace Field

/-- The kind of node in messages. -/
def node : String := "default value"

/-- Refuses a field that no rule gives a value for. -/
def unsupported {α : Type} (f : Field) : Checked α :=
  .error ⟨node, .unsupportedField f.name f.type.display⟩

/-- The type arguments of the collection in a repeated field: those of the field, as many as the
collection takes, if they are to be written. -/
def elementTypes (f : Field) (useExplicit : Bool) : Checked (List Reference) :=
  let arity := if f.isMap then 2 else 1
  let arguments := f.type.reference?.elim [] (·.arguments)
  if !useExplicit then .ok []
  else if arguments.length < arity then f.unsupported
  else .ok (arguments.take arity)

/-- An empty collection. -/
def emptyCollection (f : Field) (useExplicit : Bool) : Checked Expr := do
  let collection := if f.isMap then ClassName.hashMap else ClassName.arrayList
  let arguments ← f.elementTypes useExplicit
  { type := some (.ofReference ((Reference.wellKnown collection).withArguments arguments))
    isDiamond := true : CreateDraft }.build

/-- The constant of an enumeration that has the number zero. -/
def zeroConstant (f : Field) : Checked Expr := do
  let zero ← Literal.ofString (.ofPrimitive .int) "0"
  { owner := some f.type
    name := some "forNumber"
    arguments := [some (.value (.literal zero))]
    returnType := some f.type : CallDraft }.build

/-- A message whose fields all have their defaults. -/
def emptyMessage (f : Field) : Checked Expr := do
  let builder ← f.type.builderType
  let newBuilder ←
    { owner := some f.type
      name := some "newBuilder"
      returnType := some builder : CallDraft }.build
  { object := some newBuilder
    name := some "build"
    returnType := some f.type : CallDraft }.build

/-- The byte string without bytes. -/
def emptyBytes : Checked Expr := do
  let empty ← Variable.ofName "EMPTY" .byteString
  let v ← { target := some empty, owner := some .byteString : VariableDraft }.build
  return .var v

/-- The value of a field that is neither a collection, an enumeration nor a message. -/
def scalar (f : Field) : Checked Expr := do
  let code := toString (Text.hash f.name).toInt
  if f.type.isString then return .value (.string (f.name ++ code))
  else if f.type.isPrimitive && f.type.isNumeric && f.type.kind != .primitive .char then
    return .value (.literal (← Literal.ofString f.type code))
  else if f.type == .boolean then
    return .value (.literal (← Literal.ofString .boolean "true"))
  else if f.type == .byteString then emptyBytes
  else f.unsupported

/-- The value that stands in for a field. Explicit type arguments are written out where a
collection could have them inferred. -/
def placeholder (f : Field) (useExplicit : Bool) : Checked Expr :=
  if f.isRepeated then f.emptyCollection useExplicit
  else if f.isEnum then f.zeroConstant
  else if f.isMessage then f.emptyMessage
  else f.scalar

end Field

end JavaSyntax
