import JavaSyntax.Message.Field
import JavaSyntax.Text.CamelCase

/-!
# Sample messages

The expression that builds a message with a stand-in for each field that can be set.
-/

set_option autoImplicit false

namespace JavaSyntax

/-- A message with its fields. -/
structure Message where
  name : String
  type : JavaType
  fields : List Field := []

namespace Field

/-- The name of the method that sets the field. -/
def setterName (f : Field) : String :=
  let verb := if f.isRepeated then (if f.isMap then "putAll" else "addAll") else "set"
  verb ++ Text.upperCamelCase f.name

/-- Whether the class of the field is one of these. -/
def hasKnownClass (f : Field) (known : List String) : Bool :=
  f.type.reference?.any fun r => known.contains r.name

/-- Whether a sample sets the field. Fields that share their place are left out, and so are
single messages and enumerations of classes that are not known. -/
def isSet (f : Field) (known : List String) : Bool :=
  !f.isOneof && (f.isRepeated || !(f.isMessage || f.isEnum) || f.hasKnownClass known)

/-- A builder on which the field has been set to its stand-in. -/
def setOn (builderType : JavaType) (builder : Expr) (f : Field) : Checked Expr := do
  let value ← f.placeholder true
  { object := some builder
    name := some f.setterName
    arguments := [some value]
    returnType := some builderType : CallDraft }.build

end Field

namespace Message

/-- The expression that builds a message, setting its fields in order. -/
def sample (m : Message) (known : List String) : Checked Expr := do
  let builderType ← m.type.builderType
  let newBuilder ←
    { owner := some m.type
      name := some "newBuilder"
      returnType := some builderType : CallDraft }.build
  let builder ← (m.fields.filter (·.isSet known)).foldlM (Field.setOn builderType) newBuilder
  { object := some builder
    name := some "build"
    returnType := some m.type : CallDraft }.build

end Message

end JavaSyntax
