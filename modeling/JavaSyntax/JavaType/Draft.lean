import JavaSyntax.JavaType.Basic

/-!
# Drafts of types

What is put together before a type is made, and the rules that the parts must meet.
-/

set_option autoImplicit false

namespace JavaSyntax

/-- The parts of a type. -/
structure TypeDraft where
  kind : Option Kind := none
  isArray : Bool := false
  reference : Option Reference := none

namespace TypeDraft

/-- The kind of node in messages. -/
def node : String := "type"

/-- The type that the draft describes. A class without a kind is an object. -/
def build (draft : TypeDraft) : Checked JavaType :=
  match draft.kind, draft.reference with
  | none, none => reject node "kind" .unset
  | some .object, none => reject node "reference" .classlessType
  | none, some r | some .object, some r =>
    .ok (if draft.isArray then .array (.reference r) else .single (.reference r))
  | some kind, some _ => reject node "reference" (.strayReference kind.keyword)
  | some .void, none => if draft.isArray then reject node "is array" .voidArray else .ok .void
  | some (.primitive p), none =>
    .ok (if draft.isArray then .array (.primitive p) else .single (.primitive p))

end TypeDraft

namespace JavaType

/-- The draft that a type is built from. -/
def toDraft (t : JavaType) : TypeDraft :=
  { kind := some t.kind, isArray := t.isArray, reference := t.reference? }

/-- An array whose elements have this type; an array stays as it is. -/
def toArray (t : JavaType) : Checked JavaType := { t.toDraft with isArray := true }.build

theorem build_toDraft (t : JavaType) : t.toDraft.build = .ok t := by
  rcases t with _ | (_ | _) | (_ | _) <;> rfl

end JavaType

end JavaSyntax
