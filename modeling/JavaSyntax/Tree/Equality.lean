import JavaSyntax.Tree.Basic

/-!
# Equality of trees

Two trees are equal when they are built alike from equal parts. References are compared as
references are: by class and type arguments.
-/

set_option autoImplicit false

namespace JavaSyntax

mutual
/-- Whether two expressions are built alike. -/
def Expr.same : Expr → Expr → Bool
  | .value v, .value w => v == w
  | .var v, .var w => v.same w
  | .ternary c t f, .ternary c' t' f' => c.same c' && t.same t' && f.same f'
  | .assignment t s, .assignment t' s' => t.same t' && s.same s'
  | .call n r gs as t, .call n' r' gs' as' t' =>
    n == n' && r.same r' && gs == gs' && sameExprs as as' && t == t'
  | .create t as d, .create t' as' d' => t == t' && sameExprs as as' && d == d'
  | .cast t e, .cast t' e' => t == t' && e.same e'
  | .instanceOf e t, .instanceOf e' t' => e.same e' && t == t'
  | .comparison o l r, .comparison o' l' r' => o == o' && l.same l' && r.same r'
  | .anonymousClass t ss ms, .anonymousClass t' ss' ms' =>
    t == t' && sameStatements ss ss' && sameMethods ms ms'
  | .delegation d t as, .delegation d' t' as' => d == d' && t == t' && sameExprs as as'
  | _, _ => false

/-- Whether two lists of expressions agree at every position. -/
def sameExprs : List Expr → List Expr → Bool
  | [], [] => true
  | e :: es, e' :: es' => e.same e' && sameExprs es es'
  | _, _ => false

/-- Whether two receivers are built alike. -/
def Receiver.same : Receiver → Receiver → Bool
  | .implicit, .implicit => true
  | .object e, .object e' => e.same e'
  | .owner r, .owner r' => r == r'
  | _, _ => false

/-- Whether two variable expressions are built alike. -/
def VariableExpr.same : VariableExpr → VariableExpr → Bool
  | .declaration d, .declaration d' => d == d'
  | .use v r, .use v' r' => v == v' && r.same r'
  | _, _ => false

/-- Whether two statements are built alike. -/
def Statement.same : Statement → Statement → Bool
  | .expression e, .expression e' => e.same e'
  | .block s b, .block s' b' => s == s' && sameStatements b b'
  | .conditional f o e, .conditional f' o' e' =>
    f.same f' && sameBranches o o' && sameStatements e e'
  | .forEach i c b, .forEach i' c' b' => i == i' && c.same c' && sameStatements b b'
  | .whileLoop c b, .whileLoop c' b' => c.same c' && sameStatements b b'
  | .tryCatch r b h, .tryCatch r' b' h' => r.same r' && sameStatements b b' && h.same h'
  | .comment c, .comment c' => c == c'
  | .emptyLine, .emptyLine => true
  | _, _ => false

/-- Whether two lists of statements agree at every position. -/
def sameStatements : List Statement → List Statement → Bool
  | [], [] => true
  | s :: ss, s' :: ss' => s.same s' && sameStatements ss ss'
  | _, _ => false

/-- Whether two branches are built alike. -/
def Branch.same : Branch → Branch → Bool
  | ⟨c, b⟩, ⟨c', b'⟩ => c.same c' && sameStatements b b'

/-- Whether two lists of branches agree at every position. -/
def sameBranches : List Branch → List Branch → Bool
  | [], [] => true
  | b :: bs, b' :: bs' => b.same b' && sameBranches bs bs'
  | _, _ => false

/-- Whether two resources are built alike. -/
def Resource.same : Resource → Resource → Bool
  | .absent, .absent => true
  | .binding d s, .binding d' s' => d == d' && s.same s'
  | _, _ => false

/-- Whether two handlers are built alike. -/
def Handler.same : Handler → Handler → Bool
  | .omitted, .omitted => true
  | .sample v b, .sample v' b' => v.same v' && sameStatements b b'
  | .executable d b, .executable d' b' => d == d' && sameStatements b b'
  | _, _ => false

/-- Whether two methods are built alike. -/
def Method.same : Method → Method → Bool
  | ⟨h, b, some e⟩, ⟨h', b', some e'⟩ => h == h' && sameStatements b b' && e.same e'
  | ⟨h, b, none⟩, ⟨h', b', none⟩ => h == h' && sameStatements b b'
  | _, _ => false

/-- Whether two lists of methods agree at every position. -/
def sameMethods : List Method → List Method → Bool
  | [], [] => true
  | m :: ms, m' :: ms' => m.same m' && sameMethods ms ms'
  | _, _ => false
end

instance : BEq Expr := ⟨Expr.same⟩

instance : BEq VariableExpr := ⟨VariableExpr.same⟩

instance : BEq Statement := ⟨Statement.same⟩

instance : BEq Method := ⟨Method.same⟩

end JavaSyntax
