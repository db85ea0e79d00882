import GuardErasure.Expr.Basic

namespace GuardErasure.Expr

/-!
# Equality of expressions

`same` compares two trees node by node, literals by the equality of values.  It is what
"the same access path" means: two separate copies of a path are the same path, unless
there is a NaN in it.
-/

mutual

/-- Are two expressions equal?  Instance of `==`. -/
def same : Expr → Expr → Bool
  | const v t, const w u => v == w && t == u
  | param m t, param n u => m == n && t == u
  | member a m t, member b n u => same a b && m == n && t == u
  | callOn a m as t, callOn b n bs u => same a b && m == n && sameAll as bs && t == u
  | call m as t, call n bs u => m == n && sameAll as bs && t == u
  | unary o a t, unary p b u => o == p && same a b && t == u
  | binary o a b t, binary p c d u => o == p && same a c && same b d && t == u
  | cond a b c t, cond d e f u => same a d && same b e && same c f && t == u
  | lambda ps a, lambda qs b => ps == qs && same a b
  | root t, root u => t == u
  | source m t, source n u => m == n && t == u
  | foreign l t, foreign k u => l == k && t == u
  | _, _ => false

/-- Are two lists of expressions equal, one by one? -/
def sameAll : List Expr → List Expr → Bool
  | [], [] => true
  | a :: as, b :: bs => same a b && sameAll as bs
  | _, _ => false

end

instance : BEq Expr := ⟨same⟩

end GuardErasure.Expr
