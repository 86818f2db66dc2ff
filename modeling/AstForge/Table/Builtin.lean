/-!
# Tables — the built-in declarations

Two tables for a small scripting language: its expressions and its statements.
-/

namespace AstForge

/-- The shapes of expressions, declared for the base type `Expr`. -/
def exprDeclarations : List String :=
  ["Binary      : Expr left, Token operator, Expr right",
   "Grouping    : Expr expression",
   "Literal     : Object value, Token unit",
   "Unary       : Token operator, Expr right",
   "Variable    : Token name",
   "Assign      : Token name, Expr value",
   "Logical     : Expr left, Token operator, Expr right",
   "Call        : Expr callee, Token paren, List<Expr> arguments",
   "Get         : Expr object, Token name",
   "Set         : Expr object, Token name, Expr value",
   "Index       : Expr array, Expr index, Token bracket",
   "IndexSet    : Expr array, Expr index, Expr value, Token bracket",
   "Array       : List<Expr> elements",
   "This        : Token keyword"]

/-- The shapes of statements and the data types they use, declared for the base type `Stmt`. -/
def stmtDeclarations : List String :=
  ["Expression  : Expr expression",
   "VarDecl     : TypeNode type, Token name, Expr initializer",
   "Function    : TypeNode returnType, Token name, List<Param> params, List<Stmt> body",
   "ClassStmt   : Token name, List<Stmt> members",
   "Block       : List<Stmt> statements",
   "If          : Expr condition, Stmt thenBranch, Stmt elseBranch",
   "While       : Expr condition, Stmt body",
   "For         : Stmt initializer, Expr condition, Expr increment, Stmt body",
   "Return      : Token keyword, Expr value",
   "Field       : TypeNode type, Token name, Expr initializer",
   "Constructor : Token name, List<Param> params, List<Stmt> body",
   "struct Param    : TypeNode type, Token name",
   "struct TypeNode : Token name, boolean isNone, boolean isArray"]

end AstForge
