import TextTemplate.Expression
import TextTemplate.Text.Quoted

/-!
# Listings of expressions

Two ways to show a tree: `describe` on one line with everything that it holds, for the reader of a
log, and `outline` on indented lines, for the user of the command line.
-/

namespace TextTemplate

/-- A truth value in a listing. -/
def describeBool (b : Bool) : String := if b then "true" else "false"

/-- A cache in a listing. -/
def Cache.describe (cache : Cache) : String :=
  "caching_enabled: " ++ describeBool cache.isEnabled ++ ", cache: " ++
    match cache.text? with
    | none => "Uncached"
    | some text => "Cached(" ++ Text.quote text ++ ")"

namespace Expression

variable {α : Type u}

/-- A record in a listing. -/
def describeRecord (name fields : String) : String := name ++ " \x7b " ++ fields ++ " \x7d"

mutual

/-- An expression on one line; `callee` shows what stands at a call. -/
def describe (callee : α → String) : Expression α → String
  | ⟨raw, pieces, cache⟩ =>
    describeRecord "CompiledExpression"
      ("raw_text: " ++ Text.quote raw ++ ", components: [" ++
        ", ".intercalate (describePieces callee pieces) ++ "], is_pure_literal: " ++
        describeBool (pieces.all (!·.isDynamic)) ++ ", " ++ cache.describe)

/-- Pieces, each on one line. -/
def describePieces (callee : α → String) : List (Piece α) → List String
  | [] => []
  | .text content :: pieces =>
    ("Literal(" ++ Text.quote content ++ ")") :: describePieces callee pieces
  | .var name position :: pieces =>
    describeRecord "VariableReference"
        ("name: " ++ Text.quote name ++ ", position: " ++ toString position) ::
      describePieces callee pieces
  | .call key label arguments position :: pieces =>
    let fields :=
      "key: " ++ Text.quote key ++ ", arguments: [" ++
        ", ".intercalate (describeArguments callee arguments) ++ "], instance: " ++
        callee label ++ ", position: " ++ toString position
    ("FunctionCall(" ++ describeRecord "FunctionCallData" fields ++ ")") ::
      describePieces callee pieces

/-- Arguments, each on one line. -/
def describeArguments (callee : α → String) : List (Expression α) → List String
  | [] => []
  | e :: es => describe callee e :: describeArguments callee es

end

/-- A line with an indentation of two blanks for each level. -/
def indented (depth : Nat) (line : String) : String :=
  String.ofList (List.replicate (2 * depth) ' ') ++ line

mutual

/-- The lines of an expression; `callee` shows what stands at a call. -/
def outline (callee : α → String) (depth : Nat) : Expression α → List String
  | ⟨_, pieces, _⟩ => outlinePieces callee depth pieces

/-- The lines of pieces. -/
def outlinePieces (callee : α → String) (depth : Nat) : List (Piece α) → List String
  | [] => []
  | .text content :: pieces =>
    indented depth ("Literal " ++ Text.quote content) :: outlinePieces callee depth pieces
  | .var name position :: pieces =>
    indented depth ("Variable " ++ name ++ " @" ++ toString position) ::
      outlinePieces callee depth pieces
  | .call key label arguments position :: pieces =>
    indented depth ("Call " ++ key ++ " -> " ++ callee label ++ " @" ++ toString position) ::
      (outlineArguments callee depth 0 arguments ++ outlinePieces callee depth pieces)

/-- The lines of arguments, the first of which has the index `index`, of a call at a depth. -/
def outlineArguments (callee : α → String) (depth index : Nat) :
    List (Expression α) → List String
  | [] => []
  | e :: es =>
    indented (depth + 1) ("arg " ++ toString index ++ ": " ++ Text.quote e.raw) ::
      (outline callee (depth + 2) e ++ outlineArguments callee depth (index + 1) es)

end

end Expression

end TextTemplate
