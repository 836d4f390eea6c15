import TextTemplate.Proofs.Trees
import TextTemplate.Proofs.Uniformity

/-!
# Parsing with and without caching

Whether expressions may remember their texts makes no difference to the tree that a text is parsed
to, caches aside, nor to the errors.

* `Expression.transfer_disabled`: to take the caches of a tree away is to transfer it in place.
* `parse_transfer` and `parse_uncached`: this, like any change of the caches, commutes with the
  parsing of a text.
-/

namespace TextTemplate

universe u

variable {α : Type u}

/-- The same configuration, in which nothing may be remembered. -/
def EngineConfig.uncached (config : EngineConfig) : EngineConfig :=
  { config with staticCaching := false }

theorem EngineConfig.transfer_uncached (config : EngineConfig) :
    ConfigTransfer (fun _ => .disabled) config config.uncached := ⟨rfl, rfl⟩

/-! ## Taking caches away is a transfer in place -/

mutual

theorem Expression.transfer_disabled :
    (e : Expression α) → e.transfer (fun _ => .disabled) 0 = e.uncached
  | ⟨_, pieces, _⟩ => by
    simp only [Expression.transfer, Expression.uncached, transferPieces_disabled pieces]

theorem Piece.transfer_disabled :
    (piece : Piece α) → piece.transfer (fun _ => .disabled) 0 = piece.uncached
  | .text _ => rfl
  | .var _ _ => rfl
  | .call _ _ arguments _ => by
    simp only [Piece.transfer, Piece.uncached, transferArguments_disabled arguments, Nat.add_zero]

theorem transferPieces_disabled :
    (pieces : List (Piece α)) → transferPieces (fun _ => .disabled) 0 pieces = uncachedPieces pieces
  | [] => rfl
  | piece :: pieces => by
    simp only [transferPieces, uncachedPieces, Piece.transfer_disabled piece,
      transferPieces_disabled pieces]

theorem transferArguments_disabled :
    (es : List (Expression α)) →
      transferArguments (fun _ => .disabled) 0 es = uncachedArguments es
  | [] => rfl
  | e :: es => by
    simp only [transferArguments, uncachedArguments, Expression.transfer_disabled e,
      transferArguments_disabled es]

end

/-! ## Parsing -/

/-- Parsing commutes with changes of what may be remembered: the same error, or the same tree with
other caches. -/
theorem parse_transfer {g : Cache → Cache} {config config' : EngineConfig}
    (hc : ConfigTransfer g config config') (registry : Registry) (text : String) :
    parse registry config' text =
      (parse registry config text).map (Expression.transfer g 0) := by
  have hcomplete := Reader.complete_transfer 0 hc registry {} (Token.scan text)
  have hplace : (Token.scan text).map (Lexeme.shift 0) = Token.scan text :=
    (Lexeme.place_add 0 0 _).symm
  have hstart : Reader.transfer g 0 {} = {} := rfl
  rw [hplace, hstart] at hcomplete
  rw [parse_eq_complete, parse_eq_complete, hcomplete]
  cases Reader.complete registry config {} (Token.scan text) with
  | error e => simp only [moveOutcome, Except.map, CompileError.shift_zero]
  | ok pieces => simp only [moveOutcome, Except.map, Expression.transfer, hc.cache]

/-- Parsing commutes with taking caches away: the same error, or the same tree. -/
theorem parse_uncached (registry : Registry) (config : EngineConfig) (text : String) :
    parse registry config.uncached text = (parse registry config text).map Expression.uncached := by
  have hsame : Expression.transfer (fun _ => .disabled) 0 =
      (Expression.uncached : Expression Routine → Expression Routine) :=
    funext Expression.transfer_disabled
  rw [parse_transfer config.transfer_uncached, hsame]

end TextTemplate
