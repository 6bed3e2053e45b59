/-
Module: RngGamePlatform.Stores.Glob
Purpose: Glob patterns with runs, single characters, classes and escapes.
Trusted boundary: human-reviewed semantics
Main exports: Glob.Special, Glob.Token, Glob.tokens, Glob.accepts, Glob.globMatch,
  Glob.globMatch_prefix
-/
import Mathlib.Data.List.Infix
import Mathlib.Order.Lattice

namespace RngGamePlatform.Stores.Glob

/-- The characters with a meaning of their own. -/
structure Special (α : Type) where
  star : α
  question : α
  opening : α
  closing : α
  caret : α
  hyphen : α
  escape : α

inductive Token (α : Type) where
  /-- `*`: any characters, or none. -/
  | run
  /-- `?`: one character. -/
  | one
  /-- `[...]`: one character of some ranges, or of none of them after `^`. -/
  | oneOf (negated : Bool) (ranges : List (α × α))
  | literal (c : α)
deriving DecidableEq

variable {α : Type} [LinearOrder α] (special : Special α)

/-- The ranges of a class, and the pattern after it; an open class ends with the
pattern. -/
def readClass : List α → List (α × α) × List α
  | [] => ([], [])
  | [c] => if c = special.closing then ([], []) else ([(c, c)], [])
  | c :: d :: rest =>
      if c = special.escape then
        let (ranges, after) := readClass rest
        ((d, d) :: ranges, after)
      else if c = special.closing then ([], d :: rest)
      else if d = special.hyphen then
        match rest with
        | e :: rest =>
            let (ranges, after) := readClass rest
            ((min c e, max c e) :: ranges, after)
        | [] => ([(c, c), (d, d)], [])
      else
        let (ranges, after) := readClass (d :: rest)
        ((c, c) :: ranges, after)

/-- The tokens of at most `fuel` characters of a pattern. -/
def tokensWithin : Nat → List α → List (Token α)
  | 0, _ => []
  | _, [] => []
  | fuel + 1, c :: rest =>
      if c = special.star then .run :: tokensWithin fuel rest
      else if c = special.question then .one :: tokensWithin fuel rest
      else if c = special.opening then
        let negated := rest.head? = some special.caret
        let (ranges, after) := readClass special (if negated then rest.tail else rest)
        .oneOf negated ranges :: tokensWithin fuel after
      else if c = special.escape then
        match rest with
        | d :: rest => .literal d :: tokensWithin fuel rest
        | [] => [.literal c]
      else .literal c :: tokensWithin fuel rest

def tokens (pattern : List α) : List (Token α) := tokensWithin special pattern.length pattern

/-- Whether a text consists of what the tokens stand for. -/
def accepts : List (Token α) → List α → Bool
  | [], text => text.isEmpty
  | .run :: rest, text => text.tails.any (accepts rest)
  | .one :: rest, _ :: text => accepts rest text
  | .oneOf negated ranges :: rest, c :: text =>
      (ranges.any fun range => range.1 ≤ c ∧ c ≤ range.2) != negated && accepts rest text
  | .literal d :: rest, c :: text => decide (c = d) && accepts rest text
  | _ :: _, [] => false

/-- `MATCH`. -/
def globMatch (pattern text : List α) : Bool := accepts (tokens special pattern) text

/-- The character stands for itself in a pattern. -/
def Plain (c : α) : Prop :=
  c ≠ special.star ∧ c ≠ special.question ∧ c ≠ special.opening ∧ c ≠ special.escape

variable {special}

theorem tokensWithin_plain {text rest : List α} (plain : ∀ c ∈ text, Plain special c)
    (fuel : Nat) : tokensWithin special (text.length + fuel) (text ++ rest) =
      text.map .literal ++ tokensWithin special fuel rest := by
  induction text with
  | nil => simp
  | cons c text ih =>
      obtain ⟨notStar, notQuestion, notOpening, notEscape⟩ := plain c List.mem_cons_self
      have later := ih fun d member => plain d (List.mem_cons_of_mem c member)
      rw [List.length_cons, Nat.add_right_comm]
      simp only [List.cons_append, tokensWithin, if_neg notStar, if_neg notQuestion,
        if_neg notOpening, if_neg notEscape, List.map_cons, later]

theorem accepts_literals {text other : List α} {rest : List (Token α)} :
    accepts (text.map .literal ++ rest) other = true ↔
      ∃ after, other = text ++ after ∧ accepts rest after = true := by
  induction text generalizing other with
  | nil => simp
  | cons c text ih =>
      cases other with
      | nil => simp [accepts]
      | cons d other =>
          simp only [List.map_cons, List.cons_append, accepts, Bool.and_eq_true,
            decide_eq_true_eq, ih, List.cons.injEq]
          constructor
          · rintro ⟨same, after, isOther, isAccepted⟩
            exact ⟨after, ⟨same, isOther⟩, isAccepted⟩
          · rintro ⟨after, ⟨same, isOther⟩, isAccepted⟩
            exact ⟨same, after, isOther, isAccepted⟩

/-- A run at the end accepts everything. -/
theorem accepts_run (text : List α) : accepts [.run] text = true := by
  simp only [accepts, List.any_eq_true]
  exact ⟨[], (List.mem_tails _ _).mpr List.nil_suffix, rfl⟩

/-- A plain text with a run at its end is the pattern of the texts that begin with it. -/
theorem globMatch_prefix {text other : List α} (plain : ∀ c ∈ text, Plain special c) :
    globMatch special (text ++ [special.star]) other = true ↔ text <+: other := by
  have isTokens : tokens special (text ++ [special.star]) = text.map .literal ++ [.run] := by
    unfold tokens
    rw [List.length_append, tokensWithin_plain plain]
    simp [tokensWithin]
  unfold globMatch
  rw [isTokens, accepts_literals]
  constructor
  · rintro ⟨after, isOther, _⟩
    exact ⟨after, isOther.symm⟩
  · rintro ⟨after, isOther⟩
    exact ⟨after, isOther.symm, accepts_run after⟩

end RngGamePlatform.Stores.Glob
