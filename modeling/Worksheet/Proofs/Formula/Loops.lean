import Worksheet.Proofs.Formula.Lookahead

/- Worksheet Reading Loops — the loops of chains and calls without their bounds.

   A loop is bounded by the number of tokens that are left when it begins. Its readers
   leave no more tokens than there were, and in each step it takes one itself; so the bound
   does not matter (`chainFrom_bound`, `argumentsFrom_bound`), and what comes after a step
   is the loop itself (`links_next`, `argumentsAll_eq`). -/
namespace Worksheet

namespace Formula

variable {α : Type}

/-- A reader that leaves no more tokens than there were. -/
def Shortens (reader : Reader α) : Prop :=
  ∀ tokens a rest, reader tokens = .ok (a, rest) → rest.length ≤ tokens.length

/-- Two ways to go on from what is read are one if they agree on all that can be left. -/
theorem bind_congr_shortens {β : Type} {reader : Reader α} (h : Shortens reader)
    {f g : α × Tokens → Except ParseError β} {tokens : Tokens}
    (hfg : ∀ a rest, rest.length ≤ tokens.length → f (a, rest) = g (a, rest)) :
    (reader tokens >>= f) = (reader tokens >>= g) := by
  cases hread : reader tokens with
  | error e => rfl
  | ok r => exact hfg r.1 r.2 (h tokens r.1 r.2 hread)

theorem ready_congr {β : Type} {f g : Tokens → Except ParseError β} {tokens : Tokens}
    (hfg : f tokens = g tokens) : (ready tokens >>= f) = (ready tokens >>= g) := by
  cases tokens with
  | fault cause position => rfl
  | finish position => exact hfg
  | next t position tail => exact hfg

theorem chainFrom_bound {operand : Reader Parsed} (h : Shortens operand)
    (op? : Token → Option BinaryOp) (m n : Nat) (left : Parsed) (tokens : Tokens)
    (hm : tokens.length ≤ m) (hn : tokens.length ≤ n) :
    chainFrom operand op? m left tokens = chainFrom operand op? n left tokens := by
  induction m generalizing n left tokens with
  | zero =>
    cases tokens with
    | next t position tail => exact absurd hm (Nat.not_succ_le_zero _)
    | _ => cases n <;> rfl
  | succ m ih =>
    cases tokens with
    | next t position tail =>
      obtain ⟨n, rfl⟩ := Nat.exists_eq_add_of_le' (Nat.one_le_of_lt hn)
      have hm := Nat.le_of_succ_le_succ hm
      have hn := Nat.le_of_succ_le_succ hn
      simp only [chainFrom]
      cases op? t with
      | none => rfl
      | some op =>
        dsimp only
        refine ready_congr (bind_congr_shortens h fun right rest hrest => ?_)
        dsimp only
        cases binary op left right with
        | error e => rfl
        | ok joined => exact ih n joined rest (hrest.trans hm) (hrest.trans hn)
    | _ => cases n <;> rfl

/-! ## Chains -/

/-- The loop of a chain. -/
def links (operand : Reader Parsed) (op? : Token → Option BinaryOp) (left : Parsed) :
    Reader Parsed := fun tokens => chainFrom operand op? tokens.length left tokens

theorem links_next {operand : Reader Parsed} (h : Shortens operand)
    {op? : Token → Option BinaryOp} {op : BinaryOp} {t : Token} (hop : op? t = some op)
    (left : Parsed) (position : Nat) (tail : Tokens) :
    links operand op? left (.next t position tail) =
      (ready tail >>= fun tokens => operand tokens >>= fun r =>
        binary op left r.1 >>= fun joined => links operand op? joined r.2) := by
  show chainFrom operand op? (tail.length + 1) left _ = _
  rw [chainFrom, hop]
  dsimp only
  refine ready_congr (bind_congr_shortens h fun right rest hrest => ?_)
  dsimp only
  cases binary op left right with
  | error e => rfl
  | ok joined => exact chainFrom_bound h op? _ _ joined rest hrest (Nat.le_refl _)

/-! ## Arguments -/

theorem argumentsFrom_bound {nested : Reader Parsed} (h : Shortens nested) (name : String)
    (m n : Nat) (tokens : Tokens) (hm : tokens.length < m) (hn : tokens.length < n) :
    argumentsFrom nested name m tokens = argumentsFrom nested name n tokens := by
  induction m generalizing n tokens with
  | zero => exact absurd hm (Nat.not_lt_zero _)
  | succ m ih =>
    obtain ⟨n, rfl⟩ := Nat.exists_eq_add_of_le' (Nat.one_le_of_lt hn)
    unfold argumentsFrom
    dsimp only
    split
    · rfl
    · rfl
    · refine bind_congr_shortens h fun arg rest hrest => ?_
      dsimp only
      split
      · rename_i position tail
        rw [Tokens.length] at hrest
        refine ready_congr ?_
        rw [ih n tail (by omega) (by omega)]
      · rfl
      · rfl
      · rfl

/-- The loop over the arguments of a call. -/
def argumentsAll (nested : Reader Parsed) (name : String) : Reader (List Parsed) :=
  fun tokens => argumentsFrom nested name (tokens.length + 1) tokens

/-- How the loop goes on after an argument. -/
def afterArgument (nested : Reader Parsed) (name : String) (arg : Parsed) : Reader (List Parsed)
  | .next .comma _ rest => ready rest >>= fun rest => argumentsAll nested name rest >>= fun r =>
    .ok (arg :: r.1, r.2)
  | .next .parenClose position rest => .ok ([arg], .next .parenClose position rest)
  | rest => .error ((Refusal.afterArgument name).at rest)

theorem argumentsAll_eq {nested : Reader Parsed} (h : Shortens nested) (name : String)
    (tokens : Tokens) (hcomma : ∀ position rest, tokens ≠ .next .comma position rest)
    (hclose : ∀ position rest, tokens ≠ .next .parenClose position rest) :
    argumentsAll nested name tokens =
      (nested tokens >>= fun r => afterArgument nested name r.1 r.2) := by
  rw [argumentsAll, argumentsFrom]
  · refine bind_congr_shortens h fun arg rest hrest => ?_
    dsimp only
    unfold afterArgument
    split
    · rename_i position tail
      rw [Tokens.length] at hrest
      refine ready_congr ?_
      rw [argumentsAll, argumentsFrom_bound h name _ (tail.length + 1) tail (by omega) (by omega)]
    · rfl
    · rfl
    · rename_i hcomma hclose hfinish
      split
      · exact absurd rfl (hcomma _ _)
      · exact absurd rfl (hclose _ _)
      · cases rest <;> first | rfl | exact absurd rfl (hfinish _)
  · exact hcomma
  · exact hclose

end Formula

end Worksheet
