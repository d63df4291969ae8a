import Worksheet.Proofs.Formula.Depth
import Worksheet.Proofs.Function.Library
import Worksheet.Proofs.Number.Count

/- Worksheet Averages — the mean is the sum divided by the count.

   A call of AVERAGE and the quotient of a call of SUM by a call of COUNT have the same
   entry, errors included. In the quotient the arguments stand one level deeper, which
   changes nothing while they are below the limit (`Expr.evalAll_succ`). A sum that is not
   finite is an error of its own there; its mean is not finite either
   (`Expr.average_eq_quotient`). -/
namespace Worksheet

/-! ## The functions -/

namespace Expr

/-- The quotient of a sum by a count, as the operator computes it. -/
def quotient (sum count : Entry) : Entry := do
  let v ← sum
  let w ← count
  applyBinary .div (← operand v) (← operand w)

end Expr

namespace Function

theorem average_eq_quotient (args : List Value) :
    average args = Expr.quotient (sum args) (count args) := by
  rw [average, sum, count]
  generalize numbers args = xs
  cases xs with
  | nil =>
    have hsum : finite (Number.sum []) = .ok (.number (Number.sum [])) := if_pos (by decide +kernel)
    have hcount : (ofCount 0 == 0) = true := (ofCount_beq_zero 0).mpr rfl
    show .error .divisionByZero = Expr.quotient (finite (Number.sum [])) (.ok (.number (ofCount 0)))
    rw [hsum]
    show _ = Expr.applyBinary .div (Number.sum []) (ofCount 0)
    rw [Expr.applyBinary, if_pos hcount]
  | cons x xs =>
    have hcount : (ofCount (x :: xs).length == 0) = false :=
      Bool.eq_false_iff.mpr fun h => nomatch (ofCount_beq_zero _).mp h
    have hdiv (y : Float) : Expr.applyBinary .div y (ofCount (x :: xs).length) =
        finite (y / ofCount (x :: xs).length) := by
      rw [Expr.applyBinary, hcount]
      rfl
    show finite (Number.sum (x :: xs) / ofCount (x :: xs).length) = _
    cases hsum : (Number.sum (x :: xs)).isFinite with
    | true =>
      have hok : finite (Number.sum (x :: xs)) = .ok (.number (Number.sum (x :: xs))) := if_pos hsum
      rw [hok]
      exact (hdiv _).symm
    | false =>
      have hmean := isFinite_div_ofCount hsum (n := (x :: xs).length) (Nat.succ_pos _)
      have herror {y : Float} (hy : y.isFinite = false) : finite y = .error .generic :=
        if_neg (Bool.eq_false_iff.mp hy)
      rw [herror hsum, herror hmean]
      rfl

/-- A sum that is not finite has a mean that is not finite. -/
theorem average_of_not_finite {args : List Value}
    (h : (Number.sum (numbers args)).isFinite = false) : average args = .error .generic := by
  have hsum : sum args = .error .generic := if_neg (Bool.eq_false_iff.mp h)
  rw [average_eq_quotient, hsum]
  rfl

/-- The checks of the three functions agree: whatever counts is allowed to sum is allowed to
count. -/
theorem checked_average (args : Except CellError (List Value)) :
    (args >>= fun vs =>
      if ArgumentRule.numbersOrLists.accepts vs then average vs else .error .generic) =
    Expr.quotient
      (args >>= fun vs =>
        if ArgumentRule.numbersOrLists.accepts vs then sum vs else .error .generic)
      (args >>= fun vs => if ArgumentRule.any.accepts vs then count vs else .error .generic) := by
  cases args with
  | error e => rfl
  | ok vs =>
    show (if _ = true then average vs else _) =
      Expr.quotient (if _ = true then sum vs else _) (count vs)
    split
    · exact average_eq_quotient vs
    · rfl

end Function

/-! ## Calls -/

namespace Expr

variable {values : Context} {functions : Library} {level m : Nat}

/-- One level more of everything leaves as many levels below the limit. -/
theorem evalAt_succ (e : Expr) : ∀ level,
    e.evalAt ⟨values, functions, m + 1⟩ (level + 1) = e.evalAt ⟨values, functions, m⟩ level := by
  induction e using of_children with
  | h e ih =>
    intro level
    have hall : ∀ es : List Expr, (∀ c ∈ es, c ∈ e.children) →
        evalAll ⟨values, functions, m + 1⟩ (level + 1 + 1) es =
          evalAll ⟨values, functions, m⟩ (level + 1) es := by
      intro es
      induction es with
      | nil => exact fun _ => rfl
      | cons c es ihes =>
        intro hes
        obtain ⟨hc, hes⟩ := List.forall_mem_cons.mp hes
        rw [evalAll, evalAll, ih c hc, ihes hes]
    rw [evalAt_eq, evalAt_eq, hall e.children fun _ => id]
    exact if_congr (show m + 1 < level + 1 ↔ m < level from Nat.add_lt_add_iff_right) rfl rfl

/-- Expressions that are below the limit have the same values one level deeper. -/
theorem evalAll_succ {es : List Expr} (h : heightAll es + level ≤ m) :
    evalAll ⟨values, functions, m⟩ (level + 1) es = evalAll ⟨values, functions, m⟩ level es := by
  induction es with
  | nil => rfl
  | cons e es ih =>
    rw [heightAll] at h
    obtain ⟨m, rfl⟩ : ∃ m', m = m' + 1 := Nat.exists_eq_add_of_le' (by rw [height_eq] at h; omega)
    have he : e.evalAt ⟨values, functions, m + 1⟩ level = e.evalAt ⟨values, functions, m⟩ level := by
      refine evalAt_of_not_overruns (Nat.le_succ m) e level fun hover => ?_
      have hlt : m + 1 < level + e.height := hover.lt
      omega
    rw [evalAll, evalAll, evalAt_succ, he, ih (by omega)]

/-- A call of a function that is known. -/
theorem evalAt_call_eq {name : String} {f : Function} {args : List Expr}
    (hf : functions.get? name = some f) (hlevel : level ≤ m)
    (htakes : f.takes args.length = true) :
    (call name args).evalAt ⟨values, functions, m⟩ level =
      (evalAll ⟨values, functions, m⟩ (level + 1) args >>= fun vs =>
        if f.accepts vs then f.apply vs else .error .generic) := by
  rw [evalAt, if_neg (Nat.not_lt.mpr hlevel), applyCall]
  simp only [hf, htakes]
  rfl

theorem evalAt_call_refused {name : String} {f : Function} {args : List Expr}
    (hf : functions.get? name = some f) (htakes : f.takes args.length = false) :
    (call name args).evalAt ⟨values, functions, m⟩ level = .error .generic := by
  rw [evalAt, applyCall]
  simp only [hf, htakes]
  exact ite_self _

open Library (get?_builtin)

/-- The mean of some arguments is their sum divided by their count: for all expressions, every
context and every limit above the height of the expressions, both have the same value or the
same error. Where the arguments are numbers and lists, that is a division by zero if there is
no number among their items, and the generic error if their sum is not finite. -/
theorem average_eq_sum_div_count (values : Context) (args : List Expr) (maxDepth : Nat)
    (h : heightAll args < maxDepth) :
    let env : Environment := ⟨values, .builtin, maxDepth⟩
    let entry := (call "AVERAGE" args).eval env
    entry = (binary .div (call "SUM" args) (call "COUNT" args)).eval env ∧
    ∀ vs, args ≠ [] → evalAll env 1 args = .ok vs →
      ArgumentRule.numbersOrLists.accepts vs = true →
      (Function.numbers vs = [] → entry = .error .divisionByZero) ∧
      ((Number.sum (Function.numbers vs)).isFinite = false → entry = .error .generic) := by
  intro env entry
  have haverage : Library.builtin.get? "AVERAGE" =
      some (Function.many "AVERAGE" .numbersOrLists Function.average) :=
    get?_builtin (f := Function.many _ _ _) (.tail _ (.head _))
  have hsum : Library.builtin.get? "SUM" =
      some (Function.many "SUM" .numbersOrLists Function.sum) :=
    get?_builtin (f := Function.many _ _ _) (.head _)
  have hcount : Library.builtin.get? "COUNT" =
      some ⟨"COUNT", 0, none, ArgumentRule.any.accepts, Function.count⟩ :=
    get?_builtin (f := ⟨"COUNT", 0, none, ArgumentRule.any.accepts, Function.count⟩)
      (.tail _ (.tail _ (.tail _ (.tail _ (.head _)))))
  have hquotient : (binary .div (call "SUM" args) (call "COUNT" args)).eval env =
      quotient ((call "SUM" args).evalAt env 1) ((call "COUNT" args).evalAt env 1) := by
    rw [eval, evalAt, if_neg (Nat.not_lt_zero maxDepth)]
    rfl
  rw [hquotient]
  rcases eq_or_ne args [] with rfl | hne
  · -- without arguments both calls that need one are refused
    have hentry : entry = .error .generic := evalAt_call_refused haverage rfl
    have hleft : (call "SUM" []).evalAt env 1 = .error .generic := evalAt_call_refused hsum rfl
    rw [hentry, hleft]
    exact ⟨rfl, fun _ hne => absurd rfl hne⟩
  · obtain ⟨e, es, rfl⟩ := List.exists_cons_of_ne_nil hne
    have hentry : entry = (evalAll env 1 (e :: es) >>= fun vs =>
        if ArgumentRule.numbersOrLists.accepts vs then Function.average vs
        else .error .generic) := evalAt_call_eq haverage (Nat.zero_le _) rfl
    refine ⟨?_, fun vs _ hvs haccepts => ?_⟩
    · have hdeeper : evalAll env 2 (e :: es) = evalAll env 1 (e :: es) := evalAll_succ h
      have hlevel : 1 ≤ maxDepth := by omega
      rw [evalAt_call_eq hsum hlevel rfl, evalAt_call_eq hcount hlevel rfl, hentry]
      show _ = quotient (evalAll env 2 (e :: es) >>= _) (evalAll env 2 (e :: es) >>= _)
      rw [hdeeper]
      exact Function.checked_average _
    · have hmean : entry = Function.average vs := by
        rw [hentry, hvs]
        exact if_pos haccepts
      rw [hmean]
      refine ⟨fun hnone => ?_, Function.average_of_not_finite⟩
      rw [Function.average, hnone]
      rfl

/-- A list that is read as one argument, with an inner list and items that are no numbers. -/
theorem average_eq_sum_div_count_of_list :
    let env : Environment := ⟨.ofValues [("xs", .list [.number 1, .list [.bool true, .number 4],
      .text "2"])], .builtin, 2⟩
    heightAll [.ref "xs"] < 2 ∧
      (call "AVERAGE" [.ref "xs"]).eval env =
        (binary .div (call "SUM" [.ref "xs"]) (call "COUNT" [.ref "xs"])).eval env :=
  ⟨by decide, (average_eq_sum_div_count _ [.ref "xs"] 2 (by decide)).1⟩

end Expr

end Worksheet
