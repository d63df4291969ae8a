import Worksheet.Formula.Eval
import Worksheet.Proofs.Function.Library

/- Worksheet Guards — what the checks before a call leave for its function.

   A function is applied only to as many arguments as it takes, of the types that it
   accepts. For every built-in function that is enough: it finds each argument it asks for,
   of the type it asks for. So most of them always have a value, and the others fail for the
   one reason that they name: a number that is not finite, a root of a negative number, or a
   division by zero (`Function.Answers`). The evaluation of a call comes to its function only
   through these checks (`Expr.evalAt_call`). -/
namespace Worksheet

namespace Function

variable {name : String} {args : List Value}

/-! ## What the checks say -/

theorem takes_between {lo hi count : Nat} {rule : ArgumentRule} {apply : List Value → Entry}
    (h : (between name lo hi rule apply).takes count = true) : lo ≤ count ∧ count ≤ hi :=
  (Bool.and_eq_true_iff.mp h).imp of_decide_eq_true of_decide_eq_true

theorem exists_numbers (h : ArgumentRule.numbers.accepts args = true) :
    ∃ xs : List Float, args = xs.map Value.number := by
  induction args with
  | nil => exact ⟨[], rfl⟩
  | cons v vs ih =>
    obtain ⟨hv, hvs⟩ := List.forall_mem_cons.mp (List.all_eq_true.mp h)
    obtain ⟨xs, rfl⟩ := ih (List.all_eq_true.mpr hvs)
    cases v with
    | number x => exact ⟨x :: xs, rfl⟩
    | _ => exact nomatch hv

/-- A function of one number gets one. -/
theorem exists_number {apply : List Value → Entry}
    (htakes : (between name 1 1 .numbers apply).takes args.length = true)
    (haccepts : ArgumentRule.numbers.accepts args = true) : ∃ x, args = [.number x] := by
  obtain ⟨xs, rfl⟩ := exists_numbers haccepts
  have hlength := takes_between htakes
  rw [List.length_map] at hlength
  obtain ⟨x, rfl⟩ := List.length_eq_one_iff.mp (Nat.le_antisymm hlength.2 hlength.1)
  exact ⟨x, rfl⟩

/-- A function of two numbers gets two. -/
theorem exists_two_numbers {apply : List Value → Entry}
    (htakes : (between name 2 2 .numbers apply).takes args.length = true)
    (haccepts : ArgumentRule.numbers.accepts args = true) :
    ∃ x y, args = [.number x, .number y] := by
  obtain ⟨xs, rfl⟩ := exists_numbers haccepts
  have hlength := takes_between htakes
  rw [List.length_map] at hlength
  match xs, hlength with
  | [x, y], _ => exact ⟨x, y, rfl⟩

/-- The arguments of a function that rounds are a number and its digits, which are zero where
they are not given. -/
def Rounding (args : List Value) (x digits : Float) : Prop :=
  args = [.number x] ∧ digits = 0 ∨ args = [.number x, .number digits]

theorem exists_rounding {apply : List Value → Entry}
    (htakes : (between name 1 2 .numbers apply).takes args.length = true)
    (haccepts : ArgumentRule.numbers.accepts args = true) : ∃ x digits, Rounding args x digits := by
  obtain ⟨xs, rfl⟩ := exists_numbers haccepts
  have hlength := takes_between htakes
  rw [List.length_map] at hlength
  match xs, hlength with
  | [x], _ => exact ⟨x, 0, .inl ⟨rfl, rfl⟩⟩
  | [x, digits], _ => exact ⟨x, digits, .inr rfl⟩

/-- A function of one text gets one. -/
theorem exists_text {apply : List Value → Entry}
    (htakes : (between name 1 1 .texts apply).takes args.length = true)
    (haccepts : ArgumentRule.texts.accepts args = true) : ∃ s, args = [.text s] := by
  have hlength := takes_between htakes
  obtain ⟨v, rfl⟩ := List.length_eq_one_iff.mp (Nat.le_antisymm hlength.2 hlength.1)
  cases v with
  | text s => exact ⟨s, rfl⟩
  | _ => exact nomatch haccepts

/-- A function of one argument gets one, whatever it asks of the type. -/
theorem exists_argument {rule : ArgumentRule} {apply : List Value → Entry}
    (htakes : (between name 1 1 rule apply).takes args.length = true) : ∃ v, args = [v] := by
  have hlength := takes_between htakes
  exact List.length_eq_one_iff.mp (Nat.le_antisymm hlength.2 hlength.1)

/-- A first argument that has to be a condition has a truth value. -/
theorem conditionArg_eq_ok (haccepts : ArgumentRule.firstCondition.accepts args = true) :
    ∃ b, conditionArg args = .ok b := by
  cases args with
  | nil => exact nomatch haccepts
  | cons v vs =>
    cases v with
    | bool b => exact ⟨b, rfl⟩
    | number x => exact ⟨x != 0, rfl⟩
    | _ => exact nomatch haccepts

/-! ## Answers -/

/-- The built-in functions that have a value whenever they are applied. -/
def unfailing : List String :=
  ["ABS", "INT", "MIN", "MAX", "COUNT", "IF", "AND", "OR", "NOT", "CONCAT", "CONCATENATE", "LEN",
    "TEXT", "UPPER", "LOWER", "TRIM"]

/-- The power of ten that brings the last kept digit to the units. -/
def scale (digits : Float) : Float :=
  Number.intPower 10 (Number.clampToInt digitRange.1 digitRange.2 digits)

/-- What the built-in function of a name gives for arguments that its checks let through. -/
inductive Answers (args : List Value) : String → Entry → Prop
  | value {name : String} (h : name ∈ unfailing) (v : Value) : Answers args name (.ok v)
  | sum : Answers args "SUM" (finite (Number.sum (numbers args)))
  | round {x digits : Float} (h : Rounding args x digits) :
      Answers args "ROUND" (finite
        (if x ≥ 0 then Number.floor (x * scale digits + 0.5) / scale digits
        else Number.ceil (x * scale digits - 0.5) / scale digits))
  | roundUp {x digits : Float} (h : Rounding args x digits) :
      Answers args "ROUNDUP" (finite
        ((if x ≥ 0 then Number.ceil (x * scale digits) else Number.floor (x * scale digits)) /
          scale digits))
  | roundDown {x digits : Float} (h : Rounding args x digits) :
      Answers args "ROUNDDOWN" (finite (Number.trunc (x * scale digits) / scale digits))
  | power {x y : Float} (h : args = [.number x, .number y]) :
      Answers args "POWER" (finite (Number.realPower x y))
  | sqrt {x : Float} (h : args = [.number x]) :
      Answers args "SQRT" (if x < 0 then .error .generic else .ok (.number x.sqrt))
  | average :
      Answers args "AVERAGE" (if (numbers args).isEmpty then .error .divisionByZero
        else finite (Number.sum (numbers args) / ofCount (numbers args).length))
  | mod {x y : Float} (h : args = [.number x, .number y]) :
      Answers args "MOD" (if y == 0 then .error .divisionByZero
        else finite (x - y * Number.floor (x / y)))

theorem roundingArgs_eq {x digits : Float} (h : Rounding args x digits) :
    roundingArgs args = .ok (x, scale digits) := by
  rcases h with ⟨rfl, rfl⟩ | rfl
  · rfl
  · rfl

theorem answers_round (htakes : (between "ROUND" 1 2 .numbers round).takes args.length = true)
    (haccepts : ArgumentRule.numbers.accepts args = true) :
    Answers args "ROUND" (round args) := by
  obtain ⟨x, digits, h⟩ := exists_rounding htakes haccepts
  have hround := Answers.round h
  rw [apply_ite finite] at hround
  rw [round, roundingArgs_eq h]
  exact hround

theorem answers_roundUp
    (htakes : (between "ROUNDUP" 1 2 .numbers roundUp).takes args.length = true)
    (haccepts : ArgumentRule.numbers.accepts args = true) :
    Answers args "ROUNDUP" (roundUp args) := by
  obtain ⟨x, digits, h⟩ := exists_rounding htakes haccepts
  rw [roundUp, roundingArgs_eq h]
  exact .roundUp h

theorem answers_roundDown
    (htakes : (between "ROUNDDOWN" 1 2 .numbers roundDown).takes args.length = true)
    (haccepts : ArgumentRule.numbers.accepts args = true) :
    Answers args "ROUNDDOWN" (roundDown args) := by
  obtain ⟨x, digits, h⟩ := exists_rounding htakes haccepts
  rw [roundDown, roundingArgs_eq h]
  exact .roundDown h

theorem answers_ite (hname : name ∈ unfailing)
    (htakes : (between name 2 3 .firstCondition ite).takes args.length = true)
    (haccepts : ArgumentRule.firstCondition.accepts args = true) :
    Answers args name (ite args) := by
  obtain ⟨b, hb⟩ := conditionArg_eq_ok haccepts
  have htwo : 1 < args.length := (takes_between htakes).1
  rw [ite, hb]
  cases b with
  | true =>
    -- the branch without a second argument is the one that the count rules out
    have hsecond : args[1]? = some args[1] := List.getElem?_eq_getElem htwo
    simp only [bind, Except.bind, ↓reduceIte, hsecond]
    exact .value hname _
  | false => exact .value hname _

/-- Every built-in function gives its answer to all arguments that its checks let through. -/
theorem answers_builtins : ∀ f ∈ builtins, ∀ args, f.takes args.length = true →
    f.accepts args = true → Answers args f.name (f.apply args) := by
  simp only [builtins, List.forall_mem_cons, List.not_mem_nil, false_imp_iff, implies_true,
    and_true]
  have hnumber {name : String} {apply : List Value → Entry}
      (h : ∀ x, Answers [.number x] name (apply [.number x])) (args : List Value)
      (htakes : (between name 1 1 .numbers apply).takes args.length = true)
      (haccepts : ArgumentRule.numbers.accepts args = true) : Answers args name (apply args) := by
    obtain ⟨x, rfl⟩ := exists_number htakes haccepts
    exact h x
  have htwo {name : String} {apply : List Value → Entry}
      (h : ∀ x y, Answers [.number x, .number y] name (apply [.number x, .number y]))
      (args : List Value) (htakes : (between name 2 2 .numbers apply).takes args.length = true)
      (haccepts : ArgumentRule.numbers.accepts args = true) : Answers args name (apply args) := by
    obtain ⟨x, y, rfl⟩ := exists_two_numbers htakes haccepts
    exact h x y
  have htext {name : String} {apply : List Value → Entry}
      (h : ∀ s, Answers [.text s] name (apply [.text s])) (args : List Value)
      (htakes : (between name 1 1 .texts apply).takes args.length = true)
      (haccepts : ArgumentRule.texts.accepts args = true) : Answers args name (apply args) := by
    obtain ⟨s, rfl⟩ := exists_text htakes haccepts
    exact h s
  have hone {name : String} {apply : List Value → Entry}
      (h : ∀ v, Answers [v] name (apply [v])) (args : List Value)
      (htakes : (between name 1 1 .scalars apply).takes args.length = true)
      (_ : ArgumentRule.scalars.accepts args = true) : Answers args name (apply args) := by
    obtain ⟨v, rfl⟩ := exists_argument htakes
    exact h v
  refine ⟨fun _ _ _ => .sum, fun _ _ _ => .average, fun _ _ _ => .value (by decide) _,
    fun _ _ _ => .value (by decide) _, fun _ _ _ => .value (by decide) _,
    hnumber fun x => .value (by decide) _, hnumber fun x => .value (by decide) _,
    hnumber fun x => .sqrt rfl, fun _ => answers_round, fun _ => answers_roundUp,
    fun _ => answers_roundDown, htwo fun x y => .mod rfl, htwo fun x y => .power rfl,
    fun _ => answers_ite (by decide), fun _ _ _ => .value (by decide) _,
    fun _ _ _ => .value (by decide) _, fun args _ haccepts => ?_,
    fun _ _ _ => .value (by decide) _, fun _ _ _ => .value (by decide) _,
    hone fun v => .value (by decide) _, hone fun v => .value (by decide) _,
    htext fun s => .value (by decide) _, htext fun s => .value (by decide) _,
    htext fun s => .value (by decide) _⟩
  obtain ⟨b, hb⟩ := conditionArg_eq_ok haccepts
  show Answers args "NOT" (not args)
  rw [not, hb]
  exact .value (by decide) _

end Function

/-! ## Calls -/

namespace Expr

variable {env : Environment} {level : Nat}

theorem yields_length (es : List Expr) :
    Yields (fun vs => vs.length = es.length) (evalAll env level es) := by
  induction es with
  | nil => exact .ok rfl
  | cons e es ih =>
    exact (Yields.always fun _ => trivial).bind fun _ _ => ih.bind fun _ h =>
      .ok (congrArg (· + 1) h)

/-- A call is refused: it is too deep, its function is not known, or the number or the types of
its arguments are not accepted. -/
inductive Refused (env : Environment) (level : Nat) (name : String) (args : List Expr) : Prop
  | deep (h : env.maxDepth < level)
  | unknown (h : env.functions.get? name = none)
  | count {f : Function} (hf : env.functions.get? name = some f)
      (h : f.takes args.length = false)
  | types {f : Function} {vs : List Value} (hf : env.functions.get? name = some f)
      (hargs : evalAll env (level + 1) args = .ok vs) (h : f.accepts vs = false)

/-- A call is refused, or it has the first error among its arguments, or its function is
applied to arguments that its checks let through. -/
theorem evalAt_call (env : Environment) (level : Nat) (name : String) (args : List Expr) :
    Refused env level name args ∧ (call name args).evalAt env level = .error .generic ∨
    (∃ e, evalAll env (level + 1) args = .error e ∧
      (call name args).evalAt env level = .error e) ∨
    ∃ f vs, env.functions.get? name = some f ∧ evalAll env (level + 1) args = .ok vs ∧
      f.takes vs.length = true ∧ f.accepts vs = true ∧
      (call name args).evalAt env level = f.apply vs := by
  rw [evalAt]
  split
  · rename_i hdeep
    exact .inl ⟨.deep hdeep, rfl⟩
  rw [applyCall]
  cases hf : env.functions.get? name with
  | none => exact .inl ⟨.unknown hf, rfl⟩
  | some f =>
    dsimp only
    cases htakes : f.takes args.length with
    | false => exact .inl ⟨.count hf htakes, rfl⟩
    | true =>
      cases hargs : evalAll env (level + 1) args with
      | error e => exact .inr (.inl ⟨e, rfl, rfl⟩)
      | ok vs =>
        have hlength : f.takes vs.length = true := by rw [yields_length args vs hargs, htakes]
        rw [if_neg (by decide)]
        cases haccepts : f.accepts vs with
        | false =>
          refine .inl ⟨.types hf hargs haccepts, ?_⟩
          show (if f.accepts vs then f.apply vs else .error .generic) = _
          rw [haccepts]
          rfl
        | true =>
          refine .inr (.inr ⟨f, vs, rfl, rfl, hlength, haccepts, ?_⟩)
          show (if f.accepts vs then f.apply vs else .error .generic) = _
          rw [haccepts]
          rfl

end Expr

/-- Every built-in function answers, with no error for a missing argument or one of another
type, all arguments whose number and types it accepts; and wherever a call is evaluated with
the built-in functions, it is refused before its function is applied, or it has the first
error among its arguments, or it has that answer of its function to its arguments. -/
theorem Library.builtin_guarded :
    (∀ name f args, builtin.get? name = some f → f.takes args.length = true →
      f.accepts args = true → Function.Answers args f.name (f.apply args)) ∧
    ∀ values maxDepth level name args,
      let env : Environment := ⟨values, builtin, maxDepth⟩
      let entry := (Expr.call name args).evalAt env level
      Expr.Refused env level name args ∧ entry = .error .generic ∨
      (∃ e, Expr.evalAll env (level + 1) args = .error e ∧ entry = .error e) ∨
      ∃ f vs, builtin.get? name = some f ∧ Expr.evalAll env (level + 1) args = .ok vs ∧
        entry = f.apply vs ∧ Function.Answers vs f.name entry := by
  have hanswers : ∀ name f args, builtin.get? name = some f → f.takes args.length = true →
      f.accepts args = true → Function.Answers args f.name (f.apply args) :=
    fun _ f args hf => Function.answers_builtins f (mem_of_get?_ofList hf) args
  refine ⟨hanswers, fun values maxDepth level name args => ?_⟩
  intro env entry
  refine (Expr.evalAt_call env level name args).imp_right (.imp_right ?_)
  rintro ⟨f, vs, hf, hvs, htakes, haccepts, hentry⟩
  refine ⟨f, vs, hf, hvs, hentry, ?_⟩
  show Function.Answers vs f.name ((Expr.call name args).evalAt env level)
  rw [hentry]
  exact hanswers name f vs hf htakes haccepts

end Worksheet
