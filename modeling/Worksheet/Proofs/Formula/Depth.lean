import Worksheet.Proofs.Formula.Parsing
import Worksheet.Proofs.Formula.References

/- Worksheet Nesting Limits — what the limit of evaluation can change.

   A part that is evaluated beyond the limit gives the generic error, and nothing on the
   way up makes another result of it (`Expr.Overruns.evalAt_eq`). If no part is evaluated
   beyond the limit, a greater limit gives the same entry (`Expr.evalAt_of_not_overruns`).
   The parts of an expression are evaluated at levels below its height, and the height that
   a reader gives with an expression is its height (`Formula.sound_reader`). So an
   expression that is read from a text does not come to a limit of 255 or more
   (`Expr.eval_limit`). -/
namespace Worksheet

namespace Expr

/-! ## One level of an expression -/

/-- The children of an expression are evaluated: a call has to be of a known function that
takes as many arguments. -/
def Opens (functions : Library) : Expr → Prop
  | call name args => ∃ f, functions.get? name = some f ∧ f.takes args.length = true
  | _ => True

/-- The entry of an expression, given the values of its children or the first error among
them. -/
def applyNode (env : Environment) (e : Expr) (values : Except CellError (List Value)) : Entry :=
  match e with
  | number x => .ok (.number x)
  | text s => .ok (.text s)
  | bool b => .ok (.bool b)
  | ref name => env.resolve name
  | binary op _ _ => do
    match ← values with
    | [v, w] => applyBinary op (← operand v) (← operand w)
    | _ => .error .generic
  | unary op _ => do
    match ← values with
    | [v] => return .number (applyPrefix op (← operand v))
    | _ => .error .generic
  | percent _ => do
    match ← values with
    | [v] => return .number ((← operand v) / 100)
    | _ => .error .generic
  | call name args => applyCall env.functions name args.length values

variable {env : Environment} {values : Context} {functions : Library} {level m m' : Nat}

/-- Evaluation checks the level, then evaluates the children one level further down. -/
theorem evalAt_eq (env : Environment) (level : Nat) (e : Expr) :
    e.evalAt env level =
      if env.maxDepth < level then .error .generic
      else applyNode env e (evalAll env (level + 1) e.children) := by
  rw [evalAt.eq_def]
  refine if_congr Iff.rfl rfl ?_
  cases e with
  | number x => rfl
  | text s => rfl
  | bool b => rfl
  | ref name => rfl
  | binary op l r =>
    simp only [applyNode, children, evalAll]
    cases l.evalAt env (level + 1) with
    | error err => rfl
    | ok v => cases r.evalAt env (level + 1) <;> rfl
  | unary op e =>
    simp only [applyNode, children, evalAll]
    cases e.evalAt env (level + 1) <;> rfl
  | percent e =>
    simp only [applyNode, children, evalAll]
    cases e.evalAt env (level + 1) <;> rfl
  | call name args => rfl

/-- The error of a child that is evaluated is the error of the expression. -/
theorem applyNode_error {e : Expr} (hopens : e.Opens env.functions) (hchildren : e.children ≠ [])
    (err : CellError) : applyNode env e (.error err) = .error err := by
  cases e with
  | number x | text s | bool b | ref name => exact absurd rfl hchildren
  | binary op l r | unary op e | percent e => rfl
  | call name args =>
    obtain ⟨f, hf, htakes⟩ := hopens
    rw [applyNode, applyCall, hf]
    simp [htakes]
    rfl

/-- Children that are not evaluated do not matter. -/
theorem applyNode_of_not_opens {e : Expr} (h : ¬ e.Opens env.functions)
    (vs ws : Except CellError (List Value)) : applyNode env e vs = applyNode env e ws := by
  cases e with
  | call name args =>
    rw [applyNode, applyNode, applyCall, applyCall]
    cases hf : env.functions.get? name with
    | none => rfl
    | some f =>
      have htakes : f.takes args.length = false :=
        Bool.eq_false_iff.mpr fun htakes => h ⟨f, hf, htakes⟩
      simp [htakes]
  | _ => exact absurd trivial h

/-! ## Parts beyond the limit -/

/-- In the evaluation of an expression at a level, some part is evaluated beyond the limit:
the expression itself, or a part of a child before which every child has a value. -/
inductive Overruns (env : Environment) : Nat → Expr → Prop
  | here {level : Nat} {e : Expr} (h : env.maxDepth < level) : Overruns env level e
  | child {level : Nat} {e c : Expr} {before after : List Expr} {vs : List Value}
      (hopens : e.Opens env.functions) (hchildren : e.children = before ++ c :: after)
      (hbefore : evalAll env (level + 1) before = .ok vs) (h : Overruns env (level + 1) c) :
      Overruns env level e

/-- The first error among some expressions is that of the first one without a value. -/
theorem evalAll_error {before after : List Expr} {c : Expr} {vs : List Value} {err : CellError}
    (hbefore : evalAll env level before = .ok vs) (hc : c.evalAt env level = .error err) :
    evalAll env level (before ++ c :: after) = .error err := by
  induction before generalizing vs with
  | nil =>
    rw [List.nil_append, evalAll, hc]
    rfl
  | cons e before ih =>
    rw [evalAll] at hbefore
    rw [List.cons_append, evalAll]
    cases he : e.evalAt env level with
    | error err' =>
      rw [he] at hbefore
      cases hbefore
    | ok v =>
      rw [he] at hbefore
      cases hrest : evalAll env level before with
      | error err' =>
        rw [hrest] at hbefore
        cases hbefore
      | ok ws =>
        show (evalAll env level (before ++ c :: after) >>= _) = _
        rw [ih hrest]
        rfl

/-- The error of a part beyond the limit is the result: no operand, argument or function
makes anything else of it. -/
theorem Overruns.evalAt_eq {e : Expr} (h : Overruns env level e) :
    e.evalAt env level = .error .generic := by
  induction h with
  | here h => rw [Expr.evalAt_eq, if_pos h]
  | child hopens hchildren hbefore _ ih =>
    rw [Expr.evalAt_eq]
    split
    · rfl
    · rw [hchildren, evalAll_error hbefore ih]
      exact applyNode_error hopens (by simp [hchildren]) .generic

/-- Expressions that are evaluated alike have the same values. -/
theorem evalAll_eq_of_reached {env env' : Environment} {es : List Expr}
    (h : ∀ before c after vs, es = before ++ c :: after → evalAll env level before = .ok vs →
      c.evalAt env' level = c.evalAt env level) :
    evalAll env' level es = evalAll env level es := by
  induction es with
  | nil => rfl
  | cons e es ih =>
    rw [evalAll, evalAll, h [] e es [] rfl rfl]
    cases he : e.evalAt env level with
    | error err => rfl
    | ok v =>
      -- the other expressions are reached only now that the first has a value
      have hrest : evalAll env' level es = evalAll env level es := by
        refine ih fun before c after vs hes hbefore => ?_
        refine h (e :: before) c after (v :: vs) (congrArg (e :: ·) hes) ?_
        rw [evalAll, he, hbefore]
        rfl
      rw [hrest]

/-- If no part is evaluated beyond the limit, a greater limit changes nothing. -/
theorem evalAt_of_not_overruns (hle : m ≤ m') (e : Expr) :
    ∀ level, ¬ Overruns ⟨values, functions, m⟩ level e →
      e.evalAt ⟨values, functions, m'⟩ level = e.evalAt ⟨values, functions, m⟩ level := by
  induction e using of_children with
  | h e ih =>
    intro level h
    have hlevel : ¬ m < level := fun hlt => h (.here hlt)
    rw [evalAt_eq, evalAt_eq, if_neg (by simp only; omega), if_neg hlevel]
    show applyNode ⟨values, functions, m⟩ e _ = _
    by_cases hopens : e.Opens functions
    · congr 1
      refine evalAll_eq_of_reached fun before c after vs hchildren hbefore => ?_
      exact ih c (by simp [hchildren]) (level + 1) fun hc => h (.child hopens hchildren hbefore hc)
    · exact applyNode_of_not_opens hopens _ _

theorem height_eq (e : Expr) : e.height = heightAll e.children + 1 := by
  cases e <;> simp [height, heightAll, children]

/-- A part is evaluated at a level below the height of the whole. -/
theorem Overruns.lt {e : Expr} (h : Overruns env level e) : env.maxDepth + 1 < level + e.height := by
  induction h with
  | here h =>
    rw [height_eq]
    omega
  | @child level e c before after vs _ hchildren _ _ ih =>
    have hc : c.height ≤ heightAll e.children :=
      Formula.height_le_heightAll (by simp [hchildren])
    rw [height_eq e]
    omega

end Expr

/-! ## Heights of what is read -/

namespace Formula

theorem sound_nested (depth : Nat) : Sound .expression depth (nested depth) := by
  cases depth with
  | zero => exact .refused
  | succ depth => exact sound_expression (sound_unary depth)

theorem sound_operand (level : Level) (depth : Nat) :
    Sound level.operand depth (reader level.operand depth) := by
  have hpower : Sound (.chain .power) depth (reader (.chain .power) depth) :=
    sound_chain (sound_unary depth)
  cases level with
  | power => exact sound_unary depth
  | product => exact hpower
  | sum => exact sound_chain hpower

/-- What the reader of a symbol reads derives from the symbol. -/
theorem sound_reader (s : Symbol) (depth : Nat) : Sound s depth (reader s depth) := by
  cases s with
  | expression => exact sound_nested depth
  | chain level =>
    rw [reader_chain]
    exact sound_chain (sound_operand level depth)
  | unary => exact sound_unary depth
  | postfixed => exact sound_postfixed (sound_nested depth)
  | primary => exact sound_primary (sound_nested depth)

/-- So does what the loop of a chain has joined after any number of links. -/
theorem sound_links {level : Level} {depth links : Nat} {tokens middle rest : Tokens}
    {first p : Parsed} (hfirst : reader level.operand depth tokens = .ok (first, middle))
    (h : chainFrom (reader level.operand depth) (opOf? level) links first middle = .ok (p, rest)) :
    Taken (.chain level) depth tokens p rest := by
  have hoperand := sound_operand level depth
  obtain ⟨ts, d, hbegins, hderives, hrest⟩ := hoperand _ _ _ hfirst
  exact sound_chainFrom hoperand links ⟨ts, d, hbegins, .operand hderives, hrest⟩ h

theorem Taken.height_eq {s : Symbol} {depth : Nat} {tokens rest : Tokens} {p : Parsed}
    (h : Taken s depth tokens p rest) : p.height = p.expr.height := by
  obtain ⟨ts, d, -, -, -, heq, -⟩ := h
  exact heq

theorem height_le_of_parse {text : String} {e : Expr} (h : parse text = .ok e) :
    e.height ≤ depthLimit := by
  obtain ⟨p, position, hp, rfl⟩ := (parse_eq_ok text e).mp h
  obtain ⟨ts, d, -, -, -, heq, hle⟩ := sound_expression (sound_unary (depthLimit - 1)) _ _ _ hp
  exact heq ▸ hle

end Formula

/-! ## The limit -/

namespace Expr

variable {values : Context} {functions : Library} {m m' : Nat} {e : Expr}

theorem eval_of_not_overruns (hle : m ≤ m') (h : ¬ Overruns ⟨values, functions, m⟩ 0 e) :
    e.eval ⟨values, functions, m'⟩ = e.eval ⟨values, functions, m⟩ :=
  evalAt_of_not_overruns hle e 0 h

/-- An expression does not come to a limit that leaves room for its height. -/
theorem not_overruns (h : e.height - 1 ≤ m) : ¬ Overruns ⟨values, functions, m⟩ 0 e := by
  intro hover
  have hlt : m + 1 < 0 + e.height := hover.lt
  omega

/-- For every context and library: any two limits that leave room for the height of an
expression give it the same entry. If some part is evaluated beyond the limit, the entry of
the whole is the generic error, and an entry other than that stays the same under every
greater limit. An expression that is read from a text is at most 256 high, and it does not
come to a limit of 255 or more, as the default limit is. The height that a reader gives with
an expression is its height, for the reader of each symbol and for what the loop of a chain
has joined after any number of links. -/
theorem eval_limit (values : Context) (functions : Library) :
    (∀ (e : Expr) (m m' : Nat), e.height - 1 ≤ m → e.height - 1 ≤ m' →
      e.eval ⟨values, functions, m⟩ = e.eval ⟨values, functions, m'⟩) ∧
    (∀ (e : Expr) (m : Nat), Overruns ⟨values, functions, m⟩ 0 e →
      e.eval ⟨values, functions, m⟩ = .error .generic) ∧
    (∀ (e : Expr) (m m' : Nat), m ≤ m' → e.eval ⟨values, functions, m⟩ ≠ .error .generic →
      e.eval ⟨values, functions, m'⟩ = e.eval ⟨values, functions, m⟩) ∧
    (∀ (text : String) (e : Expr), Formula.parse text = .ok e → e.height ≤ 256 ∧
      ∀ m, 255 ≤ m → ¬ Overruns ⟨values, functions, m⟩ 0 e) ∧
    255 ≤ defaultMaxDepth ∧
    (∀ s depth tokens p rest, Formula.reader s depth tokens = .ok (p, rest) →
      p.height = p.expr.height) ∧
    ∀ level depth links tokens first middle p rest,
      Formula.reader level.operand depth tokens = .ok (first, middle) →
      Formula.chainFrom (Formula.reader level.operand depth) (Formula.opOf? level) links first
        middle = .ok (p, rest) → p.height = p.expr.height := by
  refine ⟨fun e m m' hm hm' => ?_, fun e m hover => hover.evalAt_eq, fun e m m' hle hne => ?_,
    fun text e hparse => ?_, by decide,
    fun s depth tokens p rest h => (Formula.sound_reader s depth tokens p rest h).height_eq,
    fun level depth links tokens first middle p rest hfirst h =>
      (Formula.sound_links hfirst h).height_eq⟩
  · rcases Nat.le_total m m' with hle | hle
    · exact (eval_of_not_overruns hle (not_overruns hm)).symm
    · exact eval_of_not_overruns hle (not_overruns hm')
  · exact eval_of_not_overruns hle fun hover => hne hover.evalAt_eq
  · have hheight : e.height ≤ 256 := Formula.height_le_of_parse hparse
    exact ⟨hheight, fun m hm => not_overruns (by omega)⟩

/-- One level less than the height is not enough. -/
example : eval ⟨∅, ∅, 1⟩ (.unary .negate (.unary .negate (.number 1))) = .error .generic := rfl

end Expr

end Worksheet
