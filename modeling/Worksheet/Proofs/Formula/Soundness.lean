import Mathlib.Data.List.Fold
import Worksheet.Proofs.Formula.Grammar

/- Worksheet Reader Soundness — what is read has a derivation.

   A reader that gives an expression and the rest of a stream has taken tokens off
   the stream that derive the expression (`Taken`), within the nesting that it was
   allowed, and the height that it reports is the height of the tree. Each reader is
   sound if the readers that it is made from are; the induction is on the nesting
   that is left (`sound_unary`). -/
namespace Worksheet

/-! ## Streams -/

namespace Tokens

/-- The stream begins with some tokens and goes on with `rest`. -/
inductive Begins : Tokens → List Token → Tokens → Prop
  | nil {rest : Tokens} : Begins rest [] rest
  | cons {t : Token} {position : Nat} {tail rest : Tokens} {ts : List Token}
      (h : Begins tail ts rest) : Begins (.next t position tail) (t :: ts) rest

theorem Begins.one {t : Token} {position : Nat} {rest : Tokens} :
    Begins (.next t position rest) [t] rest := .cons .nil

theorem Begins.append {a b c : Tokens} {ts us : List Token} (h : Begins a ts b)
    (h' : Begins b us c) : Begins a (ts ++ us) c := by
  induction h with
  | nil => exact h'
  | cons _ ih => exact .cons (ih h')

theorem Begins.split {a c : Tokens} {ts us : List Token} (h : Begins a (ts ++ us) c) :
    ∃ b, Begins a ts b ∧ Begins b us c := by
  induction ts generalizing a with
  | nil => exact ⟨a, .nil, h⟩
  | cons t ts ih =>
    cases h with
    | cons h =>
      obtain ⟨b, hb, hc⟩ := ih h
      exact ⟨b, .cons hb, hc⟩

theorem Begins.length_eq {a b : Tokens} {ts : List Token} (h : Begins a ts b) :
    a.length = ts.length + b.length := by
  induction h with
  | nil => exact (Nat.zero_add _).symm
  | cons _ ih =>
    rw [length, ih, List.length_cons]
    omega

/-- The first token of the stream can be looked at. -/
def Ready : Tokens → Prop
  | .fault _ _ => False
  | _ => True

theorem Begins.ready {a b : Tokens} {ts : List Token} (h : Begins a ts b) (hb : b.Ready) :
    a.Ready := by
  cases h with
  | nil => exact hb
  | cons _ => exact trivial

end Tokens

namespace Formula

open Tokens (Begins)

theorem ready_eq {tokens : Tokens} (h : tokens.Ready) : ready tokens = .ok tokens := by
  cases tokens with
  | finish position => rfl
  | fault cause position => cases h
  | next token position rest => rfl

/-- What succeeds has succeeded at each of its steps. -/
theorem bind_ok {α β : Type} {x : Except ParseError α} {f : α → Except ParseError β} {b : β}
    (h : x >>= f = .ok b) : ∃ a, x = .ok a ∧ f a = .ok b := by
  cases x with
  | error e => cases h
  | ok a => exact ⟨a, rfl, h⟩

theorem ok_bind {α β : Type} (a : α) (f : α → Except ParseError β) : (.ok a >>= f) = f a := rfl

theorem ready_bind_ok {β : Type} {tokens : Tokens} {f : Tokens → Except ParseError β} {b : β}
    (h : ready tokens >>= f = .ok b) : f tokens = .ok b := by
  cases tokens with
  | finish position => exact h
  | fault cause position => cases h
  | next token position rest => exact h

/-! ## Soundness -/

/-- The tokens between two places of a stream derive what has been read. -/
def Taken (s : Symbol) (depth : Nat) (tokens : Tokens) (p : Parsed) (rest : Tokens) : Prop :=
  ∃ ts d, Begins tokens ts rest ∧ Derives s ts p.expr d ∧ d ≤ depth ∧
    p.height = p.expr.height ∧ p.height ≤ depthLimit

/-- All that a reader reads derives from a symbol. -/
def Sound (s : Symbol) (depth : Nat) (reader : Reader Parsed) : Prop :=
  ∀ tokens p rest, reader tokens = .ok (p, rest) → Taken s depth tokens p rest

variable {depth : Nat}

theorem Sound.refused {s : Symbol} : Sound s depth fun _ => .error .tooDeep :=
  fun _ _ _ h => nomatch h

theorem node_eq_ok {e : Expr} {height : Nat} {p : Parsed} (h : node e height = .ok p) :
    p = ⟨e, height⟩ ∧ height ≤ depthLimit := by
  rw [node] at h
  split at h
  · cases h
  · rename_i hle
    exact ⟨(Except.ok.inj h).symm, Nat.not_lt.mp hle⟩

/-- The operator of a level that a token is. -/
def opOf? : Level → Token → Option BinaryOp
  | .sum => sumOp?
  | .product => productOp?
  | .power => powerOp?

theorem opOf?_eq_some {level : Level} {t : Token} {op : BinaryOp} (h : opOf? level t = some op) :
    op.level = level ∧ op.token = t := by
  cases level <;> cases t <;> cases h <;> exact ⟨rfl, rfl⟩

theorem sound_chainFrom {level : Level} {operand : Reader Parsed}
    (hoperand : Sound level.operand depth operand) {first : Tokens} (links : Nat) {left : Parsed}
    {tokens : Tokens} (hleft : Taken (.chain level) depth first left tokens) {p : Parsed}
    {rest : Tokens} (h : chainFrom operand (opOf? level) links left tokens = .ok (p, rest)) :
    Taken (.chain level) depth first p rest := by
  -- what has been taken from `first` on grows by one link with each step of the loop
  induction links generalizing left tokens with
  | zero =>
    obtain ⟨rfl, rfl⟩ := Prod.mk.inj (Except.ok.inj h)
    exact hleft
  | succ links ih =>
    unfold chainFrom at h
    dsimp only at h
    split at h
    · rename_i token position tail
      split at h
      · obtain ⟨rfl, rfl⟩ := Prod.mk.inj (Except.ok.inj h)
        exact hleft
      · rename_i op hop
        obtain ⟨rfl, rfl⟩ := opOf?_eq_some hop
        replace h := ready_bind_ok h
        obtain ⟨⟨right, middle⟩, hright, h⟩ := bind_ok h
        obtain ⟨joined, hjoined, h⟩ := bind_ok h
        obtain ⟨rfl, hheight⟩ := node_eq_ok hjoined
        obtain ⟨ts, d, hbegins, hderives, hd, heq, -⟩ := hleft
        obtain ⟨us, d', hbegins', hderives', hd', heq', -⟩ := hoperand _ _ _ hright
        refine ih ⟨ts ++ op.token :: us, max d d', hbegins.append (.cons hbegins'),
          .link hderives hderives', Nat.max_le.mpr ⟨hd, hd'⟩, ?_, hheight⟩ h
        show max left.height right.height + 1 = max left.expr.height right.expr.height + 1
        rw [heq, heq']
    · obtain ⟨rfl, rfl⟩ := Prod.mk.inj (Except.ok.inj h)
      exact hleft

theorem sound_chain {level : Level} {operand : Reader Parsed}
    (hoperand : Sound level.operand depth operand) :
    Sound (.chain level) depth (chain operand (opOf? level)) := by
  intro tokens p rest h
  obtain ⟨⟨left, middle⟩, hleft, h⟩ := bind_ok h
  obtain ⟨ts, d, hbegins, hderives, hrest⟩ := hoperand _ _ _ hleft
  exact sound_chainFrom hoperand _ ⟨ts, d, hbegins, .operand hderives, hrest⟩ h

theorem sound_expression {unary : Reader Parsed} (hunary : Sound .unary depth unary) :
    Sound .expression (depth + 1) (expression unary) := by
  intro tokens p rest h
  -- the three levels, from the one that binds most
  have hpower : Sound (.chain .power) depth (chain unary powerOp?) := sound_chain hunary
  have hproduct : Sound (.chain .product) depth (chain (chain unary powerOp?) productOp?) :=
    sound_chain hpower
  have hsum : Sound (.chain .sum) depth (expression unary) := sound_chain hproduct
  obtain ⟨ts, d, hbegins, hderives, hd, hrest⟩ := hsum tokens p rest h
  exact ⟨ts, d + 1, hbegins, .expression hderives, Nat.succ_le_succ hd, hrest⟩

/-! ## Calls -/

/-- Some arguments that have been read, and their derivations. -/
structure ArgumentsTaken (depth : Nat) (ps : List Parsed) (args : List Argument) : Prop where
  exprs : ps.map Parsed.expr = args.map Argument.expr
  heights : ∀ p ∈ ps, p.height = p.expr.height
  derives : ∀ a ∈ args, Derives .expression a.tokens a.expr a.nesting
  nesting : ∀ a ∈ args, a.nesting ≤ depth

theorem ArgumentsTaken.nil : ArgumentsTaken depth [] [] := ⟨rfl, by simp, by simp, by simp⟩

theorem ArgumentsTaken.cons {p : Parsed} {ps : List Parsed} {args : List Argument}
    {ts : List Token} {d : Nat} (hderives : Derives .expression ts p.expr d) (hd : d ≤ depth)
    (hheight : p.height = p.expr.height) (h : ArgumentsTaken depth ps args) :
    ArgumentsTaken depth (p :: ps) (⟨ts, p.expr, d⟩ :: args) where
  exprs := congrArg (p.expr :: ·) h.exprs
  heights := List.forall_mem_cons.mpr ⟨hheight, h.heights⟩
  derives := List.forall_mem_cons.mpr ⟨hderives, h.derives⟩
  nesting := List.forall_mem_cons.mpr ⟨hd, h.nesting⟩

theorem sound_argumentsFrom {nested : Reader Parsed} (hnested : Sound .expression depth nested)
    {name : String} (more : Nat) {tokens rest : Tokens} {ps : List Parsed}
    (h : argumentsFrom nested name more tokens = .ok (ps, rest)) :
    ∃ args, Begins tokens (Argument.list args) rest ∧ ArgumentsTaken depth ps args ∧ args ≠ [] := by
  induction more generalizing tokens ps with
  | zero => cases h
  | succ more ih =>
    unfold argumentsFrom at h
    dsimp only at h
    split at h
    · cases h
    · cases h
    · obtain ⟨⟨p, middle⟩, hp, h⟩ := bind_ok h
      obtain ⟨ts, d, hbegins, hderives, hd, hheight, -⟩ := hnested _ _ _ hp
      dsimp only at h
      split at h
      · replace h := ready_bind_ok h
        obtain ⟨⟨ps', rest'⟩, hps, h⟩ := bind_ok h
        obtain ⟨rfl, rfl⟩ := Prod.mk.inj (Except.ok.inj h)
        obtain ⟨args, hbegins', htaken, hne⟩ := ih hps
        refine ⟨⟨ts, p.expr, d⟩ :: args, ?_, htaken.cons hderives hd hheight, by simp⟩
        obtain ⟨a, args, rfl⟩ := List.exists_cons_of_ne_nil hne
        rw [Argument.list_cons_cons]
        exact hbegins.append (.cons hbegins')
      · obtain ⟨rfl, rfl⟩ := Prod.mk.inj (Except.ok.inj h)
        refine ⟨[⟨ts, p.expr, d⟩], ?_, ArgumentsTaken.nil.cons hderives hd hheight, by simp⟩
        rw [Argument.list_singleton]
        exact hbegins
      · cases h
      · cases h

theorem heightAll_eq_foldr (es : List Expr) : Expr.heightAll es = (es.map Expr.height).foldr max 0 := by
  induction es with
  | nil => rfl
  | cons e es ih =>
    rw [Expr.heightAll, ih]
    rfl

/-- The height that is computed for some arguments is theirs. -/
theorem foldl_height (ps : List Parsed) (h : ∀ p ∈ ps, p.height = p.expr.height) :
    (ps.map Parsed.height).foldl max 0 = Expr.heightAll (ps.map Parsed.expr) := by
  rw [heightAll_eq_foldr, List.map_map, List.foldl_eq_foldr, List.map_congr_left h]
  rfl

theorem sound_arguments {nested : Reader Parsed} (hnested : Sound .expression depth nested)
    {name : String} {tokens rest : Tokens} {ps : List Parsed}
    (h : arguments nested name tokens = .ok (ps, rest)) :
    ∃ args, Begins tokens (Argument.list args) rest ∧ ArgumentsTaken depth ps args := by
  unfold arguments at h
  split at h
  · obtain ⟨rfl, rfl⟩ := Prod.mk.inj (Except.ok.inj h)
    exact ⟨[], .nil, .nil⟩
  · obtain ⟨args, hbegins, htaken, -⟩ := sound_argumentsFrom hnested _ h
    exact ⟨args, hbegins, htaken⟩

theorem sound_call {nested : Reader Parsed} (hnested : Sound .expression depth nested)
    {name : String} {position position' : Nat} {tokens rest : Tokens} {p : Parsed}
    (h : call nested name tokens = .ok (p, rest)) :
    Taken .primary depth (.next (.word name) position (.next .parenOpen position' tokens)) p rest := by
  obtain ⟨⟨ps, middle⟩, hargs, h⟩ := bind_ok h
  obtain ⟨args, hbegins, htaken⟩ := sound_arguments hnested hargs
  dsimp only at h
  split at h
  · replace h := ready_bind_ok h
    obtain ⟨q, hq, h⟩ := bind_ok h
    obtain ⟨rfl, hheight⟩ := node_eq_ok hq
    obtain ⟨rfl, rfl⟩ := Prod.mk.inj (Except.ok.inj h)
    refine ⟨_, Argument.depth args, .cons (.cons (hbegins.append .one)), ?_,
      Argument.depth_le htaken.nesting, ?_, hheight⟩
    · show Derives .primary _ (.call (Unicode.upper name) (ps.map Parsed.expr)) _
      rw [htaken.exprs]
      exact .call htaken.derives
    · show _ = Expr.heightAll (ps.map Parsed.expr) + 1
      rw [foldl_height ps htaken.heights]
  · cases h

/-! ## Primaries, percentages and signs -/

theorem taken_leaf {ts : List Token} {tokens rest : Tokens} {e : Expr} (hbegins : Begins tokens ts rest)
    (hderives : Derives .primary ts e 0) (hheight : e.height = 1) :
    Taken .primary depth tokens (leaf e) rest :=
  ⟨ts, 0, hbegins, hderives, Nat.zero_le depth, hheight.symm, Nat.le_of_ble_eq_true rfl⟩

/-- A word that is not called is a truth value or a name. -/
theorem derives_wordExpr (name : String) :
    Derives .primary [.word name] (wordExpr name) 0 ∧ (wordExpr name).height = 1 := by
  rw [wordExpr]
  split
  · rename_i htrue
    exact ⟨.truth (by rw [htrue, if_pos rfl]), rfl⟩
  · rename_i htrue
    split
    · rename_i hfalse
      exact ⟨.truth (by rw [hfalse, if_neg Bool.false_ne_true]), rfl⟩
    · rename_i hfalse
      exact ⟨.ref ⟨htrue, hfalse⟩, rfl⟩

theorem sound_primary {nested : Reader Parsed} (hnested : Sound .expression depth nested) :
    Sound .primary depth (primary nested) := by
  intro tokens p rest h
  unfold primary at h
  split at h
  · replace h := ready_bind_ok h
    obtain ⟨rfl, rfl⟩ := Prod.mk.inj (Except.ok.inj h)
    exact taken_leaf .one .number rfl
  · replace h := ready_bind_ok h
    obtain ⟨rfl, rfl⟩ := Prod.mk.inj (Except.ok.inj h)
    exact taken_leaf .one .text rfl
  · replace h := ready_bind_ok h
    obtain ⟨⟨inner, middle⟩, hinner, h⟩ := bind_ok h
    dsimp only at h
    split at h
    · replace h := ready_bind_ok h
      obtain ⟨rfl, rfl⟩ := Prod.mk.inj (Except.ok.inj h)
      obtain ⟨ts, d, hbegins, hderives, hrest⟩ := hnested _ _ _ hinner
      exact ⟨_, d, .cons (hbegins.append .one), .group hderives, hrest⟩
    · cases h
  · rename_i name position tail
    replace h := ready_bind_ok h
    split at h
    · replace h := ready_bind_ok h
      exact sound_call hnested h
    · obtain ⟨rfl, rfl⟩ := Prod.mk.inj (Except.ok.inj h)
      exact taken_leaf .one (derives_wordExpr name).1 (derives_wordExpr name).2
  · cases h

theorem sound_postfixed {nested : Reader Parsed} (hnested : Sound .expression depth nested) :
    Sound .postfixed depth (postfixed nested) := by
  intro tokens p rest h
  obtain ⟨⟨operand, middle⟩, hoperand, h⟩ := bind_ok h
  obtain ⟨ts, d, hbegins, hderives, hd, heq, hle⟩ := sound_primary hnested _ _ _ hoperand
  dsimp only at h
  split at h
  · replace h := ready_bind_ok h
    obtain ⟨q, hq, h⟩ := bind_ok h
    obtain ⟨rfl, hheight⟩ := node_eq_ok hq
    obtain ⟨rfl, rfl⟩ := Prod.mk.inj (Except.ok.inj h)
    refine ⟨ts ++ [.percent], d, hbegins.append .one, .percent hderives, hd, ?_, hheight⟩
    show operand.height + 1 = operand.expr.height + 1
    rw [heq]
  · obtain ⟨rfl, rfl⟩ := Prod.mk.inj (Except.ok.inj h)
    exact ⟨ts, d, hbegins, .plain hderives, hd, heq, hle⟩

theorem sign?_eq_some {t : Token} {op : PrefixOp} (h : sign? t = some op) : op.token = t := by
  cases t <;> cases h <;> rfl

/-- `signed` reads what follows a sign, with the sign counted in what is left. -/
theorem sound_unaryWith {signed nested : Reader Parsed} (hnested : Sound .expression depth nested)
    (hsigned : ∀ tokens p rest, signed tokens = .ok (p, rest) →
      ∃ left, left + 1 = depth ∧ Taken .unary left tokens p rest) :
    Sound .unary depth (unaryWith signed nested) := by
  have hplain : Sound .unary depth (postfixed nested) := by
    intro tokens p rest h
    obtain ⟨ts, d, hbegins, hderives, hrest⟩ := sound_postfixed hnested _ _ _ h
    exact ⟨ts, d, hbegins, .unsigned hderives, hrest⟩
  intro tokens p rest h
  unfold unaryWith at h
  split at h
  · rename_i token position tail
    split at h
    · rename_i op hop
      obtain rfl := sign?_eq_some hop
      replace h := ready_bind_ok h
      obtain ⟨⟨operand, middle⟩, hoperand, h⟩ := bind_ok h
      obtain ⟨q, hq, h⟩ := bind_ok h
      obtain ⟨rfl, hheight⟩ := node_eq_ok hq
      obtain ⟨rfl, rfl⟩ := Prod.mk.inj (Except.ok.inj h)
      obtain ⟨left, rfl, ts, d, hbegins, hderives, hd, heq, -⟩ := hsigned _ _ _ hoperand
      refine ⟨op.token :: ts, d + 1, .cons hbegins, .sign hderives, Nat.succ_le_succ hd, ?_, hheight⟩
      show operand.height + 1 = operand.expr.height + 1
      rw [heq]
    · exact hplain _ _ _ h
  · exact hplain _ _ _ h

theorem sound_unary (depth : Nat) : Sound .unary depth (unary depth) := by
  induction depth with
  | zero => exact sound_unaryWith .refused fun _ _ _ h => nomatch h
  | succ depth ih =>
    exact sound_unaryWith (sound_expression ih) fun tokens p rest h =>
      ⟨depth, rfl, ih tokens p rest h⟩

end Formula

end Worksheet
