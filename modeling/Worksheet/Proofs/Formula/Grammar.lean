import Mathlib.Data.List.Chain
import Worksheet.Formula.Parser

/- Worksheet Grammar — which tokens derive which expression.

   A chain of binary operators is either one operand or a shorter chain with one
   more link at its end, so all three chains group to the left. Beside the
   expression a derivation has a nesting: on the path where it is greatest, the
   number of expressions (the whole text, a group, an argument) and signs that
   are inside each other. The grammar knows no limits; a reader has to keep the
   height of the tree and the nesting below one. -/
namespace Worksheet

/-- The levels of binary operators, loosest first. -/
inductive Level where
  | sum | product | power
  deriving DecidableEq

/-- The symbols of the grammar. -/
inductive Symbol where
  | expression
  | chain (level : Level)
  | unary | postfixed | primary

/-- What the operators of a level stand between. -/
def Level.operand : Level → Symbol
  | sum => .chain .product
  | product => .chain .power
  | power => .unary

def BinaryOp.level : BinaryOp → Level
  | add | sub => .sum
  | mul | div => .product
  | pow => .power

def BinaryOp.token : BinaryOp → Token
  | add => .plus
  | sub => .minus
  | mul => .star
  | div => .slash
  | pow => .caret

def PrefixOp.token : PrefixOp → Token
  | plus => .plus
  | negate => .minus

/-- An argument of a call with its derivation's tokens and nesting. -/
structure Argument where
  tokens : List Token
  expr : Expr
  nesting : Nat

/-- The tokens of some arguments with commas between them. -/
def Argument.list (args : List Argument) : List Token :=
  [Token.comma].intercalate (args.map Argument.tokens)

/-- The greatest nesting of some arguments. -/
def Argument.depth (args : List Argument) : Nat := (args.map Argument.nesting).foldr max 0

/-- The tokens derive from the symbol; the derivation has the tree and the nesting. -/
inductive Derives : Symbol → List Token → Expr → Nat → Prop
  | expression {ts : List Token} {e : Expr} {d : Nat} (h : Derives (.chain .sum) ts e d) :
      Derives .expression ts e (d + 1)
  | operand {level : Level} {ts : List Token} {e : Expr} {d : Nat}
      (h : Derives level.operand ts e d) : Derives (.chain level) ts e d
  | link {op : BinaryOp} {ts us : List Token} {l r : Expr} {d d' : Nat}
      (left : Derives (.chain op.level) ts l d) (right : Derives op.level.operand us r d') :
      Derives (.chain op.level) (ts ++ op.token :: us) (.binary op l r) (max d d')
  | sign {op : PrefixOp} {ts : List Token} {e : Expr} {d : Nat} (h : Derives .unary ts e d) :
      Derives .unary (op.token :: ts) (.unary op e) (d + 1)
  | unsigned {ts : List Token} {e : Expr} {d : Nat} (h : Derives .postfixed ts e d) :
      Derives .unary ts e d
  | percent {ts : List Token} {e : Expr} {d : Nat} (h : Derives .primary ts e d) :
      Derives .postfixed (ts ++ [.percent]) (.percent e) d
  | plain {ts : List Token} {e : Expr} {d : Nat} (h : Derives .primary ts e d) :
      Derives .postfixed ts e d
  | number {x : Float} : Derives .primary [.number x] (.number x) 0
  | text {s : String} : Derives .primary [.text s] (.text s) 0
  | truth {name : String} {b : Bool}
      (h : Unicode.upper name = if b then "TRUE" else "FALSE") :
      Derives .primary [.word name] (.bool b) 0
  | ref {name : String} (h : Unicode.upper name ≠ "TRUE" ∧ Unicode.upper name ≠ "FALSE") :
      Derives .primary [.word name] (.ref name) 0
  | call {name : String} {args : List Argument}
      (h : ∀ a ∈ args, Derives .expression a.tokens a.expr a.nesting) :
      Derives .primary (.word name :: .parenOpen :: (Argument.list args ++ [.parenClose]))
        (.call (Unicode.upper name) (args.map Argument.expr)) (Argument.depth args)
  | group {ts : List Token} {e : Expr} {d : Nat} (h : Derives .expression ts e d) :
      Derives .primary (.parenOpen :: (ts ++ [.parenClose])) e d

/-! ## Arguments -/

/-- What is counted at a member is at most the greatest of all that is counted. -/
theorem le_foldr_max {α : Type} (f : α → Nat) {l : List α} {a : α} (h : a ∈ l) :
    f a ≤ (l.map f).foldr max 0 := by
  induction l with
  | nil => cases h
  | cons b l ih =>
    rw [List.map_cons, List.foldr_cons]
    rcases List.mem_cons.mp h with rfl | h
    · exact Nat.le_max_left ..
    · exact Nat.le_trans (ih h) (Nat.le_max_right ..)

namespace Argument

@[simp] theorem list_singleton (a : Argument) : list [a] = a.tokens := by
  simp [list, List.intercalate]

theorem list_cons_cons (a b : Argument) (args : List Argument) :
    list (a :: b :: args) = a.tokens ++ .comma :: list (b :: args) := by
  simp [list, List.intercalate]

/-- There is a comma between every two arguments. -/
theorem length_le_list (args : List Argument) : args.length ≤ (list args).length + 1 := by
  induction args with
  | nil => exact Nat.zero_le _
  | cons a args ih =>
    cases args with
    | nil => exact Nat.le_add_left ..
    | cons b args =>
      rw [list_cons_cons, List.length_append]
      simp only [List.length_cons] at ih ⊢
      omega

theorem nesting_le_depth {args : List Argument} {a : Argument} (h : a ∈ args) :
    a.nesting ≤ depth args := le_foldr_max nesting h

theorem depth_le {args : List Argument} {limit : Nat} (h : ∀ a ∈ args, a.nesting ≤ limit) :
    depth args ≤ limit := by
  induction args with
  | nil => exact Nat.zero_le limit
  | cons a args ih =>
    exact Nat.max_le.mpr
      ⟨h a List.mem_cons_self, ih fun b hb => h b (List.mem_cons_of_mem a hb)⟩

end Argument

/-! ## Larger symbols -/

namespace Derives

variable {ts : List Token} {e : Expr} {d : Nat}

theorem unary_of_primary (h : Derives .primary ts e d) : Derives .unary ts e d :=
  .unsigned (.plain h)

theorem chain_of_unary (h : Derives .unary ts e d) (level : Level) :
    Derives (.chain level) ts e d := by
  have hpower : Derives (.chain .power) ts e d := .operand h
  have hproduct : Derives (.chain .product) ts e d := .operand hpower
  cases level with
  | power => exact hpower
  | product => exact hproduct
  | sum => exact .operand hproduct

theorem operand_of_unary (h : Derives .unary ts e d) (level : Level) :
    Derives level.operand ts e d := by
  cases level with
  | power => exact h
  | product => exact h.chain_of_unary .power
  | sum => exact h.chain_of_unary .product

theorem expression_of_chain {level : Level} (h : Derives (.chain level) ts e d) :
    Derives .expression ts e (d + 1) := by
  cases level with
  | power => exact .expression (.operand (.operand h))
  | product => exact .expression (.operand h)
  | sum => exact .expression h

theorem expression_of_primary (h : Derives .primary ts e d) : Derives .expression ts e (d + 1) :=
  (h.unary_of_primary.chain_of_unary .sum).expression_of_chain

end Derives

/-! ## How derived tokens begin -/

/-- The tokens that a primary begins with. -/
def Token.startsPrimary : Token → Bool
  | number _ | text _ | word _ | parenOpen => true
  | _ => false

/-- Whether a token can stand at the start of what derives from a symbol. -/
def Symbol.startsWith : Symbol → Token → Bool
  | .primary, t | .postfixed, t => t.startsPrimary
  | _, t => t.startsPrimary || (Formula.sign? t).isSome

theorem Symbol.startsWith_of_startsPrimary {s : Symbol} {t : Token} (h : t.startsPrimary = true) :
    s.startsWith t = true := by
  cases s <;> simp [Symbol.startsWith, h]

theorem Symbol.startsWith_operand {level : Level} {t : Token}
    (h : level.operand.startsWith t = true) : (Symbol.chain level).startsWith t = true := by
  cases level <;> exact h

/-- Derived tokens begin with one that can stand at the start of the symbol. -/
theorem Derives.head {s : Symbol} {ts : List Token} {e : Expr} {d : Nat} (h : Derives s ts e d) :
    ∃ t us, ts = t :: us ∧ s.startsWith t = true := by
  induction h with
  | expression _ ih => exact ih
  | operand _ ih =>
    obtain ⟨t, us, rfl, ht⟩ := ih
    exact ⟨t, us, rfl, Symbol.startsWith_operand ht⟩
  | link _ _ ih _ =>
    obtain ⟨t, us, rfl, ht⟩ := ih
    exact ⟨t, _, rfl, ht⟩
  | @sign op ts e d _ ih => exact ⟨op.token, ts, rfl, by cases op <;> rfl⟩
  | unsigned _ ih =>
    obtain ⟨t, us, rfl, ht⟩ := ih
    exact ⟨t, us, rfl, Symbol.startsWith_of_startsPrimary ht⟩
  | percent _ ih =>
    obtain ⟨t, us, rfl, ht⟩ := ih
    exact ⟨t, _, rfl, ht⟩
  | plain _ ih => exact ih
  | number => exact ⟨_, _, rfl, rfl⟩
  | text => exact ⟨_, _, rfl, rfl⟩
  | truth => exact ⟨_, _, rfl, rfl⟩
  | ref => exact ⟨_, _, rfl, rfl⟩
  | call => exact ⟨_, _, rfl, rfl⟩
  | group => exact ⟨_, _, rfl, rfl⟩

/-! ## Operands stand apart -/

/-- The tokens that operands end with. -/
def Token.endsOperand : Token → Bool
  | number _ | text _ | word _ | percent | parenClose => true
  | _ => false

/-- The last of the tokens is one that operands end with. -/
def EndsOperand (ts : List Token) : Prop := ∃ us t, ts = us ++ [t] ∧ t.endsOperand = true

theorem EndsOperand.single {t : Token} (h : t.endsOperand = true) : EndsOperand [t] := ⟨[], t, rfl, h⟩

theorem EndsOperand.append {us : List Token} (ts : List Token) (h : EndsOperand us) :
    EndsOperand (ts ++ us) := by
  obtain ⟨vs, t, rfl, ht⟩ := h
  exact ⟨ts ++ vs, t, (List.append_assoc ..).symm, ht⟩

/-- Derived tokens end an operand. -/
theorem Derives.ends {s : Symbol} {ts : List Token} {e : Expr} {d : Nat} (h : Derives s ts e d) :
    EndsOperand ts := by
  induction h with
  | expression _ ih | operand _ ih | unsigned _ ih | plain _ ih => exact ih
  | @link op ts us _ _ _ _ _ _ _ ih =>
    rw [List.append_cons]
    exact ih.append _
  | @sign op _ _ _ _ ih => exact ih.append [op.token]
  | percent => exact (EndsOperand.single rfl).append _
  | number | text | truth | ref => exact .single rfl
  | @call name args _ _ => exact ⟨.word name :: .parenOpen :: Argument.list args, .parenClose, rfl, rfl⟩
  | @group ts _ _ _ _ => exact ⟨.parenOpen :: ts, .parenClose, rfl, rfl⟩

def Token.isNumber : Token → Bool
  | number _ => true
  | _ => false

/-- No number stands right after the end of an operand. -/
def Parted (ts : List Token) : Prop :=
  ts.IsChain fun a b => ¬ (a.endsOperand = true ∧ b.isNumber = true)

theorem Parted.nil : Parted [] := List.IsChain.nil

theorem Parted.single (t : Token) : Parted [t] := List.IsChain.singleton t

theorem Parted.append {ts us : List Token} {t : Token} (hts : Parted ts) (hus : Parted (t :: us))
    (ht : t.isNumber = false) : Parted (ts ++ t :: us) := by
  refine List.isChain_append.mpr ⟨hts, hus, ?_⟩
  intro a _ b hb hboth
  rw [List.head?_cons, Option.mem_some_iff] at hb
  subst hb
  simp [ht] at hboth

theorem Parted.cons {us : List Token} {t : Token} (hus : Parted us) (ht : t.endsOperand = false) :
    Parted (t :: us) := by
  refine List.isChain_cons.mpr ⟨?_, hus⟩
  intro u _ hboth
  simp [ht] at hboth

/-- A token that is no part of an operand keeps what stands around it parted. -/
theorem Parted.join {ts us : List Token} {t : Token} (hts : Parted ts) (hus : Parted us)
    (hend : t.endsOperand = false) (ht : t.isNumber = false) : Parted (ts ++ t :: us) :=
  hts.append (hus.cons hend) ht

theorem Parted.list {args : List Argument} (h : ∀ a ∈ args, Parted a.tokens) :
    Parted (Argument.list args) := by
  induction args with
  | nil => exact .nil
  | cons a args ih =>
    have ha := h a List.mem_cons_self
    cases args with
    | nil => simpa using ha
    | cons b args =>
      rw [Argument.list_cons_cons]
      exact ha.join (ih fun x hx => h x (List.mem_cons_of_mem a hx)) rfl rfl

/-- Between an operand and a number there is another token in all that derives from the
grammar. -/
theorem Derives.parted {s : Symbol} {ts : List Token} {e : Expr} {d : Nat} (h : Derives s ts e d) :
    Parted ts := by
  induction h with
  | expression _ ih | operand _ ih | unsigned _ ih | plain _ ih => exact ih
  | @link op _ _ _ _ _ _ _ _ ihl ihr => cases op <;> exact ihl.join ihr rfl rfl
  | @sign op _ _ _ _ ih => cases op <;> exact ih.cons rfl
  | percent _ ih => exact ih.append (.single _) rfl
  | number | text | truth | ref => exact .single _
  | @call name args _ ih =>
    have hargs : Parted (Argument.list args ++ [.parenClose]) := (Parted.list ih).append (.single _) rfl
    exact (Parted.single (.word name)).append (hargs.cons (t := .parenOpen) rfl) rfl
  | group _ ih => exact (ih.append (.single .parenClose) rfl).cons (t := .parenOpen) rfl

/-- No two numbers stand side by side. -/
def Apart (ts : List Token) : Prop := ts.IsChain fun a b => ¬ (a.isNumber = true ∧ b.isNumber = true)

/-- In what derives from the grammar no two numbers stand side by side. -/
theorem Derives.apart {s : Symbol} {ts : List Token} {e : Expr} {d : Nat} (h : Derives s ts e d) :
    Apart ts := by
  refine h.parted.imp fun a b hparted hboth => hparted ⟨?_, hboth.2⟩
  cases a with
  | number x => rfl
  | _ => exact absurd hboth.1 Bool.false_ne_true

end Worksheet
