import Worksheet.Proofs.Formula.Soundness

/- Worksheet Reader Completeness — what derives from the grammar is read.

   A reader takes as much as it can, so it reads a derivation only if what comes
   after it cannot go on with it: the token that follows has to bind less strongly
   than the symbol (`Follows`). In a derivation that always holds of the tokens that
   follow a part. A chain is derived from its end and read from its start, so of a
   chain the induction says where its loop stands after it (`AcceptsChain`), not
   that it ends. -/
namespace Worksheet

/-! ## What may follow -/

/-- How strongly a token binds what stands before it. -/
def Token.strength : Token → Nat
  | parenOpen => 5
  | percent => 4
  | caret => 3
  | star | slash => 2
  | plus | minus => 1
  | _ => 0

/-- What derives from a symbol goes on with a token that binds at least as strongly. -/
def Symbol.strength : Symbol → Nat
  | .primary => 5
  | .postfixed | .unary => 4
  | .chain .power => 3
  | .chain .product => 2
  | .chain .sum | .expression => 1

namespace Formula

open Tokens (Begins)

/-- The stream does not go on with what derives from the symbol. -/
def Follows (s : Symbol) : Tokens → Prop
  | .finish _ => True
  | .fault _ _ => False
  | .next t _ _ => t.strength < s.strength

variable {s : Symbol} {rest : Tokens}

theorem follows_next {t : Token} {position : Nat} (h : t.strength < s.strength) :
    Follows s (.next t position rest) := h

theorem Follows.ready (h : Follows s rest) : rest.Ready := by
  cases rest with
  | finish position => exact trivial
  | fault cause position => cases h
  | next t position rest => exact trivial

theorem Follows.mono {s' : Symbol} (h : Follows s rest) (hle : s.strength ≤ s'.strength) :
    Follows s' rest := by
  cases rest with
  | finish position => exact trivial
  | fault cause position => cases h
  | next t position rest => exact Nat.lt_of_lt_of_le h hle

theorem follows_operand {level : Level} (h : Follows (.chain level) rest) :
    Follows level.operand rest := h.mono (by cases level <;> decide)

/-- An operator ends its left operand. -/
theorem follows_op (op : BinaryOp) (position : Nat) (rest : Tokens) :
    Follows op.level.operand (.next op.token position rest) := by
  cases op <;> exact follows_next (by decide)

/-- No operator of its level follows a chain that has ended. -/
theorem opOf?_eq_none {level : Level} {t : Token}
    (h : t.strength < (Symbol.chain level).strength) : opOf? level t = none := by
  cases level <;> cases t <;> first | rfl | exact absurd h (by decide)

theorem opOf?_token (op : BinaryOp) : opOf? op.level op.token = some op := by cases op <;> rfl

theorem sign?_token (op : PrefixOp) : sign? op.token = some op := by cases op <;> rfl

theorem sign?_eq_none {t : Token} (h : t.startsPrimary = true) : sign? t = none := by
  cases t <;> first | rfl | cases h

/-! ## Readers by symbol -/

/-- Reads an expression inside another. -/
def nested : Nat → Reader Parsed
  | 0 => fun _ => .error .tooDeep
  | depth + 1 => expression (unary depth)

/-- Reads what follows a sign. -/
def signed : Nat → Reader Parsed
  | 0 => fun _ => .error .tooDeep
  | depth + 1 => unary depth

theorem unary_eq (depth : Nat) : unary depth = unaryWith (signed depth) (nested depth) := by
  cases depth <;> rfl

/-- The reader of a symbol, with the nesting that is left. -/
def reader : Symbol → Nat → Reader Parsed
  | .expression, depth => nested depth
  | .chain .sum, depth => expression (unary depth)
  | .chain .product, depth => chain (chain (unary depth) powerOp?) productOp?
  | .chain .power, depth => chain (unary depth) powerOp?
  | .unary, depth => unary depth
  | .postfixed, depth => postfixed (nested depth)
  | .primary, depth => primary (nested depth)

theorem reader_chain (level : Level) (depth : Nat) :
    reader (.chain level) depth = chain (reader level.operand depth) (opOf? level) := by
  cases level <;> rfl

/-! ## Completeness -/

/-- Where some tokens derive from a symbol within the limits, its reader reads them. -/
def Accepts (s : Symbol) (ts : List Token) (e : Expr) (d : Nat) : Prop :=
  ∀ depth tokens rest, d ≤ depth → e.height ≤ depthLimit → Begins tokens ts rest →
    Follows s rest → reader s depth tokens = .ok (⟨e, e.height⟩, rest)

/-- Where some tokens derive a chain within the limits, the loop of its reader comes
to stand after them and has steps for all that follows. -/
def AcceptsChain (level : Level) (ts : List Token) (e : Expr) (d : Nat) : Prop :=
  ∀ depth tokens rest, d ≤ depth → e.height ≤ depthLimit → Begins tokens ts rest →
    Follows level.operand rest → ∃ links, rest.length ≤ links ∧
      reader (.chain level) depth tokens =
        chainFrom (reader level.operand depth) (opOf? level) links ⟨e, e.height⟩ rest

/-- What the induction says of a derivation. -/
def Accepted : Symbol → List Token → Expr → Nat → Prop
  | .chain level => AcceptsChain level
  | s => Accepts s

variable {ts us : List Token} {e l r : Expr} {d d' : Nat}

/-- A loop stops where no operator of its level follows. -/
theorem chainFrom_stops {level : Level} {operand : Reader Parsed} (links : Nat) (left : Parsed)
    (h : Follows (.chain level) rest) :
    chainFrom operand (opOf? level) links left rest = .ok (left, rest) := by
  cases links with
  | zero => rfl
  | succ links =>
    cases rest with
    | finish position => rfl
    | fault cause position => cases h
    | next t position tail =>
      rw [chainFrom, opOf?_eq_none h]

theorem AcceptsChain.accepts {level : Level} (h : AcceptsChain level ts e d) :
    Accepts (.chain level) ts e d := by
  intro depth tokens rest hd hheight hbegins hfollows
  obtain ⟨links, -, heq⟩ := h depth tokens rest hd hheight hbegins (follows_operand hfollows)
  rw [heq, chainFrom_stops links _ hfollows]

theorem Accepted.accepts (h : Accepted s ts e d) : Accepts s ts e d := by
  cases s with
  | chain level => exact AcceptsChain.accepts h
  | _ => exact h

theorem node_ok {height : Nat} (h : height ≤ depthLimit) : node e height = .ok ⟨e, height⟩ := by
  rw [node, if_neg (Nat.not_lt.mpr h)]

theorem acceptsChain_operand {level : Level} (h : Accepts level.operand ts e d) :
    AcceptsChain level ts e d := by
  intro depth tokens rest hd hheight hbegins hfollows
  refine ⟨rest.length, Nat.le_refl _, ?_⟩
  rw [reader_chain]
  show (reader level.operand depth tokens >>= _) = _
  rw [h depth tokens rest hd hheight hbegins hfollows]
  rfl

theorem acceptsChain_link {op : BinaryOp} (hl : AcceptsChain op.level ts l d)
    (hr : Accepts op.level.operand us r d') :
    AcceptsChain op.level (ts ++ op.token :: us) (.binary op l r) (max d d') := by
  intro depth tokens rest hd hheight hbegins hfollows
  obtain ⟨hd, hd'⟩ := Nat.max_le.mp hd
  have hheight' : max l.height r.height + 1 ≤ depthLimit := hheight
  have hlheight : l.height ≤ depthLimit := by omega
  have hrheight : r.height ≤ depthLimit := by omega
  obtain ⟨middle, hleft, hlink⟩ := hbegins.split
  cases hlink with
  | @cons _ position tail _ _ hright =>
    -- the operator is still to be read, so the loop has at least one step for it
    obtain ⟨links, hlinks, heq⟩ := hl depth tokens _ hd hlheight hleft (follows_op op position tail)
    have hlength := hright.length_eq
    rw [Tokens.length] at hlinks
    obtain ⟨links, rfl⟩ := Nat.exists_eq_add_of_le' (Nat.one_le_of_lt hlinks)
    refine ⟨links, by omega, ?_⟩
    rw [heq, chainFrom, opOf?_token]
    dsimp only
    rw [ready_eq (hright.ready hfollows.ready)]
    show (reader op.level.operand depth tail >>= _) = _
    rw [hr depth tail rest hd' hrheight hright hfollows]
    show (node (.binary op l r) (max l.height r.height + 1) >>= _) = _
    rw [node_ok hheight']
    rfl

theorem accepts_expression (h : Accepts (.chain .sum) ts e d) :
    Accepts .expression ts e (d + 1) := by
  intro depth tokens rest hd hheight hbegins hfollows
  obtain ⟨depth, rfl⟩ := Nat.exists_eq_add_of_le' (Nat.one_le_of_lt hd)
  exact h depth tokens rest (Nat.le_of_succ_le_succ hd) hheight hbegins hfollows

theorem accepts_sign {op : PrefixOp} (h : Accepts .unary ts e d) :
    Accepts .unary (op.token :: ts) (.unary op e) (d + 1) := by
  intro depth tokens rest hd hheight hbegins hfollows
  obtain ⟨depth, rfl⟩ := Nat.exists_eq_add_of_le' (Nat.one_le_of_lt hd)
  have hheight' : e.height + 1 ≤ depthLimit := hheight
  cases hbegins with
  | @cons _ position tail _ _ htail =>
    show unary (depth + 1) (.next op.token position tail) = _
    rw [unary_eq, unaryWith]
    dsimp only
    rw [sign?_token]
    dsimp only
    rw [ready_eq (htail.ready hfollows.ready)]
    show (reader .unary depth tail >>= _) = _
    rw [h depth tail rest (Nat.le_of_succ_le_succ hd) (Nat.le_of_succ_le hheight') htail hfollows]
    show (node (.unary op e) (e.height + 1) >>= _) = _
    rw [node_ok hheight']
    rfl

theorem accepts_unsigned (hderives : Derives .postfixed ts e d) (h : Accepts .postfixed ts e d) :
    Accepts .unary ts e d := by
  intro depth tokens rest hd hheight hbegins hfollows
  have hread := h depth tokens rest hd hheight hbegins hfollows
  -- the first token can begin a primary, so it is no sign
  obtain ⟨t, us, rfl, ht⟩ := hderives.head
  cases hbegins with
  | @cons _ position tail _ _ htail =>
    show unary depth (.next t position tail) = _
    rw [unary_eq, unaryWith]
    dsimp only
    rw [sign?_eq_none ht]
    exact hread

theorem accepts_percent (h : Accepts .primary ts e d) :
    Accepts .postfixed (ts ++ [.percent]) (.percent e) d := by
  intro depth tokens rest hd hheight hbegins hfollows
  have hheight' : e.height + 1 ≤ depthLimit := hheight
  obtain ⟨middle, hoperand, hpercent⟩ := hbegins.split
  cases hpercent with
  | @cons _ position tail _ _ hnil =>
    cases hnil
    show (reader .primary depth tokens >>= _) = _
    rw [h depth tokens _ hd (Nat.le_of_succ_le hheight') hoperand
      (follows_next (by decide))]
    show (ready rest >>= _) = _
    rw [ready_eq hfollows.ready]
    show (node (.percent e) (e.height + 1) >>= _) = _
    rw [node_ok hheight']
    rfl

theorem accepts_plain (h : Accepts .primary ts e d) : Accepts .postfixed ts e d := by
  intro depth tokens rest hd hheight hbegins hfollows
  have hread := h depth tokens rest hd hheight hbegins (hfollows.mono (by decide))
  show (reader .primary depth tokens >>= _) = _
  rw [hread, ok_bind]
  dsimp only
  -- a percent sign binds as strongly as the symbol, so it does not follow
  split
  · exact absurd (show Token.percent.strength < Symbol.postfixed.strength from hfollows) (by decide)
  · rfl

/-! ## Primaries -/

/-- A literal is read whatever follows. -/
theorem accepts_literal {t : Token}
    (hread : ∀ nested position rest, primary nested (.next t position rest) =
      (ready rest >>= fun rest => .ok (leaf e, rest))) (hheight : e.height = 1) :
    Accepts .primary [t] e 0 := by
  intro depth tokens rest _ _ hbegins hfollows
  cases hbegins with
  | @cons _ position _ _ _ hnil =>
    cases hnil
    show primary (nested depth) (.next t position rest) = _
    rw [hread, ready_eq hfollows.ready, ok_bind, hheight]
    rfl

theorem accepts_word {name : String} (hword : wordExpr name = e) (hheight : e.height = 1) :
    Accepts .primary [.word name] e 0 := by
  intro depth tokens rest _ _ hbegins hfollows
  cases hbegins with
  | @cons _ position _ _ _ hnil =>
    cases hnil
    show primary (nested depth) (.next (.word name) position rest) = _
    rw [primary, ready_eq hfollows.ready, hheight, ← hword, ok_bind]
    -- a parenthesis after the word would make it a call
    split
    · exact absurd (show Token.parenOpen.strength < Symbol.primary.strength from hfollows) (by decide)
    · rfl

theorem wordExpr_truth {name : String} {b : Bool}
    (h : Unicode.upper name = if b then "TRUE" else "FALSE") : wordExpr name = .bool b := by
  rw [wordExpr, h]
  cases b <;> rfl

theorem wordExpr_ref {name : String} (h : Unicode.upper name ≠ "TRUE" ∧ Unicode.upper name ≠ "FALSE") :
    wordExpr name = .ref name := by
  rw [wordExpr, if_neg h.1, if_neg h.2]

theorem accepts_group (h : Accepts .expression ts e d) :
    Accepts .primary (.parenOpen :: (ts ++ [.parenClose])) e d := by
  intro depth tokens rest hd hheight hbegins hfollows
  cases hbegins with
  | @cons _ position tail _ _ htail =>
    obtain ⟨middle, hinner, hclose⟩ := htail.split
    cases hclose with
    | @cons _ position' _ _ _ hnil =>
      cases hnil
      have hfollows' : Follows .expression (.next .parenClose position' rest) :=
        follows_next (by decide)
      show primary (nested depth) (.next .parenOpen position tail) = _
      rw [primary, ready_eq (hinner.ready hfollows'.ready)]
      show (reader .expression depth tail >>= _) = _
      rw [h depth tail _ hd hheight hinner hfollows']
      show (ready rest >>= _) = _
      rw [ready_eq hfollows.ready]
      rfl

/-- The tokens of an argument begin with neither a comma nor a parenthesis that
closes. -/
theorem ne_of_startsWith {t : Token} (h : Symbol.expression.startsWith t = true) :
    t ≠ .comma ∧ t ≠ .parenClose := by
  constructor <;> (rintro rfl; cases h)

/-- What has been read of an argument. -/
def parsedOf (a : Argument) : Parsed := ⟨a.expr, a.expr.height⟩

/-- An argument that the reader of expressions reads with the nesting that is left. -/
structure Readable (depth : Nat) (a : Argument) : Prop where
  derives : Derives .expression a.tokens a.expr a.nesting
  accepts : Accepts .expression a.tokens a.expr a.nesting
  nesting_le : a.nesting ≤ depth
  height_le : a.expr.height ≤ depthLimit

theorem Readable.nested_eq {depth : Nat} {a : Argument} (h : Readable depth a) {tokens rest : Tokens}
    (hbegins : Begins tokens a.tokens rest) (hfollows : Follows .expression rest) :
    nested depth tokens = .ok (parsedOf a, rest) :=
  h.accepts depth tokens rest h.nesting_le h.height_le hbegins hfollows

theorem argumentsFrom_eq {name : String} {depth position : Nat} (args : List Argument)
    (hne : args ≠ []) (hargs : ∀ a ∈ args, Readable depth a) (more : Nat)
    (hmore : args.length ≤ more) (tokens : Tokens)
    (hbegins : Begins tokens (Argument.list args) (.next .parenClose position rest)) :
    argumentsFrom (nested depth) name more tokens =
      .ok (args.map parsedOf, .next .parenClose position rest) := by
  -- one argument is read for each step, and the induction goes along both
  induction args generalizing more tokens with
  | nil => exact absurd rfl hne
  | cons a args ih =>
    obtain ⟨more, rfl⟩ := Nat.exists_eq_add_of_le' (Nat.le_trans (Nat.le_add_left 1 _) hmore)
    have ha : Readable depth a := hargs a List.mem_cons_self
    obtain ⟨t, us, htokens, ht⟩ := ha.derives.head
    -- the loop goes on to read an argument only where one can begin
    have hstart : ∀ middle, Begins tokens a.tokens middle → ∀ position rest,
        tokens ≠ .next .comma position rest ∧ tokens ≠ .next .parenClose position rest := by
      intro middle hfirst position rest
      rw [htokens] at hfirst
      cases hfirst
      constructor <;> (intro heq; cases heq)
      · exact (ne_of_startsWith ht).1 rfl
      · exact (ne_of_startsWith ht).2 rfl
    cases args with
    | nil =>
      rw [Argument.list_singleton] at hbegins
      rw [argumentsFrom, ha.nested_eq hbegins (follows_next (by decide))]
      · rfl
      · exact fun position rest => (hstart _ hbegins position rest).1
      · exact fun position rest => (hstart _ hbegins position rest).2
    | cons b args =>
      rw [Argument.list_cons_cons] at hbegins
      obtain ⟨middle, hfirst, hothers⟩ := hbegins.split
      cases hothers with
      | @cons _ position' tail _ _ htail =>
        have hrest := ih (by simp) (fun x hx => hargs x (List.mem_cons_of_mem a hx)) more
          (Nat.le_of_succ_le_succ hmore) tail htail
        rw [argumentsFrom, ha.nested_eq hfirst (follows_next (by decide))]
        · show (ready tail >>= _) = _
          rw [ready_eq (htail.ready trivial)]
          show (argumentsFrom (nested depth) name more tail >>= _) = _
          rw [hrest]
          rfl
        · exact fun position rest => (hstart _ hfirst position rest).1
        · exact fun position rest => (hstart _ hfirst position rest).2

theorem arguments_eq {name : String} {depth position : Nat} {args : List Argument}
    (hargs : ∀ a ∈ args, Readable depth a) {tokens : Tokens}
    (hbegins : Begins tokens (Argument.list args) (.next .parenClose position rest)) :
    arguments (nested depth) name tokens =
      .ok (args.map parsedOf, .next .parenClose position rest) := by
  cases args with
  | nil =>
    cases hbegins
    rfl
  | cons a args =>
    obtain ⟨t, us, htokens, ht⟩ := (hargs a List.mem_cons_self).derives.head
    have hlist : ∃ us', Argument.list (a :: args) = t :: us' := by
      cases args with
      | nil => exact ⟨us, by rw [Argument.list_singleton, htokens]⟩
      | cons b args => exact ⟨_, by rw [Argument.list_cons_cons, htokens, List.cons_append]⟩
    obtain ⟨us', hlist⟩ := hlist
    have hcount : (a :: args).length ≤ tokens.length + 1 := by
      have hlength := hbegins.length_eq
      have hlist := Argument.length_le_list (a :: args)
      rw [Tokens.length] at hlength
      omega
    have hclose : ∀ position rest, tokens ≠ .next .parenClose position rest := by
      rw [hlist] at hbegins
      cases hbegins
      intro position rest heq
      cases heq
      exact (ne_of_startsWith ht).2 rfl
    rw [arguments]
    · exact argumentsFrom_eq _ (by simp) hargs _ hcount tokens hbegins
    · exact hclose

theorem height_le_heightAll {es : List Expr} (h : e ∈ es) : e.height ≤ Expr.heightAll es := by
  rw [heightAll_eq_foldr]
  exact le_foldr_max Expr.height h

theorem accepts_call {name : String} {args : List Argument}
    (hderives : ∀ a ∈ args, Derives .expression a.tokens a.expr a.nesting)
    (haccepts : ∀ a ∈ args, Accepts .expression a.tokens a.expr a.nesting) :
    Accepts .primary (.word name :: .parenOpen :: (Argument.list args ++ [.parenClose]))
      (.call (Unicode.upper name) (args.map Argument.expr)) (Argument.depth args) := by
  intro depth tokens rest hd hheight hbegins hfollows
  have hheight' : Expr.heightAll (args.map Argument.expr) + 1 ≤ depthLimit := hheight
  have hargs : ∀ a ∈ args, Readable depth a := fun a ha =>
    ⟨hderives a ha, haccepts a ha, Nat.le_trans (Argument.nesting_le_depth ha) hd,
      Nat.le_trans (height_le_heightAll (List.mem_map_of_mem ha)) (Nat.le_of_succ_le hheight')⟩
  cases hbegins with
  | @cons _ position _ _ _ hopen =>
    cases hopen with
    | @cons _ position' tail _ _ htail =>
      obtain ⟨middle, hlist, hclose⟩ := htail.split
      cases hclose with
      | @cons _ position'' _ _ _ hnil =>
        cases hnil
        show (ready tail >>= call (nested depth) name) = _
        rw [ready_eq (hlist.ready trivial)]
        show (arguments (nested depth) name tail >>= _) = _
        rw [arguments_eq hargs hlist]
        show (ready rest >>= _) = _
        rw [ready_eq hfollows.ready]
        show (node (.call (Unicode.upper name) ((args.map parsedOf).map Parsed.expr))
          (((args.map parsedOf).map Parsed.height).foldl max 0 + 1) >>= _) = _
        have hexprs : (args.map parsedOf).map Parsed.expr = args.map Argument.expr := List.map_map
        rw [foldl_height _ (by simp [parsedOf]), hexprs, node_ok hheight']
        rfl

/-- What derives from the grammar within the limits is read. -/
theorem accepted_of_derives (h : Derives s ts e d) : Accepted s ts e d := by
  induction h with
  | expression _ ih => exact accepts_expression ih.accepts
  | operand _ ih => exact acceptsChain_operand ih.accepts
  | link _ _ ihl ihr => exact acceptsChain_link ihl ihr.accepts
  | sign _ ih => exact accepts_sign ih
  | unsigned hp ih => exact accepts_unsigned hp ih
  | percent _ ih => exact accepts_percent ih
  | plain _ ih => exact accepts_plain ih
  | number => exact accepts_literal (fun _ _ _ => rfl) rfl
  | text => exact accepts_literal (fun _ _ _ => rfl) rfl
  | truth h => exact accepts_word (wordExpr_truth h) rfl
  | ref h => exact accepts_word (wordExpr_ref h) rfl
  | call hderives ih => exact accepts_call hderives ih
  | group _ ih => exact accepts_group ih

/-- Reading a whole stream gives an expression exactly when the tokens of the stream
derive it within the limits. -/
theorem expression_eq_ok {tokens : Tokens} :
    (∃ p position, expression (unary (depthLimit - 1)) tokens = .ok (p, .finish position) ∧
        p.expr = e) ↔
      ∃ ts d position, Begins tokens ts (.finish position) ∧ Derives .expression ts e d ∧
        e.height ≤ depthLimit ∧ d ≤ depthLimit := by
  constructor
  · rintro ⟨p, position, h, rfl⟩
    obtain ⟨ts, d, hbegins, hderives, hd, heq, hheight⟩ :=
      sound_expression (sound_unary (depthLimit - 1)) _ _ _ h
    exact ⟨ts, d, position, hbegins, hderives, heq ▸ hheight, hd⟩
  · rintro ⟨ts, d, position, hbegins, hderives, hheight, hd⟩
    exact ⟨_, position, accepted_of_derives hderives depthLimit tokens _ hd hheight hbegins trivial,
      rfl⟩

end Formula

end Worksheet
