import Worksheet.Proofs.Formula.Numeral
import Worksheet.Proofs.Formula.Parsing
import Worksheet.Proofs.Formula.Values

/- Worksheet Rendering — the text of a tree is read back as the tree.

   A text lexes as some tokens if it splits into them however it goes on, as long as no
   word or number goes on with it (`Lexes`). What is rendered lexes as tokens that derive
   the tree as a primary: an operator stands in parentheses of its own, so nothing
   around it can regroup it (`exists_written`). The parentheses count as nesting: an
   operator opens one expression and a sign one more, so a tree that was read is not always
   read back. It is if no more than 255 are open (`Formula.parse_render`). The trees that
   can be written are those that reading gives, but for infinite numbers
   (`Derives.writable`). -/
namespace Worksheet

open Token

/-! ## Trees that can be written -/

/-- A name that is one word. -/
def Identifier (name : String) : Prop :=
  ∃ c cs, name.toList = c :: cs ∧ startsWord c = true ∧ ∀ x ∈ cs, continuesWord x = true

/-- Every literal and every name of the tree has a text that is read as it is. -/
inductive Writable : Expr → Prop
  | number {x : Float} (hfinite : x.isFinite = true) (hsign : Layout.isNegative x = false) :
      Writable (.number x)
  | text (s : String) : Writable (.text s)
  | bool (b : Bool) : Writable (.bool b)
  | ref {name : String} (hname : Identifier name)
      (htruth : Unicode.upper name ≠ "TRUE" ∧ Unicode.upper name ≠ "FALSE") : Writable (.ref name)
  | binary {op : BinaryOp} {l r : Expr} (left : Writable l) (right : Writable r) :
      Writable (.binary op l r)
  | unary {op : PrefixOp} {e : Expr} (operand : Writable e) : Writable (.unary op e)
  | percent {e : Expr} (operand : Writable e) : Writable (.percent e)
  | call {name : String} {args : List Expr} (hname : Identifier name)
      (hupper : Unicode.upper name = name) (hargs : ∀ e ∈ args, Writable e) :
      Writable (.call name args)

namespace Expr

mutual
/-- On the path where they are most, the operators and calls of a tree, where a prefix
operator counts twice: so many expressions and signs are open in its text. -/
def openings : Expr → Nat
  | number _ | text _ | bool _ | ref _ => 0
  | binary _ l r => max l.openings r.openings + 1
  | unary _ e => e.openings + 2
  | percent e => e.openings + 1
  | call _ args => openingsAll args + 1

def openingsAll : List Expr → Nat
  | [] => 0
  | e :: es => max e.openings (openingsAll es)
end

mutual
/-- Every level of a tree but the last opens something. -/
theorem height_le_openings : ∀ e : Expr, e.height ≤ e.openings + 1
  | number _ | text _ | bool _ | ref _ => Nat.le_refl 1
  | binary _ l r => by
    have hl := height_le_openings l
    have hr := height_le_openings r
    simp only [height, openings]
    omega
  | unary _ e => by
    have he := height_le_openings e
    simp only [height, openings]
    omega
  | percent e => by
    have he := height_le_openings e
    simp only [height, openings]
    omega
  | call _ args => by
    have hargs := heightAll_le_openingsAll args
    simp only [height, openings]
    omega

theorem heightAll_le_openingsAll : ∀ es : List Expr, heightAll es ≤ openingsAll es + 1
  | [] => Nat.zero_le 1
  | e :: es => by
    have he := height_le_openings e
    have hes := heightAll_le_openingsAll es
    simp only [heightAll, openingsAll]
    omega
end

theorem openingsAll_eq_foldr (es : List Expr) :
    openingsAll es = (es.map openings).foldr max 0 := by
  induction es with
  | nil => rfl
  | cons e es ih => rw [openingsAll, ih, List.map_cons, List.foldr_cons]

theorem renderAll_eq (es : List Expr) : renderAll es = es.map render := by
  induction es with
  | nil => rfl
  | cons e es ih => rw [renderAll, ih, List.map_cons]

end Expr

/-! ## Texts that lex as tokens -/

/-- No word and no number goes on with the text. -/
def EndsWord (rest : List Char) : Prop := ∀ c ∈ rest.head?, continuesWord c = false

theorem EndsWord.nil : EndsWord [] := nofun

theorem EndsWord.cons {c : Char} (h : continuesWord c = false) (cs : List Char) :
    EndsWord (c :: cs) := by
  rintro x ⟨⟩
  exact h

/-- The text splits into the tokens, and what ends a word and comes after it splits on
its own. -/
def Lexes (cs : List Char) (ts : List Token) : Prop :=
  ∀ rest us, EndsWord rest → Splits rest us → Splits (cs ++ rest) (ts ++ us)

namespace Lexes

variable {cs ds : List Char} {ts us : List Token}

theorem splits (h : Lexes cs ts) : Splits cs ts := by
  have hsplits := h [] [] .nil .nil
  rwa [List.append_nil, List.append_nil] at hsplits

theorem nil : Lexes [] [] := fun _ _ _ h => h

theorem append (h : Lexes cs ts) (h' : Lexes ds us) (hds : EndsWord ds) :
    Lexes (cs ++ ds) (ts ++ us) := by
  intro rest vs hrest hsplits
  rw [List.append_assoc, List.append_assoc]
  refine h _ _ ?_ (h' rest vs hrest hsplits)
  cases ds with
  | nil => exact hrest
  | cons d ds => exact hds

theorem token {t : Token} (h : ∀ rest, EndsWord rest → Longest cs rest t) : Lexes cs [t] :=
  fun rest _ hrest hsplits => .token (h rest hrest) hsplits

/-- After a symbol that begins no longer one anything may come. -/
theorem symbol {c : Char} {t : Token} (ht : t.symbol? = some [c]) (hc : c ≠ '<' ∧ c ≠ '>')
    (h : Lexes cs ts) : Lexes (c :: cs) (t :: ts) := by
  intro rest us hrest hsplits
  have hlongest : Longest [c] (cs ++ rest) t := by
    refine longest_single ht fun d ds _ hpair => ?_
    rcases hpair with ⟨hlt, -⟩ | ⟨hgt, -⟩
    · exact hc.1 hlt
    · exact hc.2 hgt
  show Splits ([c] ++ (cs ++ rest)) (t :: (ts ++ us))
  exact .token hlongest (h rest us hrest hsplits)

theorem blank (h : Lexes cs ts) : Lexes (' ' :: cs) ts := fun rest us hrest hsplits =>
  .blank (by decide) (h rest us hrest hsplits)

theorem binaryOp (op : BinaryOp) (h : Lexes cs ts) :
    Lexes (op.symbol.toList ++ cs) (op.token :: ts) := by
  cases op <;> exact symbol rfl (by decide) h

theorem prefixOp (op : PrefixOp) (h : Lexes cs ts) :
    Lexes (op.symbol.toList ++ cs) (op.token :: ts) := by
  cases op <;> exact symbol rfl (by decide) h

/-- What is in parentheses ends before the one that closes. -/
theorem group (h : Lexes cs ts) :
    Lexes ('(' :: (cs ++ [')'])) (.parenOpen :: (ts ++ [.parenClose])) :=
  symbol rfl (by decide) (h.append (symbol rfl (by decide) nil) (.cons (by decide) []))

/-! ## Literals and names -/

theorem number {x : Float} (hfinite : x.isFinite = true) (hsign : Layout.isNegative x = false) :
    Lexes (Layout.display.text x).toList [.number x] := by
  refine token fun rest hrest => longest_numeral (numeral_display hfinite hsign) fun c hc => ?_
  -- digits and points go on with words as they do with numbers
  have hends := hrest c hc
  simp only [continuesWord, Bool.or_eq_false_iff, beq_eq_false_iff_ne] at hends
  exact ⟨hends.1.1.2, hends.2⟩

theorem quoted_escape (cs : List Char) :
    Quoted (cs.flatMap fun c => if c = '\\' || c = '"' then ['\\', c] else [c]) cs := by
  induction cs with
  | nil => exact .nil
  | cons c cs ih =>
    rw [List.flatMap_cons]
    split
    · exact .escaped ih
    · rename_i hc
      rw [Bool.or_eq_true, decide_eq_true_eq, decide_eq_true_eq, not_or] at hc
      exact .plain hc.2 hc.1 ih

theorem text (s : String) : Lexes (quoteText s).toList [.text s] := by
  have hquote : (quoteText s).toList = '"' :: (s.toList.flatMap (fun c =>
      if c = '\\' || c = '"' then ['\\', c] else [c]) ++ ['"']) := by
    simp [quoteText]
  rw [hquote]
  refine token fun rest _ => ?_
  have hlongest : Longest _ rest (.text (String.ofList s.toList)) :=
    longest_text (quoted_escape s.toList)
  rwa [String.ofList_toList] at hlongest

theorem word {name : String} (h : Identifier name) : Lexes name.toList [.word name] := by
  obtain ⟨c, cs, hname, hc, hcs⟩ := h
  refine token fun rest hrest => ?_
  have hlongest := longest_identifier hc hcs hrest
  rwa [← hname, String.ofList_toList] at hlongest

end Lexes

/-! ## What is rendered derives -/

/-- A tree lexes as the tokens of a derivation and opens no more than it may. -/
structure Written (e : Expr) (ts : List Token) (d : Nat) : Prop where
  lexes : Lexes e.render.toList ts
  derives : Derives .primary ts e d
  nesting_le : d ≤ e.openings

namespace Written

variable {l r e : Expr} {ts us : List Token} {d d' : Nat}

theorem binary (op : BinaryOp) (hl : Written l ts d) (hr : Written r us d') :
    Written (.binary op l r) (.parenOpen :: ((ts ++ op.token :: us) ++ [.parenClose]))
      (max d d' + 1) where
  lexes := by
    have htext : (Expr.binary op l r).render.toList = '(' :: ((l.render.toList ++
        ' ' :: (op.symbol.toList ++ ' ' :: r.render.toList)) ++ [')']) := by
      simp [Expr.render]
    rw [htext]
    exact (hl.lexes.append (Lexes.binaryOp op hr.lexes.blank).blank (.cons (by decide) _)).group
  derives := by
    -- the operands are primaries, so they stand on both sides of every operator
    have hleft := hl.derives.unary_of_primary.chain_of_unary op.level
    have hright := hr.derives.unary_of_primary.operand_of_unary op.level
    exact .group (Derives.link hleft hright).expression_of_chain
  nesting_le := Nat.succ_le_succ (max_le_max hl.nesting_le hr.nesting_le)

theorem unary (op : PrefixOp) (h : Written e ts d) :
    Written (.unary op e) (.parenOpen :: (op.token :: ts ++ [.parenClose])) (d + 2) where
  lexes := by
    have htext : (Expr.unary op e).render.toList =
        '(' :: ((op.symbol.toList ++ e.render.toList) ++ [')']) := by
      simp [Expr.render]
    rw [htext]
    exact (Lexes.prefixOp op h.lexes).group
  derives := by
    have hsign : Derives .unary (op.token :: ts) (.unary op e) (d + 1) :=
      .sign h.derives.unary_of_primary
    exact .group (hsign.chain_of_unary .sum).expression_of_chain
  nesting_le := Nat.add_le_add_right h.nesting_le 2

theorem percent (h : Written e ts d) :
    Written (.percent e) (.parenOpen :: ((ts ++ [.percent]) ++ [.parenClose])) (d + 1) where
  lexes := by
    have htext : (Expr.percent e).render.toList = '(' :: ((e.render.toList ++ ['%']) ++ [')']) := by
      simp [Expr.render]
    rw [htext]
    exact (h.lexes.append (.symbol rfl (by decide) .nil) (.cons (by decide) [])).group
  derives := by
    have hunary : Derives .unary (ts ++ [.percent]) (.percent e) d := .unsigned (.percent h.derives)
    exact .group (hunary.chain_of_unary .sum).expression_of_chain
  nesting_le := Nat.succ_le_succ h.nesting_le

/-! ## Calls -/

/-- An argument is a tree that is written, as an expression of its own. -/
structure Arg (a : Argument) : Prop where
  lexes : Lexes a.expr.render.toList a.tokens
  derives : Derives .expression a.tokens a.expr a.nesting
  nesting_le : a.nesting ≤ a.expr.openings + 1

theorem arg (h : Written e ts d) : Arg ⟨ts, e, d + 1⟩ where
  lexes := h.lexes
  derives := h.derives.expression_of_primary
  nesting_le := Nat.succ_le_succ h.nesting_le

theorem exists_args {es : List Expr} (h : ∀ e ∈ es, ∃ ts d, Written e ts d) :
    ∃ args : List Argument, args.map Argument.expr = es ∧ ∀ a ∈ args, Arg a := by
  induction es with
  | nil => exact ⟨[], rfl, nofun⟩
  | cons e es ih =>
    obtain ⟨⟨ts, d, he⟩, hes⟩ := List.forall_mem_cons.mp h
    obtain ⟨args, rfl, hargs⟩ := ih hes
    exact ⟨⟨ts, e, d + 1⟩ :: args, rfl, List.forall_mem_cons.mpr ⟨he.arg, hargs⟩⟩

/-- Arguments are written with commas and blanks between them. -/
theorem lexes_args {args : List Argument} (h : ∀ a ∈ args, Arg a) :
    Lexes ([',', ' '].intercalate (args.map fun a => a.expr.render.toList))
      (Argument.list args) := by
  induction args with
  | nil => exact .nil
  | cons a args ih =>
    obtain ⟨ha, hargs⟩ := List.forall_mem_cons.mp h
    cases args with
    | nil => simpa using ha.lexes
    | cons b args =>
      rw [List.map_cons, List.map_cons, List.intercalate_cons_cons, Argument.list_cons_cons,
        List.append_assoc]
      exact ha.lexes.append (.symbol rfl (by decide) (ih hargs).blank) (.cons (by decide) _)

theorem call {name : String} {args : List Argument} (hname : Identifier name)
    (hupper : Unicode.upper name = name) (h : ∀ a ∈ args, Arg a) :
    Written (.call name (args.map Argument.expr))
      (.word name :: .parenOpen :: (Argument.list args ++ [.parenClose])) (Argument.depth args) where
  lexes := by
    have htext : (Expr.call name (args.map Argument.expr)).render.toList = name.toList ++
        ('(' :: ([',', ' '].intercalate (args.map fun a => a.expr.render.toList) ++ [')'])) := by
      simp [Expr.render, Expr.renderAll_eq, Function.comp_def]
    rw [htext]
    exact (Lexes.word hname).append (lexes_args h).group (.cons (by decide) _)
  derives := by
    have hderives : Derives .primary
        (.word name :: .parenOpen :: (Argument.list args ++ [.parenClose])) _ _ :=
      .call fun a ha => (h a ha).derives
    rwa [hupper] at hderives
  nesting_le := by
    refine Argument.depth_le fun a ha => (h a ha).nesting_le.trans ?_
    rw [Expr.openings, Expr.openingsAll_eq_foldr]
    exact Nat.succ_le_succ (le_foldr_max Expr.openings (List.mem_map_of_mem ha))

end Written

/-- A tree that can be written derives from its text as a primary. -/
theorem exists_written {e : Expr} (h : Writable e) : ∃ ts d, Written e ts d := by
  induction h with
  | number hfinite hsign => exact ⟨_, 0, .number hfinite hsign, .number, Nat.le_refl 0⟩
  | text s => exact ⟨_, 0, .text s, .text, Nat.le_refl 0⟩
  | bool b =>
    have hword : Identifier (if b then "TRUE" else "FALSE") := by
      cases b with
      | true => exact ⟨'T', ['R', 'U', 'E'], rfl, rfl, List.all_eq_true.mp rfl⟩
      | false => exact ⟨'F', ['A', 'L', 'S', 'E'], rfl, rfl, List.all_eq_true.mp rfl⟩
    exact ⟨_, 0, .word hword, .truth (by cases b <;> decide +kernel), Nat.le_refl 0⟩
  | ref hname htruth => exact ⟨_, 0, .word hname, .ref htruth, Nat.le_refl 0⟩
  | @binary op _ _ _ _ ihl ihr =>
    obtain ⟨ts, d, hl⟩ := ihl
    obtain ⟨us, d', hr⟩ := ihr
    exact ⟨_, _, hl.binary op hr⟩
  | @unary op _ _ ih =>
    obtain ⟨ts, d, he⟩ := ih
    exact ⟨_, _, he.unary op⟩
  | percent _ ih =>
    obtain ⟨ts, d, he⟩ := ih
    exact ⟨_, _, he.percent⟩
  | call hname hupper _ ih =>
    obtain ⟨args, rfl, hargs⟩ := Written.exists_args ih
    exact ⟨_, _, .call hname hupper hargs⟩

/-! ## Upper case -/

open Unicode (upper upperChar)

/-- A character of a word has one upper case, which is a character of a word and has itself
as its upper case. -/
def KeepsWord (c : Char) : Prop :=
  upperChar c = [c.toUpper] ∧ continuesWord c.toUpper = true ∧ upperChar c.toUpper = [c.toUpper] ∧
    (startsWord c = true → startsWord c.toUpper = true)

instance (c : Char) : Decidable (KeepsWord c) := inferInstanceAs (Decidable (_ ∧ _ ∧ _ ∧ _))

theorem keepsWord_table : ∀ n : Fin 128, continuesWord (Char.ofNat n) = true →
    KeepsWord (Char.ofNat n) := by decide +kernel

theorem keepsWord {c : Char} (hc : continuesWord c = true) : KeepsWord c := by
  have hlt : c.toNat < 128 := by
    simp only [continuesWord, Bool.or_eq_true, beq_iff_eq] at hc
    rcases hc with ((hc | hc) | rfl) | rfl
    · have := toNat_of_startsWord (c := c) (by simp [startsWord, hc])
      omega
    · have := toNat_of_isDigit hc
      omega
    · decide
    · decide
  have hkeeps := keepsWord_table ⟨c.toNat, hlt⟩
  rw [Char.ofNat_toNat] at hkeeps
  exact hkeeps hc

theorem flatMap_upperChar {cs : List Char} (h : ∀ x ∈ cs, continuesWord x = true) :
    cs.flatMap upperChar = cs.map Char.toUpper := by
  induction cs with
  | nil => rfl
  | cons c cs ih =>
    obtain ⟨hc, hcs⟩ := List.forall_mem_cons.mp h
    rw [List.flatMap_cons, (keepsWord hc).1, ih hcs]
    rfl

/-- The upper case of one word is one word, and its own upper case. -/
theorem Identifier.upper {name : String} (h : Identifier name) :
    Identifier (upper name) ∧ Unicode.upper (Unicode.upper name) = Unicode.upper name := by
  obtain ⟨c, cs, hname, hc, hcs⟩ := h
  have hall : ∀ x ∈ c :: cs, continuesWord x = true :=
    List.forall_mem_cons.mpr ⟨continuesWord_of_startsWord hc, hcs⟩
  have hmap : ∀ x ∈ (c :: cs).map Char.toUpper, continuesWord x = true := by
    intro x hx
    obtain ⟨y, hy, rfl⟩ := List.mem_map.mp hx
    exact (keepsWord (hall y hy)).2.1
  have hupper : (Unicode.upper name).toList = (c :: cs).map Char.toUpper := by
    rw [Unicode.upper, String.toList_ofList, hname, flatMap_upperChar hall]
  -- no character becomes more than one, so the cases stay in step with the characters
  refine ⟨⟨c.toUpper, cs.map Char.toUpper, hupper, ?_, ?_⟩, ?_⟩
  · exact (keepsWord (hall c List.mem_cons_self)).2.2.2 hc
  · exact fun x hx => hmap x (List.mem_cons_of_mem _ hx)
  · apply String.toList_inj.mp
    rw [Unicode.upper, String.toList_ofList, hupper, flatMap_upperChar hmap, List.map_map]
    refine List.map_congr_left fun x hx => ?_
    have hkeeps := keepsWord (hall x hx)
    have htwice := (keepsWord hkeeps.2.1).1
    rw [hkeeps.2.2.1] at htwice
    exact (List.cons.inj htwice).1.symm

/-! ## What is read can be written -/

/-- A number without a sign, one word, or another token. -/
def Token.Plain : Token → Prop
  | .number x => Layout.isNegative x = false
  | .word name => Identifier name
  | _ => True

theorem Lexeme.plain {l : List Char} {t : Token} (h : Lexeme l t) : t.Plain := by
  cases h with
  | symbol h => cases t <;> first | exact trivial | cases h
  | number h => exact h.not_negative
  | text h => exact trivial
  | @word c cs hc h => exact ⟨c, cs, String.toList_ofList, hc, h⟩

theorem Splits.plain {cs : List Char} {ts : List Token} (h : Splits cs ts) :
    ∀ t ∈ ts, t.Plain := by
  induction h with
  | nil => exact nofun
  | blank _ _ ih => exact ih
  | token hl _ ih => exact List.forall_mem_cons.mpr ⟨hl.lexeme.plain, ih⟩

theorem Argument.mem_list {args : List Argument} {a : Argument} (ha : a ∈ args) {t : Token}
    (ht : t ∈ a.tokens) : t ∈ Argument.list args := by
  induction args with
  | nil => cases ha
  | cons b args ih =>
    cases args with
    | nil =>
      obtain rfl := List.mem_singleton.mp ha
      rwa [list_singleton]
    | cons c args =>
      rw [list_cons_cons, List.mem_append, List.mem_cons]
      rcases List.mem_cons.mp ha with rfl | ha
      · exact .inl ht
      · exact .inr (.inr (ih ha))

theorem Expr.mem_literalsAll {es : List Expr} {e : Expr} (he : e ∈ es) {x : Float}
    (hx : x ∈ e.literals) : x ∈ literalsAll es := by
  induction es with
  | nil => cases he
  | cons a es ih =>
    rw [literalsAll, List.mem_append]
    rcases List.mem_cons.mp he with rfl | he
    · exact .inl hx
    · exact .inr (ih he)

/-- What derives from the tokens of a text can be written if its numbers are finite. -/
theorem Derives.writable {s : Symbol} {ts : List Token} {e : Expr} {d : Nat}
    (h : Derives s ts e d) (hts : ∀ t ∈ ts, t.Plain)
    (hfinite : ∀ x ∈ e.literals, x.isFinite = true) : Writable e := by
  induction h with
  | expression _ ih => exact ih hts hfinite
  | operand _ ih => exact ih hts hfinite
  | link _ _ ihl ihr =>
    obtain ⟨hl, hr⟩ := List.forall_mem_append.mp hts
    obtain ⟨hfl, hfr⟩ := List.forall_mem_append.mp hfinite
    exact .binary (ihl hl hfl) (ihr (List.forall_mem_cons.mp hr).2 hfr)
  | sign _ ih => exact .unary (ih (List.forall_mem_cons.mp hts).2 hfinite)
  | unsigned _ ih => exact ih hts hfinite
  | percent _ ih => exact .percent (ih (List.forall_mem_append.mp hts).1 hfinite)
  | plain _ ih => exact ih hts hfinite
  | number => exact .number (hfinite _ (List.mem_singleton_self _)) (hts _ (List.mem_singleton_self _))
  | text => exact .text _
  | truth => exact .bool _
  | ref htruth => exact .ref (hts _ (List.mem_singleton_self _)) htruth
  | @call name args _ ih =>
    obtain ⟨hname, hrest⟩ := List.forall_mem_cons.mp hts
    obtain ⟨hlist, -⟩ := List.forall_mem_append.mp (List.forall_mem_cons.mp hrest).2
    refine .call hname.upper.1 hname.upper.2 fun e he => ?_
    obtain ⟨a, ha, rfl⟩ := List.mem_map.mp he
    exact ih a ha (fun t ht => hlist t (Argument.mem_list ha ht))
      fun x hx => hfinite x (Expr.mem_literalsAll he hx)
  | group _ ih =>
    exact ih (List.forall_mem_append.mp (List.forall_mem_cons.mp hts).2).1 hfinite

namespace Formula

/-- What is rendered is read, if not too much is open in it. -/
theorem parse_render {e : Expr} (h : Writable e) (hopenings : e.openings ≤ 255) :
    parse e.render = .ok e := by
  obtain ⟨ts, d, hwritten⟩ := exists_written h
  have hheight : e.height ≤ depthLimit := by
    have hle := e.height_le_openings
    rw [depthLimit]
    omega
  -- the whole text is one expression more that is open
  have hnesting : d + 1 ≤ depthLimit := by
    have hle := hwritten.nesting_le
    rw [depthLimit]
    omega
  exact parse_of_splits hwritten.lexes.splits hwritten.derives.expression_of_primary hheight
    hnesting

/-- What is read can be written, if its numbers are finite. -/
theorem writable_of_parse {text : String} {e : Expr} (h : parse text = .ok e)
    (hfinite : ∀ x ∈ e.literals, x.isFinite = true) : Writable e := by
  obtain ⟨ts, d, position, hbegins, hderives, -⟩ := expression_eq_ok.mp ((parse_eq_ok text e).mp h)
  exact hderives.writable (splits_of_begins hbegins).plain hfinite

/-- The text of every tree that can be written, and in which no more than 255 expressions
and signs are open, is read back as the tree; and of the trees that reading gives, all
whose numbers are finite can be written. -/
theorem render_faithful :
    (∀ e : Expr, Writable e → e.openings ≤ 255 → parse e.render = .ok e) ∧
      ∀ (text : String) (e : Expr), parse text = .ok e →
        (∀ x ∈ e.literals, x.isFinite = true) → Writable e :=
  ⟨fun _ => parse_render, fun _ _ => writable_of_parse⟩

/-- A call with a fraction, a text that has to be escaped, and signs. -/
theorem render_faithful_call :
    let e : Expr := .call "IF" [.binary .mul (.number 0.5) (.text "a\"\\"),
      .unary .negate (.percent (.ref "x_1")), .bool true]
    Writable e ∧ e.openings ≤ 255 ∧ parse e.render = .ok e := by
  intro e
  have hname : Identifier "IF" := ⟨'I', ['F'], rfl, rfl, List.all_eq_true.mp rfl⟩
  have hcell : Identifier "x_1" := ⟨'x', ['_', '1'], rfl, rfl, List.all_eq_true.mp rfl⟩
  have hproduct : Writable (.binary .mul (.number 0.5) (.text "a\"\\")) :=
    .binary (.number (by decide +kernel) (by decide +kernel)) (.text _)
  have hsigns : Writable (.unary .negate (.percent (.ref "x_1"))) :=
    .unary (.percent (.ref hcell (by decide +kernel)))
  have hwritable : Writable e :=
    .call hname (by decide +kernel) (by simp [hproduct, hsigns, Writable.bool])
  have hopenings : e.openings ≤ 255 := by decide
  exact ⟨hwritable, hopenings, render_faithful.1 e hwritable hopenings⟩

end Formula

end Worksheet
