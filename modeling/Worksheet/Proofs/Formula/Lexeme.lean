import Mathlib.Data.List.TakeWhile
import Worksheet.Formula.Token

/- Worksheet Lexemes — which texts are which tokens, and how a text splits.

   A lexeme is the text of one token. A text splits into tokens if white space can
   be dropped and lexemes be taken off its front until nothing is left, where each
   lexeme has to be the longest that the text begins with. The kind of a lexeme can
   be told from its first character, so two lexemes that one text begins with are of
   one kind. -/
namespace Worksheet

/-- The text of a token that has only one. -/
def Token.symbol? : Token → Option (List Char)
  | plus => some ['+']
  | minus => some ['-']
  | star => some ['*']
  | slash => some ['/']
  | caret => some ['^']
  | percent => some ['%']
  | comma => some [',']
  | parenOpen => some ['(']
  | parenClose => some [')']
  | comparison op => some op.symbol.toList
  | number _ | text _ | word _ => none

/-- All characters are decimal digits. -/
def Digits (cs : List Char) : Prop := ∀ c ∈ cs, Token.isDigit c = true

/-- The texts of numbers: digits with at most one point before, among or after them. -/
inductive Numeral : List Char → Float → Prop
  | whole {cs : List Char} (h : Digits cs) (hne : cs ≠ []) :
      Numeral cs (Token.decimalValue cs [])
  | point {whole part : List Char} (hw : Digits whole) (hp : Digits part)
      (hne : whole ≠ [] ∨ part ≠ []) :
      Numeral (whole ++ '.' :: part) (Token.decimalValue whole part)

/-- The inside of a string literal and what it spells out: a backslash stands for the
character after it, and a quote only follows a backslash. -/
inductive Quoted : List Char → List Char → Prop
  | nil : Quoted [] []
  | plain {c : Char} {cs s : List Char} (hq : c ≠ '"') (hb : c ≠ '\\') (h : Quoted cs s) :
      Quoted (c :: cs) (c :: s)
  | escaped {c : Char} {cs s : List Char} (h : Quoted cs s) : Quoted ('\\' :: c :: cs) (c :: s)

/-- The texts of tokens. -/
inductive Lexeme : List Char → Token → Prop
  | symbol {cs : List Char} {t : Token} (h : t.symbol? = some cs) : Lexeme cs t
  | number {cs : List Char} {x : Float} (h : Numeral cs x) : Lexeme cs (.number x)
  | text {cs s : List Char} (h : Quoted cs s) :
      Lexeme ('"' :: (cs ++ ['"'])) (.text (String.ofList s))
  | word {c : Char} {cs : List Char} (hc : Token.startsWord c = true)
      (h : ∀ x ∈ cs, Token.continuesWord x = true) : Lexeme (c :: cs) (.word (String.ofList (c :: cs)))

/-- The token has the longest lexeme that the text `l ++ rest` begins with, and that
is `l`. -/
structure Longest (l rest : List Char) (t : Token) : Prop where
  lexeme : Lexeme l t
  longest : ∀ l' rest' t', l' ++ rest' = l ++ rest → Lexeme l' t' → l'.length ≤ l.length

/-- The text splits into the tokens, with white space wherever there is some. -/
inductive Splits : List Char → List Token → Prop
  | nil : Splits [] []
  | blank {c : Char} {cs : List Char} {ts : List Token} (hc : Unicode.isBlank c = true)
      (h : Splits cs ts) : Splits (c :: cs) ts
  | token {l rest : List Char} {t : Token} {ts : List Token} (hl : Longest l rest t)
      (h : Splits rest ts) : Splits (l ++ rest) (t :: ts)

/-! ## First characters -/

/-- The characters that symbols begin with. -/
def Token.symbolStarts : List Char := ['+', '-', '*', '/', '^', '%', ',', '(', ')', '=', '<', '>']

/-- The texts of symbols: one character, or a comparison of two. -/
theorem Token.symbol?_eq_some {t : Token} {c : Char} {cs : List Char}
    (h : t.symbol? = some (c :: cs)) :
    c ∈ symbolStarts ∧ (cs = [] ∨ c = '<' ∧ (cs = ['='] ∨ cs = ['>']) ∨ c = '>' ∧ cs = ['=']) := by
  cases t with
  | comparison op => cases op <;> cases h <;> decide
  | _ => cases h <;> decide

theorem Token.symbol?_ne_nil {t : Token} {cs : List Char} (h : t.symbol? = some cs) : cs ≠ [] := by
  cases t with
  | comparison op => cases op <;> cases h <;> decide
  | _ => cases h <;> decide

/-- The symbol that a text is. -/
def Token.ofSymbol? : List Char → Option Token
  | ['+'] => some plus
  | ['-'] => some minus
  | ['*'] => some star
  | ['/'] => some slash
  | ['^'] => some caret
  | ['%'] => some percent
  | [','] => some comma
  | ['('] => some parenOpen
  | [')'] => some parenClose
  | ['='] => some (comparison .equal)
  | ['<', '>'] => some (comparison .notEqual)
  | ['<'] => some (comparison .less)
  | ['<', '='] => some (comparison .lessEqual)
  | ['>'] => some (comparison .greater)
  | ['>', '='] => some (comparison .greaterEqual)
  | _ => none

theorem Token.ofSymbol?_eq_some {t : Token} {cs : List Char} (h : t.symbol? = some cs) :
    ofSymbol? cs = some t := by
  cases t with
  | comparison op => cases op <;> cases h <;> rfl
  | _ => cases h <;> rfl

/-- A symbol is told by its text. -/
theorem Token.symbol?_inj {t t' : Token} {cs : List Char} (h : t.symbol? = some cs)
    (h' : t'.symbol? = some cs) : t = t' :=
  Option.some.inj ((ofSymbol?_eq_some h).symm.trans (ofSymbol?_eq_some h'))

section

open Token

variable {c : Char}

theorem toNat_of_isDigit (h : isDigit c = true) : 48 ≤ c.toNat ∧ c.toNat ≤ 57 := by
  simpa [isDigit, Char.le_def, UInt32.le_iff_toNat_le] using h

theorem toNat_of_startsWord (h : startsWord c = true) :
    (65 ≤ c.toNat ∧ c.toNat ≤ 90) ∨ (97 ≤ c.toNat ∧ c.toNat ≤ 122) ∨ c.toNat = 95 := by
  simp only [startsWord, isLetter, Bool.or_eq_true, Bool.and_eq_true, decide_eq_true_eq,
    Char.le_def, UInt32.le_iff_toNat_le, beq_iff_eq] at h
  rcases h with (h | h) | rfl
  · exact .inl h
  · exact .inr (.inl h)
  · exact .inr (.inr rfl)

theorem toNat_of_mem_symbolStarts (h : c ∈ symbolStarts) :
    33 ≤ c.toNat ∧ c.toNat ≤ 94 ∧ ¬ (48 ≤ c.toNat ∧ c.toNat ≤ 57) ∧
      ¬ (65 ≤ c.toNat ∧ c.toNat ≤ 90) ∧ c.toNat ≠ 34 ∧ c.toNat ≠ 46 := by
  simp only [symbolStarts, List.mem_cons, List.not_mem_nil, or_false] at h
  rcases h with rfl | rfl | rfl | rfl | rfl | rfl | rfl | rfl | rfl | rfl | rfl | rfl <;> decide

/-- No visible ASCII character is white space. -/
theorem isBlank_eq_false (h : 33 ≤ c.toNat ∧ c.toNat ≤ 126) : Unicode.isBlank c = false := by
  rw [Bool.eq_false_iff]
  intro hb
  obtain ⟨r, hr, hin⟩ := List.any_eq_true.mp hb
  have hout : ∀ r ∈ Unicode.blanks.ranges, r.2 ≤ 32 ∨ 127 ≤ r.1 := by decide
  rw [Bool.and_eq_true, decide_eq_true_eq, decide_eq_true_eq] at hin
  have := hout r hr
  omega

/-- A numeral begins with a digit or a point. -/
theorem Numeral.head {cs : List Char} {x : Float} (h : Numeral cs x) :
    ∃ c l, cs = c :: l ∧ (isDigit c = true ∨ c = '.') := by
  cases h with
  | whole h hne =>
    obtain ⟨c, l, rfl⟩ := List.exists_cons_of_ne_nil hne
    exact ⟨c, l, rfl, .inl (h c List.mem_cons_self)⟩
  | @point whole part hw hp hne =>
    cases whole with
    | nil => exact ⟨'.', part, rfl, .inr rfl⟩
    | cons c l => exact ⟨c, _, rfl, .inl (hw c List.mem_cons_self)⟩

theorem toNat_of_numeral {l : List Char} {x : Float} (h : Numeral (c :: l) x) :
    (48 ≤ c.toNat ∧ c.toNat ≤ 57) ∨ c.toNat = 46 := by
  obtain ⟨c', l', heq, hc⟩ := h.head
  obtain ⟨rfl, rfl⟩ := List.cons.inj heq
  rcases hc with hc | rfl
  · exact .inl (toNat_of_isDigit hc)
  · exact .inr rfl

/-! ## Lexemes by their first character -/

variable {l : List Char} {t : Token}

/-- The characters that lexemes begin with. -/
inductive Start : Char → Prop
  | symbol {c : Char} (h : c ∈ symbolStarts) : Start c
  | numeral {c : Char} (h : isDigit c = true ∨ c = '.') : Start c
  | quote : Start '"'
  | word {c : Char} (h : startsWord c = true) : Start c

theorem Lexeme.head {ls : List Char} (h : Lexeme ls t) : ∃ c l, ls = c :: l ∧ Start c := by
  cases h with
  | symbol h =>
    obtain ⟨c, l, rfl⟩ := List.exists_cons_of_ne_nil (symbol?_ne_nil h)
    exact ⟨c, l, rfl, .symbol (symbol?_eq_some h).1⟩
  | number h =>
    obtain ⟨c, l, heq, hc⟩ := h.head
    exact ⟨c, l, heq, .numeral hc⟩
  | text h => exact ⟨_, _, rfl, .quote⟩
  | word hc h => exact ⟨_, _, rfl, .word hc⟩

/-- White space never begins a lexeme. -/
theorem Start.not_blank (h : Start c) : Unicode.isBlank c = false := by
  refine isBlank_eq_false ?_
  cases h with
  | symbol h =>
    have := toNat_of_mem_symbolStarts h
    omega
  | numeral h =>
    rcases h with h | rfl
    · have := toNat_of_isDigit h
      omega
    · decide
  | quote => decide
  | word h =>
    have := toNat_of_startsWord h
    omega

theorem Lexeme.of_symbolStart (hc : c ∈ symbolStarts) (h : Lexeme (c :: l) t) :
    t.symbol? = some (c :: l) := by
  have hnat := toNat_of_mem_symbolStarts hc
  cases h with
  | symbol h => exact h
  | number h =>
    have := toNat_of_numeral h
    omega
  | text h => exact absurd rfl hnat.2.2.2.2.1
  | word hw h =>
    have := toNat_of_startsWord hw
    omega

theorem Lexeme.of_numeralStart (hc : isDigit c = true ∨ c = '.') (h : Lexeme (c :: l) t) :
    ∃ x, Numeral (c :: l) x ∧ t = .number x := by
  have hnat : (48 ≤ c.toNat ∧ c.toNat ≤ 57) ∨ c.toNat = 46 := by
    rcases hc with hc | rfl
    · exact .inl (toNat_of_isDigit hc)
    · exact .inr rfl
  cases h with
  | symbol h =>
    have := toNat_of_mem_symbolStarts (symbol?_eq_some h).1
    omega
  | number h => exact ⟨_, h, rfl⟩
  | text h => exact absurd hnat (by decide)
  | word hw h =>
    have := toNat_of_startsWord hw
    omega

theorem Lexeme.of_quote (h : Lexeme ('"' :: l) t) :
    ∃ cs s, l = cs ++ ['"'] ∧ Quoted cs s ∧ t = .text (String.ofList s) := by
  cases h with
  | symbol h => exact absurd (symbol?_eq_some h).1 (by decide)
  | number h => exact absurd (toNat_of_numeral h) (by decide)
  | text h => exact ⟨_, _, rfl, h, rfl⟩
  | word hw h => exact absurd hw (by decide)

theorem Lexeme.of_wordStart (hc : startsWord c = true) (h : Lexeme (c :: l) t) :
    (∀ x ∈ l, continuesWord x = true) ∧ t = .word (String.ofList (c :: l)) := by
  have hnat := toNat_of_startsWord hc
  cases h with
  | symbol h =>
    have := toNat_of_mem_symbolStarts (symbol?_eq_some h).1
    omega
  | number h =>
    have := toNat_of_numeral h
    omega
  | text h => exact absurd hc (by decide)
  | word hw h => exact ⟨h, rfl⟩

end

/-! ## Numerals -/

section

open Token

theorem takeWhile_digits {w r : List Char} (h : Digits w) :
    (w ++ r).takeWhile isDigit = w ++ r.takeWhile isDigit := List.takeWhile_append_of_pos h

theorem dropWhile_digits {w r : List Char} (h : Digits w) :
    (w ++ r).dropWhile isDigit = r.dropWhile isDigit := List.dropWhile_append_of_pos h

/-- The front of a text that satisfies a condition, where what comes after it does not. -/
theorem split_front {p : Char → Bool} {front rest : List Char} (hfront : ∀ c ∈ front, p c = true)
    (hrest : ∀ c ∈ rest.head?, p c = false) :
    (front ++ rest).takeWhile p = front ∧ (front ++ rest).dropWhile p = rest := by
  rw [List.takeWhile_append_of_pos hfront, List.dropWhile_append_of_pos hfront]
  cases rest with
  | nil => exact ⟨List.append_nil front, rfl⟩
  | cons c cs =>
    have hc : ¬ p c = true := Bool.not_eq_true _ ▸ hrest c rfl
    rw [List.takeWhile_cons_of_neg hc, List.dropWhile_cons_of_neg hc, List.append_nil]
    exact ⟨rfl, rfl⟩

/-- Digits that a text begins with are among all its digits at the front. -/
theorem length_le_takeWhile {w r cs : List Char} (h : Digits w) (heq : w ++ r = cs) :
    w.length ≤ (cs.takeWhile isDigit).length := by
  calc w.length ≤ w.length + (r.takeWhile isDigit).length := Nat.le_add_right ..
    _ = (w ++ r.takeWhile isDigit).length := List.length_append.symm
    _ = (cs.takeWhile isDigit).length := by rw [← takeWhile_digits h, heq]

/-- Where a numeral has its point the digits at the front end. -/
theorem split_point {w r cs : List Char} (h : Digits w) (heq : w ++ '.' :: r = cs) :
    cs.takeWhile isDigit = w ∧ cs.dropWhile isDigit = '.' :: r := by
  rw [← heq, takeWhile_digits h, dropWhile_digits h]
  exact ⟨by rw [List.takeWhile_cons_of_neg (by decide), List.append_nil],
    List.dropWhile_cons_of_neg (by decide)⟩

/-- The number that a numeral denotes, from the digits before and after its point. -/
theorem Numeral.eq_value {cs : List Char} {x : Float} (h : Numeral cs x) :
    x = match cs.dropWhile isDigit with
      | '.' :: part => decimalValue (cs.takeWhile isDigit) part
      | _ => decimalValue (cs.takeWhile isDigit) [] := by
  cases h with
  | whole h hne =>
    have htake := takeWhile_digits (r := []) h
    have hdrop := dropWhile_digits (r := []) h
    rw [List.append_nil] at htake hdrop
    rw [htake, hdrop, List.takeWhile_nil, List.append_nil]
    rfl
  | point hw hp hne =>
    obtain ⟨htake, hdrop⟩ := split_point hw rfl
    rw [htake, hdrop]
    rfl

end

/-! ## String literals -/

/-- What is quoted ends at the first quote that no backslash stands before. -/
theorem Quoted.unique {cs cs' s s' r r' : List Char} (h : Quoted cs s) (h' : Quoted cs' s')
    (heq : cs ++ '"' :: r = cs' ++ '"' :: r') : cs = cs' ∧ s = s' := by
  induction h generalizing cs' s' with
  | nil =>
    cases h' with
    | nil => exact ⟨rfl, rfl⟩
    | plain hq hb h' => exact absurd (List.cons.inj heq).1.symm hq
    | escaped h' => exact absurd (List.cons.inj heq).1 (by decide)
  | plain hq hb h ih =>
    cases h' with
    | nil => exact absurd (List.cons.inj heq).1 hq
    | plain hq' hb' h' =>
      obtain ⟨rfl, htail⟩ := List.cons.inj heq
      obtain ⟨rfl, rfl⟩ := ih h' htail
      exact ⟨rfl, rfl⟩
    | escaped h' => exact absurd (List.cons.inj heq).1 hb
  | escaped h ih =>
    cases h' with
    | nil => exact absurd (List.cons.inj heq).1 (by decide)
    | plain hq' hb' h' => exact absurd (List.cons.inj heq).1.symm hb'
    | escaped h' =>
      obtain ⟨rfl, htail⟩ := List.cons.inj (List.cons.inj heq).2
      obtain ⟨rfl, rfl⟩ := ih h' htail
      exact ⟨rfl, rfl⟩

/-! ## One token for a text -/

/-- A lexeme is the text of one token. -/
theorem Lexeme.inj {l : List Char} {t t' : Token} (h : Lexeme l t) (h' : Lexeme l t') : t = t' := by
  obtain ⟨c, l, rfl, hc⟩ := h.head
  -- both lexemes are of the kind that their first character tells
  cases hc with
  | symbol hc => exact Token.symbol?_inj (h.of_symbolStart hc) (h'.of_symbolStart hc)
  | numeral hc =>
    obtain ⟨x, hx, rfl⟩ := h.of_numeralStart hc
    obtain ⟨y, hy, rfl⟩ := h'.of_numeralStart hc
    rw [hx.eq_value, hy.eq_value]
  | quote =>
    obtain ⟨cs, s, rfl, hs, rfl⟩ := h.of_quote
    obtain ⟨cs', s', heq, hs', rfl⟩ := h'.of_quote
    have htext : cs ++ '"' :: [] = cs' ++ '"' :: [] := heq
    obtain ⟨rfl, rfl⟩ := hs.unique hs' htext
    rfl
  | word hc =>
    obtain ⟨-, rfl⟩ := h.of_wordStart hc
    obtain ⟨-, rfl⟩ := h'.of_wordStart hc
    rfl

/-- A text begins with one longest lexeme. -/
theorem Longest.unique {l l' rest rest' : List Char} {t t' : Token} (h : Longest l rest t)
    (h' : Longest l' rest' t') (heq : l ++ rest = l' ++ rest') : l = l' ∧ rest = rest' ∧ t = t' := by
  have hlength : l.length = l'.length :=
    Nat.le_antisymm (h'.longest l rest t heq h.lexeme) (h.longest l' rest' t' heq.symm h'.lexeme)
  obtain ⟨rfl, rfl⟩ := List.append_inj heq hlength
  exact ⟨rfl, rfl, h.lexeme.inj h'.lexeme⟩

end Worksheet
