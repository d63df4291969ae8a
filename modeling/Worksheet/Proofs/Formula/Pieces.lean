import Worksheet.Proofs.Formula.Lookahead
import Worksheet.Proofs.Formula.Parsing

/- Worksheet Pieces — the front of a text, cut after a token.

   If a lexeme begins with another, one more character makes a lexeme of the shorter one
   too (`Lexeme.cut`). So whether a lexeme is the longest shows in the character after it,
   and the front of a text keeps its tokens whatever comes after it, as long as that begins
   with the same character or with white space (`Pieces.change`). -/
namespace Worksheet

open Token Tokens

variable {c d : Char} {cs l m rest rest' : List Char} {t t' : Token}

/-! ## One more character -/

theorem continuesWord_cases (h : continuesWord d = true) :
    startsWord d = true ∨ isDigit d = true ∨ d = '.' := by
  simp only [continuesWord, Bool.or_eq_true, beq_iff_eq] at h
  simp only [startsWord, Bool.or_eq_true, beq_iff_eq]
  tauto

theorem not_blank_of_continuesWord (h : continuesWord d = true) : Unicode.isBlank d = false := by
  rcases continuesWord_cases h with h | h
  · exact (Start.word h).not_blank
  · exact (Start.numeral h).not_blank

/-- Digits with a point after them. -/
theorem Numeral.point_end (hne : l ≠ []) (h : Digits l) :
    Numeral (l ++ ['.']) (decimalValue l []) := .point h (List.forall_mem_nil _) (.inl hne)

theorem Numeral.cut {x y : Float} (hl : l ≠ []) (h : Numeral l x) (h' : Numeral (l ++ d :: m) y) :
    (∃ z, Numeral (l ++ [d]) z) ∧ (isDigit d = true ∨ d = '.') := by
  generalize htext : l ++ d :: m = text at h'
  cases h' with
  | whole hd hne =>
    subst htext
    refine ⟨⟨_, .whole (fun x hx => hd x ?_) (by simp)⟩, .inl (hd d (by simp))⟩
    simp only [List.mem_append, List.mem_cons] at hx ⊢
    tauto
  | @point whole part hw hp hne =>
    rcases List.append_eq_append_iff.mp htext with ⟨ws, rfl, hws⟩ | ⟨ps, rfl, hps⟩
    · -- the shorter one ends among the digits before the point
      cases ws with
      | nil =>
        obtain ⟨rfl, -⟩ := List.cons.inj hws
        rw [List.append_nil] at hw
        exact ⟨⟨_, Numeral.point_end hl hw⟩, .inr rfl⟩
      | cons b ws =>
        obtain ⟨rfl, -⟩ := List.cons.inj hws
        refine ⟨⟨_, .whole (fun x hx => hw x ?_) (by simp)⟩, .inl (hw d (by simp))⟩
        simp only [List.mem_append, List.mem_cons] at hx ⊢
        tauto
    · cases ps with
      | nil =>
        obtain ⟨rfl, -⟩ := List.cons.inj hps
        rw [List.append_nil] at hl ⊢
        exact ⟨⟨_, Numeral.point_end hl hw⟩, .inr rfl⟩
      | cons b ps =>
        obtain ⟨rfl, rfl⟩ := List.cons.inj hps
        refine ⟨⟨decimalValue whole (ps ++ [d]), ?_⟩, .inl (hp d (by simp))⟩
        rw [List.append_assoc, List.cons_append]
        refine .point hw (fun x hx => hp x ?_) (.inr (by simp))
        show x ∈ ps ++ d :: m
        simp only [List.mem_append, List.mem_cons] at hx ⊢
        tauto

theorem Lexeme.cut (h : Lexeme l t) (h' : Lexeme (l ++ d :: m) t') :
    (∃ t'', Lexeme (l ++ [d]) t'') ∧ Unicode.isBlank d = false := by
  obtain ⟨c, l, rfl, hc⟩ := h.head
  rw [List.cons_append] at h'
  cases hc with
  | symbol hc =>
    -- the longer one is a comparison of two characters
    have hsymbol := (symbol?_eq_some (h'.of_symbolStart hc)).2
    obtain ⟨b, hb, hblank⟩ : ∃ b, l ++ d :: m = [b] ∧ Unicode.isBlank b = false := by
      rcases hsymbol with hnil | ⟨-, heq | heq⟩ | ⟨-, heq⟩
      · exact absurd hnil (by simp)
      · exact ⟨_, heq, by decide⟩
      · exact ⟨_, heq, by decide⟩
      · exact ⟨_, heq, by decide⟩
    obtain ⟨rfl, hdm⟩ := (List.append_eq_singleton_iff.mp hb).resolve_right (by simp)
    obtain ⟨rfl, rfl⟩ := List.cons.inj hdm
    exact ⟨⟨_, h'⟩, hblank⟩
  | numeral hc =>
    obtain ⟨x, hx, -⟩ := h.of_numeralStart hc
    obtain ⟨y, hy, -⟩ := h'.of_numeralStart hc
    obtain ⟨⟨z, hz⟩, hd⟩ := hx.cut (List.cons_ne_nil c l) hy
    exact ⟨⟨_, .number hz⟩, (Start.numeral hd).not_blank⟩
  | quote =>
    obtain ⟨body, s, rfl, hs, -⟩ := h.of_quote
    obtain ⟨body', s', heq, hs', -⟩ := h'.of_quote
    have hquote : body ++ '"' :: (d :: m) = body' ++ '"' :: [] := by
      rwa [List.append_cons]
    obtain ⟨rfl, -⟩ := hs.unique hs' hquote
    simp at hquote
  | word hc =>
    obtain ⟨hword, -⟩ := h'.of_wordStart hc
    refine ⟨⟨_, .word hc fun x hx => hword x ?_⟩, not_blank_of_continuesWord (hword d (by simp))⟩
    have hx : x ∈ l ++ [d] := hx
    simp only [List.mem_append, List.mem_cons] at hx ⊢
    tauto

/-! ## The longest lexeme -/

/-- The text that comes next begins with the same character, or with white space, or it is
at its end. -/
def Agrees (rest rest' : List Char) : Prop :=
  ∀ d ∈ rest'.head?, Unicode.isBlank d = true ∨ d ∈ rest.head?

theorem Agrees.of_head (h : rest'.head? = rest.head?) : Agrees rest rest' := fun _ hd =>
  .inr (h ▸ hd)

theorem Agrees.nil : Agrees rest [] := fun _ hd => by cases hd

theorem Agrees.append (h : Agrees rest rest') (l : List Char) : Agrees (l ++ rest) (l ++ rest') := by
  cases l with
  | nil => exact h
  | cons c l => exact .of_head rfl

/-- The longest lexeme at the front of a text stays the longest. -/
theorem Longest.change (h : Longest l rest t) (hrest : Agrees rest rest') : Longest l rest' t where
  lexeme := h.lexeme
  longest l' rest'' t' heq h' := by
    by_contra hlt
    -- a longer lexeme goes on with the first character of what comes next
    rcases List.append_eq_append_iff.mp heq with ⟨ls, rfl, -⟩ | ⟨ls, rfl, hls⟩
    · rw [List.length_append] at hlt
      omega
    · cases ls with
      | nil => simp at hlt
      | cons d ls =>
        obtain ⟨⟨t'', hd⟩, hblank⟩ := h.lexeme.cut h'
        rcases hrest d (by rw [hls]; rfl) with hd' | hd'
        · exact absurd hd' (Bool.eq_false_iff.mp hblank)
        · obtain ⟨rs, rfl⟩ : ∃ rs, rest = d :: rs := List.head?_eq_some_iff.mp hd'
          have hle := h.longest (l ++ [d]) rs t'' (by simp) hd
          rw [List.length_append, List.length_singleton] at hle
          omega

/-- The token that is scanned at the front of a text. After a number there is no point. -/
structure Scanned (l rest : List Char) (t : Token) : Prop where
  longest : Longest l rest t
  point : t.isNumber = true → '.' ∉ rest.head?

theorem Longest.scanned (h : Longest l rest t) (ht : t.isNumber = false) : Scanned l rest t :=
  ⟨h, fun hnumber => absurd hnumber (Bool.eq_false_iff.mp ht)⟩

theorem Scanned.change (h : Scanned l rest t) (hrest : Agrees rest rest') : Scanned l rest' t where
  longest := h.longest.change hrest
  point ht hpoint := by
    rcases hrest '.' hpoint with hblank | hpoint'
    · exact absurd hblank (by decide)
    · exact h.point ht hpoint'

/-! ## What a scan finds -/

/-- What the scanner finds in front of a text that begins with a character: a token, a
number with a second point right after it, or nothing. -/
inductive Finds (c : Char) : List Char → Except (TokenFault × Nat) (Token × Nat) → Prop
  | token {l rest : List Char} {t : Token} (h : Scanned (c :: l) rest t) :
      Finds c (l ++ rest) (.ok (t, l.length + 1))
  | point {l rest : List Char} {x : Float} (h : Longest (c :: l) ('.' :: rest) (.number x)) :
      Finds c (l ++ '.' :: rest) (.error (.secondPoint, l.length + 1))
  | char {cs : List Char} (hc : c ≠ '"')
      (h : ∀ l rest t, l ++ rest = c :: cs → ¬ Lexeme l t) :
      Finds c cs (.error (.unexpectedChar c, 0))
  | quote {cs : List Char} (hc : c = '"')
      (h : ∀ l rest t, l ++ rest = c :: cs → ¬ Lexeme l t) :
      Finds c cs (.error (.unterminatedText, 0))

theorem finds_number (hc : StartsNumber c cs) : Finds c cs (scanNumber (c :: cs)) := by
  have htoken : ∀ l rest t, l ++ rest = c :: cs → Scanned l rest t →
      Finds c cs (.ok (t, l.length)) := by
    intro l rest t heq h
    obtain ⟨c', l, rfl, -⟩ := h.longest.lexeme.head
    obtain ⟨rfl, rfl⟩ := List.cons.inj heq
    exact .token h
  unfold scanNumber
  dsimp only
  split
  · rename_i rest hdrop
    obtain ⟨htext, hlongest⟩ := longest_point hc hdrop
    have hlength : ((c :: cs).takeWhile isDigit ++ '.' :: rest.takeWhile isDigit).length =
        ((c :: cs).takeWhile isDigit).length + 1 + (rest.takeWhile isDigit).length := by
      rw [List.length_append, List.length_cons]
      omega
    rw [← hlength]
    split
    · rename_i rest' hsecond
      rw [hsecond] at htext hlongest
      generalize hl : (c :: cs).takeWhile isDigit ++ '.' :: rest.takeWhile isDigit = l at *
      obtain ⟨c', l, rfl, -⟩ := hlongest.lexeme.head
      obtain ⟨rfl, rfl⟩ := List.cons.inj htext
      exact .point hlongest
    · rename_i hsecond
      refine htoken _ _ _ htext ⟨hlongest, fun _ hpoint => ?_⟩
      obtain ⟨rest', hrest⟩ := List.head?_eq_some_iff.mp hpoint
      exact hsecond rest' hrest
  · rename_i hdrop
    refine htoken _ _ _ List.takeWhile_append_dropWhile ⟨longest_whole hc hdrop, fun _ hpoint => ?_⟩
    obtain ⟨rest', hrest⟩ := List.head?_eq_some_iff.mp hpoint
    exact hdrop rest' hrest

/-- What the scanner finds besides numbers are tokens that are no numbers, or faults of
its own. -/
theorem scan_cases (c : Char) (cs : List Char) :
    (StartsNumber c cs ∧ Token.scan c cs = scanNumber (c :: cs)) ∨
    (∃ t n, Token.scan c cs = .ok (t, n) ∧ t.isNumber = false) ∨
    (c ≠ '"' ∧ Token.scan c cs = .error (.unexpectedChar c, 0)) ∨
    (c = '"' ∧ Token.scan c cs = .error (.unterminatedText, 0)) := by
  unfold Token.scan
  split
  case h_16 =>
    split
    · exact .inr (.inl ⟨_, _, rfl, rfl⟩)
    · exact .inr (.inr (.inr ⟨rfl, rfl⟩))
  case h_17 =>
    have hquote : c ≠ '"' := ‹c = '"' → False›
    split
    · rename_i hstart
      rw [Bool.or_eq_true, Bool.and_eq_true, beq_iff_eq] at hstart
      exact .inl ⟨hstart, rfl⟩
    · split
      · exact .inr (.inl ⟨_, _, rfl, rfl⟩)
      · exact .inr (.inr (.inl ⟨hquote, rfl⟩))
  all_goals exact .inr (.inl ⟨_, _, rfl, rfl⟩)

theorem scan_finds (c : Char) (cs : List Char) : Finds c cs (Token.scan c cs) := by
  have hspec := scan_spec c cs
  rcases scan_cases c cs with ⟨hc, heq⟩ | ⟨t, n, heq, ht⟩ | ⟨hc, heq⟩ | ⟨hc, heq⟩
  · rw [heq]
    exact finds_number hc
  · rw [heq] at hspec ⊢
    obtain ⟨l, rest, htext, rfl, hlongest⟩ := hspec
    obtain ⟨c', l, rfl, -⟩ := hlongest.lexeme.head
    obtain ⟨rfl, rfl⟩ := List.cons.inj htext
    exact .token (hlongest.scanned ht)
  · rw [heq] at hspec ⊢
    exact .char hc hspec
  · rw [heq] at hspec ⊢
    exact .quote hc hspec

/-- The token that is scanned is found. -/
theorem Scanned.scan_eq (h : Scanned (c :: l) rest t) :
    Token.scan c (l ++ rest) = .ok (t, l.length + 1) := by
  have hfinds := scan_finds c (l ++ rest)
  generalize Token.scan c (l ++ rest) = found at hfinds ⊢
  generalize hcs : l ++ rest = cs at hfinds
  have htext : (c :: l) ++ rest = c :: cs := congrArg (c :: ·) hcs
  cases hfinds with
  | @token l' rest' t' h' =>
    obtain ⟨hl, -, rfl⟩ := h.longest.unique h'.longest htext
    obtain ⟨-, rfl⟩ := List.cons.inj hl
    rfl
  | @point l' rest' x h' =>
    obtain ⟨-, rfl, rfl⟩ := h.longest.unique h' htext
    exact absurd rfl (h.point rfl)
  | char _ h' => exact absurd h.longest.lexeme (h' _ _ _ htext)
  | quote _ h' => exact absurd h.longest.lexeme (h' _ _ _ htext)

/-- A text that a token is scanned from begins with its lexeme. -/
theorem lexeme_of_scan {n : Nat} (h : Token.scan c cs = .ok (t, n)) :
    ∃ l rest, cs = l ++ rest ∧ Scanned (c :: l) rest t := by
  have hfinds := scan_finds c cs
  rw [h] at hfinds
  cases hfinds with
  | token hscanned => exact ⟨_, _, rfl, hscanned⟩

theorem Lexeme.numeral {x : Float} (h : Lexeme l (.number x)) : Numeral l x := by
  cases h with
  | symbol h => cases h
  | number h => exact h

theorem symbol?_cases (h : t.symbol? = some (c :: l)) :
    (∃ op, t = .comparison op) ∧ c ∈ ['=', '<', '>'] ∨ l = [] ∧ c ∉ ['=', '<', '>'] := by
  cases t with
  | comparison op => exact .inl ⟨⟨op, rfl⟩, by cases op <;> cases h <;> decide⟩
  | _ => cases h <;> exact .inr ⟨rfl, by decide⟩

/-- The first character of a lexeme tells the kind of the token. -/
theorem Lexeme.alike {l' : List Char} (h : Lexeme (c :: l) t) (h' : Lexeme (c :: l') t') :
    t.Alike t' := by
  obtain ⟨c', l₀, heq, hc⟩ := h.head
  obtain ⟨rfl, rfl⟩ := List.cons.inj heq
  cases hc with
  | symbol hc =>
    have hsymbol := h.of_symbolStart hc
    have hsymbol' := h'.of_symbolStart hc
    rcases symbol?_cases hsymbol with ⟨⟨op, rfl⟩, hcmp⟩ | ⟨rfl, hcmp⟩
    · rcases symbol?_cases hsymbol' with ⟨⟨op', rfl⟩, -⟩ | ⟨-, hcmp'⟩
      · exact .comparison op op'
      · exact absurd hcmp hcmp'
    · rcases symbol?_cases hsymbol' with ⟨-, hcmp'⟩ | ⟨rfl, -⟩
      · exact absurd hcmp' hcmp
      · obtain rfl := symbol?_inj hsymbol hsymbol'
        exact .refl t
  | numeral hc =>
    obtain ⟨x, -, rfl⟩ := h.of_numeralStart hc
    obtain ⟨y, -, rfl⟩ := h'.of_numeralStart hc
    exact .number x y
  | quote =>
    obtain ⟨-, s, -, -, rfl⟩ := h.of_quote
    obtain ⟨-, s', -, -, rfl⟩ := h'.of_quote
    exact .text ..
  | word hc =>
    obtain ⟨-, rfl⟩ := h.of_wordStart hc
    obtain ⟨-, rfl⟩ := h'.of_wordStart hc
    exact .word ..

/-! ## Pieces -/

/-- A text in front of another is cut into the lexemes of some tokens and white space. -/
inductive Pieces : List Char → List Token → List Char → Prop
  | nil {rest : List Char} : Pieces [] [] rest
  | blank {c : Char} {cs rest : List Char} {ts : List Token} (hc : Unicode.isBlank c = true)
      (h : Pieces cs ts rest) : Pieces (c :: cs) ts rest
  | token {l cs rest : List Char} {t : Token} {ts : List Token} (hl : Scanned l (cs ++ rest) t)
      (h : Pieces cs ts rest) : Pieces (l ++ cs) (t :: ts) rest

namespace Pieces

variable {ts us : List Token}

theorem blanks {blanks : List Char} (hblanks : ∀ c ∈ blanks, Unicode.isBlank c = true)
    (h : Pieces cs ts rest) : Pieces (blanks ++ cs) ts rest := by
  induction blanks with
  | nil => exact h
  | cons c blanks ih =>
    obtain ⟨hc, hblanks⟩ := List.forall_mem_cons.mp hblanks
    exact .blank hc (ih hblanks)

/-- A text keeps its pieces in front of any text that goes on in the same way. -/
theorem change (h : Pieces cs ts rest) (hrest : Agrees rest rest') : Pieces cs ts rest' := by
  induction h with
  | nil => exact .nil
  | blank hc _ ih => exact .blank hc (ih hrest)
  | @token l cs rest t ts hl _ ih => exact .token (hl.change (hrest.append cs)) (ih hrest)

theorem splits (h : Pieces cs ts rest) (hrest : Splits rest us) : Splits (cs ++ rest) (ts ++ us) := by
  induction h with
  | nil => exact hrest
  | blank hc _ ih => exact .blank hc (ih hrest)
  | token hl _ ih =>
    rw [List.append_assoc]
    exact .token hl.longest (ih hrest)

theorem splits_end (h : Pieces cs ts []) : Splits cs ts := by
  have hsplits := h.splits .nil
  rwa [List.append_nil, List.append_nil] at hsplits

/-- The stream of a text begins with the tokens of its pieces. -/
theorem begins (h : Pieces cs ts rest) (position : Nat) :
    Begins (Tokens.scan position 0 (cs ++ rest)) ts
      (Tokens.scan (position + byteLength cs) 0 rest) := by
  induction h generalizing position with
  | nil => exact .nil
  | blank hc _ ih =>
    rw [List.cons_append, scan_blank hc, byteLength, ← Nat.add_assoc]
    exact ih _
  | @token l cs rest t ts hl _ ih =>
    obtain ⟨c, l, rfl, hstart⟩ := hl.longest.lexeme.head
    rw [List.append_assoc, List.cons_append, scan_token hstart.not_blank hl.scan_eq,
      byteLength_append, ← Nat.add_assoc]
    exact .cons (ih _)

end Pieces

/-- A text with the white space at its front taken off. -/
theorem exists_front (text : List Char) :
    ∃ blanks rest, text = blanks ++ rest ∧ (∀ c ∈ blanks, Unicode.isBlank c = true) ∧
      ∀ c ∈ rest.head?, Unicode.isBlank c = false := by
  refine ⟨text.takeWhile Unicode.isBlank, text.dropWhile Unicode.isBlank,
    List.takeWhile_append_dropWhile.symm, fun _ => List.mem_takeWhile_imp, fun c hc => ?_⟩
  have hhead := List.head?_dropWhile_not Unicode.isBlank text
  rw [Option.mem_def.mp hc] at hhead
  exact hhead

/-- Where a stream has come to, the text is cut into the pieces before and what is left,
which begins with no white space. -/
theorem exists_pieces {position : Nat} {text : List Char} {ts : List Token} {stream : Tokens}
    (h : Begins (Tokens.scan position 0 text) ts stream) :
    ∃ cs rest, text = cs ++ rest ∧ Pieces cs ts rest ∧
      (∀ c ∈ rest.head?, Unicode.isBlank c = false) ∧
      stream = Tokens.scan (position + byteLength cs) 0 rest := by
  induction ts generalizing position text with
  | nil =>
    generalize hscan : Tokens.scan position 0 text = start at h
    cases h
    obtain ⟨blanks, rest, rfl, hblanks, hrest⟩ := exists_front text
    refine ⟨blanks, rest, rfl, ?_, hrest, ?_⟩
    · rw [← List.append_nil blanks]
      exact .blanks hblanks .nil
    · rw [← hscan, scan_blanks hblanks]
  | cons t ts ih =>
    obtain ⟨blanks, rest, rfl, hblanks, hrest⟩ := exists_front text
    rw [scan_blanks hblanks] at h
    cases rest with
    | nil => cases h
    | cons c cs =>
      have hc : Unicode.isBlank c = false := hrest c rfl
      have hfinds := scan_finds c cs
      generalize hscan : Token.scan c cs = found at hfinds
      cases hfinds with
      | @token l rest t' hscanned =>
        rw [scan_token hc hscan] at h
        cases h with
        | cons h =>
          obtain ⟨cs, rest, rfl, hpieces, hrest', rfl⟩ := ih h
          refine ⟨blanks ++ (c :: l ++ cs), rest, ?_, .blanks hblanks (.token hscanned hpieces),
            hrest', ?_⟩
          · simp
          · simp only [byteLength_append, Nat.add_assoc]
      | _ =>
        rw [Tokens.scan, if_neg (Bool.eq_false_iff.mp hc), hscan] at h
        cases h

end Worksheet
