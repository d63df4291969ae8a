import Worksheet.Proofs.Formula.Completeness
import Worksheet.Proofs.Formula.Scan

/- Worksheet Parsing — a text is read exactly if it splits into tokens that derive.

   The stream of a text holds the tokens that the text splits into, up to the first
   fault. A second point in a number is a fault although the text may split there
   into two numbers; but two numbers side by side never derive from the grammar
   (`Derives.apart`), so that fault refuses nothing that derives. -/
namespace Worksheet

open Tokens (Begins)

/-! ## Bytes -/

theorem byteLength_append (cs ds : List Char) :
    byteLength (cs ++ ds) = byteLength cs + byteLength ds := by
  induction cs with
  | nil => exact (Nat.zero_add _).symm
  | cons c cs ih => rw [List.cons_append, byteLength, byteLength, ih, Nat.add_assoc]

theorem byteLength_toList (s : String) : byteLength s.toList = s.utf8ByteSize := by
  have hchars : ∀ cs : List Char, byteLength cs = (String.ofList cs).utf8ByteSize := by
    intro cs
    induction cs with
    | nil => rfl
    | cons c cs ih =>
      rw [byteLength, ih, String.ofList_cons, String.utf8ByteSize_append,
        String.utf8ByteSize_singleton]
  rw [hchars, String.ofList_toList]

/-! ## The stream of a text -/

theorem scan_skip (l rest : List Char) (position : Nat) :
    Tokens.scan position l.length (l ++ rest) = Tokens.scan (position + byteLength l) 0 rest := by
  induction l generalizing position with
  | nil => rfl
  | cons c l ih =>
    rw [List.length_cons, List.cons_append, Tokens.scan, ih, byteLength, Nat.add_assoc]

theorem scan_blank {c : Char} (hc : Unicode.isBlank c = true) (cs : List Char) (position : Nat) :
    Tokens.scan position 0 (c :: cs) = Tokens.scan (position + c.utf8Size) 0 cs := by
  rw [Tokens.scan, if_pos hc]

theorem scan_blanks {blanks : List Char} (h : ∀ c ∈ blanks, Unicode.isBlank c = true)
    (cs : List Char) (position : Nat) :
    Tokens.scan position 0 (blanks ++ cs) = Tokens.scan (position + byteLength blanks) 0 cs := by
  induction blanks generalizing position with
  | nil => rfl
  | cons c blanks ih =>
    obtain ⟨hc, hblanks⟩ := List.forall_mem_cons.mp h
    rw [List.cons_append, scan_blank hc, ih hblanks, byteLength, Nat.add_assoc]

/-- A token that is scanned comes first in the stream, and the stream of what is left
comes after it. -/
theorem scan_token {c : Char} {l rest : List Char} {t : Token} (hc : Unicode.isBlank c = false)
    (h : Token.scan c (l ++ rest) = .ok (t, l.length + 1)) (position : Nat) :
    Tokens.scan position 0 (c :: (l ++ rest)) =
      .next t position (Tokens.scan (position + byteLength (c :: l)) 0 rest) := by
  rw [Tokens.scan, if_neg (Bool.not_eq_true _ ▸ hc), h]
  dsimp only
  rw [Nat.add_sub_cancel, scan_skip, byteLength, Nat.add_assoc]

/-- A stream without a fault holds the tokens that its text splits into. -/
theorem splits_of_begins {position position' : Nat} {cs : List Char} {ts : List Token}
    (h : Begins (Tokens.scan position 0 cs) ts (.finish position')) : Splits cs ts := by
  -- a token takes several characters at once, so the induction is on the length
  induction hn : cs.length using Nat.strong_induction_on generalizing position cs ts with
  | h n ih =>
    cases cs with
    | nil =>
      cases h
      exact .nil
    | cons c cs =>
      by_cases hc : Unicode.isBlank c = true
      · rw [scan_blank hc] at h
        exact .blank hc (ih cs.length (hn ▸ Nat.lt_succ_self _) h rfl)
      · have hspec := scan_spec c cs
        cases hscan : Token.scan c cs with
        | error fault =>
          rw [Tokens.scan, if_neg hc, hscan] at h
          cases h
        | ok read =>
          obtain ⟨t, n'⟩ := read
          rw [hscan] at hspec
          obtain ⟨l, rest, heq, rfl, hlongest⟩ := hspec
          obtain ⟨c', l, rfl, -⟩ := hlongest.lexeme.head
          obtain ⟨rfl, rfl⟩ := List.cons.inj heq
          change Begins (Tokens.scan position 0 (c' :: (l ++ rest))) ts _ at h
          rw [scan_token (Bool.eq_false_iff.mpr hc) hscan] at h
          cases h with
          | cons h =>
            refine .token hlongest (ih rest.length ?_ h rfl)
            rw [← hn]
            simp only [List.length_cons, List.append_eq, List.length_append]
            omega

/-- A text that begins with no white space splits into a lexeme and what comes after
it. -/
theorem Splits.head {c : Char} {cs : List Char} {ts : List Token} (h : Splits (c :: cs) ts)
    (hc : Unicode.isBlank c = false) : ∃ l t us, Lexeme (c :: l) t ∧ ts = t :: us := by
  generalize htext : c :: cs = text at h
  cases h with
  | nil => cases htext
  | blank hb h =>
    obtain ⟨rfl, -⟩ := List.cons.inj htext
    exact absurd hb (Bool.eq_false_iff.mp hc)
  | token hl h =>
    obtain ⟨c', l, rfl, -⟩ := hl.lexeme.head
    obtain ⟨rfl, -⟩ := List.cons.inj htext
    exact ⟨l, _, _, hl.lexeme, rfl⟩

/-- What splits and begins with a point begins with a number. -/
theorem Splits.number_of_point {cs : List Char} {ts : List Token} (h : Splits ('.' :: cs) ts) :
    ∃ x us, ts = .number x :: us := by
  obtain ⟨l, t, us, hl, rfl⟩ := h.head (by decide)
  obtain ⟨x, -, rfl⟩ := hl.of_numeralStart (.inr rfl)
  exact ⟨x, us, rfl⟩

/-- No expression begins with an equals sign. -/
theorem Splits.not_derives {cs : List Char} {ts : List Token} {e : Expr} {d : Nat}
    (h : Splits ('=' :: cs) ts) : ¬ Derives .expression ts e d := by
  intro hderives
  obtain ⟨l, t, us, hl, rfl⟩ := h.head (by decide)
  obtain ⟨t', us', heq, hstart⟩ := hderives.head
  obtain ⟨rfl, -⟩ := List.cons.inj heq
  have hsymbol := hl.of_symbolStart (by decide)
  cases t with
  | comparison op => cases hstart
  | _ => cases hsymbol

/-- The stream of a text that splits holds the tokens, if no two numbers stand side by
side. -/
theorem begins_of_splits {cs : List Char} {ts : List Token} (h : Splits cs ts) (hapart : Apart ts)
    (position : Nat) :
    ∃ position', Begins (Tokens.scan position 0 cs) ts (.finish position') := by
  induction h generalizing position with
  | nil => exact ⟨position, .nil⟩
  | blank hc h ih =>
    rw [scan_blank hc]
    exact ih hapart _
  | @token l rest t ts hl h ih =>
    obtain ⟨c, l, rfl, hstart⟩ := hl.lexeme.head
    have hspec := scan_spec c (l ++ rest)
    cases hscan : Token.scan c (l ++ rest) with
    | ok read =>
      obtain ⟨t', n⟩ := read
      rw [hscan] at hspec
      obtain ⟨l', rest', heq, rfl, hlongest⟩ := hspec
      obtain ⟨rfl, rfl, rfl⟩ := hl.unique hlongest heq.symm
      rw [List.cons_append, scan_token hstart.not_blank hscan]
      obtain ⟨position', hbegins⟩ := ih hapart.tail _
      exact ⟨position', .cons hbegins⟩
    | error fault =>
      obtain ⟨cause, before⟩ := fault
      rw [hscan] at hspec
      cases cause with
      | secondPoint =>
        -- what is left begins with a point, so a number would stand right after a number
        obtain ⟨l', rest', x, heq, hlongest⟩ := hspec
        obtain ⟨rfl, rfl, rfl⟩ := hl.unique hlongest heq.symm
        obtain ⟨y, us, rfl⟩ := h.number_of_point
        exact absurd ⟨rfl, rfl⟩ (List.isChain_cons_cons.mp hapart).1
      | unexpectedChar c => exact absurd hl.lexeme (hspec _ _ _ rfl)
      | unterminatedText => exact absurd hl.lexeme (hspec _ _ _ rfl)

/-! ## The body of a text -/

/-- White space at the start of a text does not matter to how it splits. -/
theorem Splits.trimStart {cs : List Char} {ts : List Token} (h : Splits cs ts) :
    Splits (Unicode.trimStart cs) ts := by
  induction h with
  | nil => exact .nil
  | blank hc h ih =>
    rwa [Unicode.trimStart, List.dropWhile_cons_of_pos hc]
  | @token l rest t ts hl h ih =>
    obtain ⟨c, l, rfl, hstart⟩ := hl.lexeme.head
    rw [Unicode.trimStart, List.cons_append,
      List.dropWhile_cons_of_neg (Bool.eq_false_iff.mp hstart.not_blank)]
    exact .token hl h

namespace Formula

/-- The body of a text begins after its white space and one equals sign, if there is
one. -/
theorem body_cases (cs : List Char) :
    (∃ rest, Unicode.trimStart cs = '=' :: rest ∧ (body cs).2 = rest) ∨
      (∀ rest, Unicode.trimStart cs ≠ '=' :: rest) ∧ (body cs).2 = Unicode.trimStart cs := by
  unfold body
  dsimp only
  split
  · rename_i rest heq
    exact .inl ⟨rest, heq, rfl⟩
  · rename_i hne
    exact .inr ⟨hne, rfl⟩

theorem body_equals {blanks : List Char} (h : ∀ c ∈ blanks, Unicode.isBlank c = true)
    (cs : List Char) : body (blanks ++ '=' :: cs) = (byteLength blanks + 1, cs) := by
  have hcs : ∀ c ∈ ('=' :: cs).head?, Unicode.isBlank c = false := by
    rintro c ⟨⟩
    decide
  obtain ⟨htake, hdrop⟩ := split_front h hcs
  rw [body, Unicode.trimStart, htake, hdrop]
  rfl

theorem body_plain {blanks cs : List Char} (h : ∀ c ∈ blanks, Unicode.isBlank c = true)
    (hcs : ∀ c ∈ cs.head?, Unicode.isBlank c = false ∧ c ≠ '=') :
    body (blanks ++ cs) = (byteLength blanks, cs) := by
  obtain ⟨htake, hdrop⟩ := split_front h fun c hc => (hcs c hc).1
  rw [body, Unicode.trimStart, htake, hdrop]
  split
  · exact absurd rfl (hcs '=' rfl).2
  · rfl

theorem trimStart_append {blanks : List Char} (h : ∀ c ∈ blanks, Unicode.isBlank c = true)
    (cs : List Char) : Unicode.trimStart (blanks ++ cs) = Unicode.trimStart cs :=
  List.dropWhile_append_of_pos h

/-- Where a text can be cut into white space, perhaps an equals sign, and what splits into
tokens that derive, its body is what splits. -/
theorem splits_body {text blanks rest : List Char} {ts : List Token} {e : Expr} {d : Nat}
    (hblanks : ∀ c ∈ blanks, Unicode.isBlank c = true)
    (htext : text = blanks ++ rest ∨ text = blanks ++ '=' :: rest) (hsplits : Splits rest ts)
    (hderives : Derives .expression ts e d) : Splits (body text).2 ts := by
  rcases body_cases text with ⟨rest', htrim, hbody⟩ | ⟨htrim, hbody⟩
  · rw [hbody]
    rcases htext with htext | htext
    · -- the equals sign would be the first token of the expression
      rw [htext, trimStart_append hblanks] at htrim
      exact absurd hderives (htrim ▸ hsplits.trimStart).not_derives
    · rw [htext, trimStart_append hblanks] at htrim
      obtain ⟨-, rfl⟩ := List.cons.inj htrim
      exact hsplits
  · rw [hbody]
    rcases htext with htext | htext
    · rw [htext, trimStart_append hblanks]
      exact hsplits.trimStart
    · rw [htext, trimStart_append hblanks] at htrim
      exact absurd rfl (htrim rest)

/-- A text is read if the stream of its body is. -/
theorem parse_eq_ok (text : String) (e : Expr) :
    parse text = .ok e ↔ ∃ p position,
      expression (unary (depthLimit - 1))
          (Tokens.scan (body text.toList).1 0 (body text.toList).2) = .ok (p, .finish position) ∧
        p.expr = e := by
  unfold parse
  obtain ⟨offset, cs⟩ := body text.toList
  dsimp only
  constructor
  · intro h
    replace h := ready_bind_ok h
    split at h
    · cases h
    · obtain ⟨⟨p, rest⟩, hp, h⟩ := bind_ok h
      dsimp only at h
      split at h
      · exact ⟨p, _, hp, Except.ok.inj h⟩
      · cases h
  · rintro ⟨p, position, hp, rfl⟩
    obtain ⟨ts, d, hbegins, hderives, -⟩ :=
      sound_expression (sound_unary (depthLimit - 1)) _ _ _ hp
    rw [ready_eq (hbegins.ready trivial), ok_bind]
    split
    · rename_i hfinish
      rw [hfinish] at hbegins
      cases hbegins
      obtain ⟨t, us, heq, -⟩ := hderives.head
      cases heq
    · rw [hp]
      rfl

/-- A text that itself splits into tokens that derive an expression within the limits is
read. -/
theorem parse_of_splits {text : String} {e : Expr} {ts : List Token} {d : Nat}
    (hsplits : Splits text.toList ts) (hderives : Derives .expression ts e d)
    (hheight : e.height ≤ depthLimit) (hd : d ≤ depthLimit) : parse text = .ok e := by
  have hbody : Splits (body text.toList).2 ts :=
    splits_body (List.forall_mem_nil _) (.inl rfl) hsplits hderives
  obtain ⟨position, hbegins⟩ := begins_of_splits hbody hderives.apart (body text.toList).1
  rw [parse_eq_ok, expression_eq_ok]
  exact ⟨ts, d, position, hbegins, hderives, hheight, hd⟩

/-- A text is read exactly if, after white space and perhaps an equals sign, it splits
into tokens that derive an expression, of which neither the height nor the nesting of
the derivation is above 256; the expression is what is read. -/
theorem parse_eq_ok_iff (text : String) (e : Expr) :
    parse text = .ok e ↔
      ∃ blanks rest ts d, (∀ c ∈ blanks, Unicode.isBlank c = true) ∧
        (text.toList = blanks ++ rest ∨ text.toList = blanks ++ '=' :: rest) ∧
        Splits rest ts ∧ Derives .expression ts e d ∧ e.height ≤ 256 ∧ d ≤ 256 := by
  rw [parse_eq_ok, expression_eq_ok]
  constructor
  · rintro ⟨ts, d, position, hbegins, hderives, hlimits⟩
    have hsplits := splits_of_begins hbegins
    have htext : text.toList.takeWhile Unicode.isBlank ++ Unicode.trimStart text.toList =
        text.toList := List.takeWhile_append_dropWhile
    refine ⟨text.toList.takeWhile Unicode.isBlank, _, ts, d, fun _ => List.mem_takeWhile_imp, ?_,
      hsplits, hderives, hlimits⟩
    rcases body_cases text.toList with ⟨rest, htrim, hbody⟩ | ⟨-, hbody⟩
    · right
      rw [hbody, ← htrim, htext]
    · left
      rw [hbody, htext]
  · rintro ⟨blanks, rest, ts, d, hblanks, htext, hsplits, hderives, hlimits⟩
    have hbody : Splits (body text.toList).2 ts := splits_body hblanks htext hsplits hderives
    obtain ⟨position, hbegins⟩ := begins_of_splits hbody hderives.apart (body text.toList).1
    exact ⟨ts, d, position, hbegins, hderives, hlimits⟩

/-- Powers group to the left, and a sign binds its operand first. -/
example : (parse " = a^b^-c").toOption.map Expr.render = some "((a ^ b) ^ (-c))" := by decide +kernel

end Formula

end Worksheet
