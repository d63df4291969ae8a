import Worksheet.Proofs.Formula.Lexeme

/- Worksheet Scanning — the scanner takes the longest lexeme off a text.

   One scan says of a text that it begins with a longest lexeme, or that it begins
   with none (`ScanSpec`). The one fault that is no lack of a lexeme is a second point
   in a number: there the text begins with a number, and the point comes right after
   it. -/
namespace Worksheet

/-- What a scan of a text has to say. -/
def ScanSpec (text : List Char) : Except (TokenFault × Nat) (Token × Nat) → Prop
  | .ok (t, n) => ∃ l rest, l ++ rest = text ∧ l.length = n ∧ Longest l rest t
  | .error (.secondPoint, _) => ∃ l rest x, l ++ '.' :: rest = text ∧
      Longest l ('.' :: rest) (.number x)
  | .error _ => ∀ l rest t, l ++ rest = text → ¬ Lexeme l t

section

open Token

variable {c : Char} {cs l rest : List Char} {t : Token}

/-! ## Symbols -/

/-- A symbol is the longest lexeme if no longer symbol can be read. -/
theorem longest_symbol (ht : t.symbol? = some (c :: l))
    (hmax : ∀ l' rest', l' ++ rest' = l ++ rest →
      (l' = [] ∨ c = '<' ∧ (l' = ['='] ∨ l' = ['>']) ∨ c = '>' ∧ l' = ['=']) →
      l'.length ≤ l.length) : Longest (c :: l) rest t where
  lexeme := .symbol ht
  longest l' rest' t' heq h := by
    obtain ⟨c', l', rfl, -⟩ := h.head
    obtain ⟨rfl, htail⟩ := List.cons.inj heq
    have hsymbol := h.of_symbolStart (symbol?_eq_some ht).1
    exact Nat.succ_le_succ (hmax l' rest' htail (symbol?_eq_some hsymbol).2)

/-- The characters of a comparison of two. -/
def Pairs (c d : Char) : Prop := c = '<' ∧ (d = '=' ∨ d = '>') ∨ c = '>' ∧ d = '='

/-- A symbol of one character is read unless the next one makes a comparison of two. -/
theorem longest_single (ht : t.symbol? = some [c])
    (hnext : ∀ d rest, cs = d :: rest → ¬ Pairs c d) : Longest [c] cs t := by
  refine longest_symbol ht fun l' rest' heq h => ?_
  rcases h with rfl | ⟨hc, rfl | rfl⟩ | ⟨hc, rfl⟩
  · exact Nat.le_refl _
  · exact absurd (.inl ⟨hc, .inl rfl⟩) (hnext '=' rest' heq.symm)
  · exact absurd (.inl ⟨hc, .inr rfl⟩) (hnext '>' rest' heq.symm)
  · exact absurd (.inr ⟨hc, rfl⟩) (hnext '=' rest' heq.symm)

/-- A comparison of two characters is as long as a symbol can be. -/
theorem longest_double {d : Char} (ht : t.symbol? = some [c, d]) : Longest [c, d] cs t := by
  refine longest_symbol ht fun l' rest' _ h => ?_
  rcases h with rfl | ⟨-, rfl | rfl⟩ | ⟨-, rfl⟩
  · exact Nat.zero_le _
  · exact Nat.le_refl _
  · exact Nat.le_refl _
  · exact Nat.le_refl _

/-! ## Numbers -/

/-- A text that numbers can be read from. -/
def StartsNumber (c : Char) (cs : List Char) : Prop :=
  isDigit c = true ∨ c = '.' ∧ cs.head?.any isDigit = true

theorem StartsNumber.numeralStart (h : StartsNumber c cs) : isDigit c = true ∨ c = '.' :=
  h.imp_right And.left

/-- Every lexeme at the front of such a text is a numeral. -/
theorem StartsNumber.numeral (hc : StartsNumber c cs) {l' rest' : List Char} {t' : Token}
    (h : Lexeme l' t') (heq : l' ++ rest' = c :: cs) : ∃ x, Numeral l' x := by
  obtain ⟨c', l', rfl, -⟩ := h.head
  obtain ⟨rfl, -⟩ := List.cons.inj heq
  obtain ⟨x, hx, -⟩ := h.of_numeralStart hc.numeralStart
  exact ⟨x, hx⟩

/-- A numeral at the front of a text ends among the digits there, or it has a point
after them and ends among the digits after that. -/
theorem Numeral.front {l' rest' text : List Char} {x : Float} (h : Numeral l' x)
    (heq : l' ++ rest' = text) :
    l'.length ≤ (text.takeWhile isDigit).length ∨
      ∃ part, Digits part ∧ text.dropWhile isDigit = '.' :: (part ++ rest') ∧
        l'.length = (text.takeWhile isDigit).length + 1 + part.length := by
  cases h with
  | whole hd hne => exact .inl (length_le_takeWhile hd heq)
  | @point whole part hw hp hne =>
    rw [List.append_assoc, List.cons_append] at heq
    obtain ⟨htake, hdrop⟩ := split_point hw heq
    refine .inr ⟨part, hp, hdrop, ?_⟩
    rw [htake, List.length_append, List.length_cons]
    omega

/-- The longest number of a text whose digits at the front end in a point. -/
theorem longest_point (hc : StartsNumber c cs) (hdrop : (c :: cs).dropWhile isDigit = '.' :: rest) :
    (c :: cs).takeWhile isDigit ++ '.' :: rest.takeWhile isDigit ++ rest.dropWhile isDigit = c :: cs ∧
    Longest ((c :: cs).takeWhile isDigit ++ '.' :: rest.takeWhile isDigit) (rest.dropWhile isDigit)
      (.number (decimalValue ((c :: cs).takeWhile isDigit) (rest.takeWhile isDigit))) := by
  have htext : (c :: cs).takeWhile isDigit ++ '.' :: rest.takeWhile isDigit ++ rest.dropWhile isDigit =
      c :: cs := by
    rw [List.append_assoc, List.cons_append, List.takeWhile_append_dropWhile, ← hdrop,
      List.takeWhile_append_dropWhile]
  have hsome : (c :: cs).takeWhile isDigit ≠ [] ∨ rest.takeWhile isDigit ≠ [] := by
    rcases hc with hc | ⟨rfl, hc⟩
    · left
      rw [List.takeWhile_cons_of_pos hc]
      exact List.cons_ne_nil _ _
    · right
      rw [List.dropWhile_cons_of_neg (by decide)] at hdrop
      obtain rfl := (List.cons.inj hdrop).2
      cases cs with
      | nil => cases hc
      | cons d cs =>
        have hd : isDigit d = true := hc
        rw [List.takeWhile_cons_of_pos hd]
        exact List.cons_ne_nil _ _
  refine ⟨htext, .number (.point (fun _ => List.mem_takeWhile_imp)
    (fun _ => List.mem_takeWhile_imp) hsome), ?_⟩
  intro l' rest' t' heq h
  obtain ⟨x, hx⟩ := hc.numeral h (heq.trans htext)
  rw [List.length_append, List.length_cons]
  -- another numeral ends before the point or has its point at the same place
  rcases hx.front (heq.trans htext) with hle | ⟨part, hp, hdrop', hlength⟩
  · omega
  · obtain ⟨-, hrest⟩ := List.cons.inj (hdrop'.symm.trans hdrop)
    have := length_le_takeWhile hp hrest
    omega

/-- The longest number of a text whose digits at the front do not end in a point. -/
theorem longest_whole (hc : StartsNumber c cs)
    (hdrop : ∀ rest, (c :: cs).dropWhile isDigit ≠ '.' :: rest) :
    Longest ((c :: cs).takeWhile isDigit) ((c :: cs).dropWhile isDigit)
      (.number (decimalValue ((c :: cs).takeWhile isDigit) [])) := by
  have hdigit : isDigit c = true := by
    rcases hc with hc | ⟨rfl, -⟩
    · exact hc
    · exact absurd (List.dropWhile_cons_of_neg (by decide)) (hdrop cs)
  have hsome : (c :: cs).takeWhile isDigit ≠ [] := by
    rw [List.takeWhile_cons_of_pos hdigit]
    exact List.cons_ne_nil _ _
  refine ⟨.number (.whole (fun _ => List.mem_takeWhile_imp) hsome), ?_⟩
  intro l' rest' t' heq h
  rw [List.takeWhile_append_dropWhile] at heq
  obtain ⟨x, hx⟩ := hc.numeral h heq
  rcases hx.front heq with hle | ⟨part, -, hdrop', -⟩
  · exact hle
  · exact absurd hdrop' (hdrop _)

/-- A numeral that begins with a point has a digit after it. -/
theorem Numeral.digit_of_point {x : Float} (h : Numeral ('.' :: l) x) (rest : List Char) :
    (l ++ rest).head?.any isDigit = true := by
  generalize hl : '.' :: l = ls at h
  cases h with
  | whole hd hne => exact absurd (hd '.' (hl ▸ List.mem_cons_self)) (by decide)
  | @point whole part hw hp hne =>
    cases whole with
    | cons d whole =>
      obtain ⟨rfl, -⟩ := List.cons.inj hl
      exact absurd (hw '.' List.mem_cons_self) (by decide)
    | nil =>
      obtain ⟨-, rfl⟩ := List.cons.inj hl
      obtain ⟨d, part, rfl⟩ := List.exists_cons_of_ne_nil (hne.resolve_left (by simp))
      exact hp d List.mem_cons_self

/-- A text that begins with a numeral is one that numbers can be read from. -/
theorem Numeral.startsNumber {x : Float} (h : Numeral (c :: l) x) (rest : List Char) :
    StartsNumber c (l ++ rest) := by
  obtain ⟨c', l', heq, hc⟩ := h.head
  obtain ⟨rfl, rfl⟩ := List.cons.inj heq
  rcases hc with hc | rfl
  · exact .inl hc
  · exact .inr ⟨rfl, h.digit_of_point rest⟩

/-- A numeral is read as it is if neither a digit nor a point follows. -/
theorem longest_numeral {x : Float} (h : Numeral l x)
    (hrest : ∀ c ∈ rest.head?, isDigit c = false ∧ c ≠ '.') : Longest l rest (.number x) where
  lexeme := .number h
  longest l' rest' t' heq h' := by
    obtain ⟨x', hx'⟩ : ∃ x', Numeral l' x' := by
      obtain ⟨c, cs, rfl, -⟩ := h.head
      exact (h.startsNumber rest).numeral h' heq
    have hdigits : ∀ c ∈ rest.head?, isDigit c = false := fun c hc => (hrest c hc).1
    cases h with
    | whole hd hne =>
      obtain ⟨htake, hdrop⟩ := split_front hd hdigits
      rcases hx'.front heq with hle | ⟨part, -, hpoint, -⟩
      · rwa [htake] at hle
      · rw [hdrop] at hpoint
        exact absurd rfl (hrest '.' (by rw [hpoint]; rfl)).2
    | @point whole part hw hp hne =>
      rw [List.append_assoc, List.cons_append] at heq
      obtain ⟨htake, hdrop⟩ := split_point hw rfl
      rw [List.length_append, List.length_cons]
      rcases hx'.front heq with hle | ⟨part', hp', hpoint, hlength⟩
      · rw [htake] at hle
        omega
      · have htail : part' ++ rest' = part ++ rest := (List.cons.inj (hpoint.symm.trans hdrop)).2
        have hle := length_le_takeWhile hp' htail
        rw [(split_front hp hdigits).1] at hle
        rw [htake] at hlength
        omega

theorem scanNumber_spec (hc : StartsNumber c cs) : ScanSpec (c :: cs) (scanNumber (c :: cs)) := by
  unfold scanNumber
  dsimp only
  split
  · rename_i rest hdrop
    obtain ⟨htext, hlongest⟩ := longest_point hc hdrop
    split
    · rename_i rest' hsecond
      rw [hsecond] at hlongest htext
      exact ⟨_, _, _, htext, hlongest⟩
    · refine ⟨_, _, htext, ?_, hlongest⟩
      rw [List.length_append, List.length_cons]
      omega
  · rename_i hdrop
    exact ⟨_, _, List.takeWhile_append_dropWhile, rfl, longest_whole hc hdrop⟩

/-! ## String literals -/

/-- The scanner of string literals reads what is quoted up to the closing quote. -/
theorem scanText_eq_some {s : List Char} {n : Nat} (h : scanText cs = some (s, n)) :
    ∃ body rest, body ++ '"' :: rest = cs ∧ Quoted body s ∧ body.length + 1 = n := by
  fun_induction scanText cs generalizing s n with
  | case1 => cases h
  | case2 => cases h
  | case3 c cs ih =>
    obtain ⟨⟨s', n'⟩, hs, heq⟩ := Option.map_eq_some_iff.mp h
    obtain ⟨rfl, rfl⟩ := Prod.mk.inj heq
    obtain ⟨body, rest, rfl, hq, rfl⟩ := ih hs
    exact ⟨'\\' :: c :: body, rest, rfl, .escaped hq, rfl⟩
  | case4 cs =>
    obtain ⟨rfl, rfl⟩ := Prod.mk.inj (Option.some.inj h)
    exact ⟨[], _, rfl, .nil, rfl⟩
  | case5 c cs hnil hescape hquote ih =>
    -- a backslash would have been taken as an escape or as the last character
    have hplain : c ≠ '\\' := by
      rintro rfl
      cases cs with
      | nil => exact hnil rfl rfl
      | cons d cs => exact hescape d cs rfl rfl
    obtain ⟨⟨s', n'⟩, hs, heq⟩ := Option.map_eq_some_iff.mp h
    obtain ⟨rfl, rfl⟩ := Prod.mk.inj heq
    obtain ⟨body, rest, rfl, hq, rfl⟩ := ih hs
    exact ⟨c :: body, rest, rfl, .plain hquote hplain hq, rfl⟩

theorem scanText_of_quoted {body s : List Char} (h : Quoted body s) (rest : List Char) :
    scanText (body ++ '"' :: rest) = some (s, body.length + 1) := by
  induction h with
  | nil => rfl
  | @plain c cs s hq hb h ih =>
    rw [List.cons_append, scanText, if_neg hq, ih]
    · rfl
    · exact fun hc _ => hb hc
    · exact fun _ _ hc _ => hb hc
  | @escaped c cs s h ih =>
    rw [List.cons_append, List.cons_append, scanText, ih]
    rfl

theorem longest_text {body s : List Char} (h : Quoted body s) :
    Longest ('"' :: (body ++ ['"'])) rest (.text (String.ofList s)) where
  lexeme := .text h
  longest l' rest' t' heq h' := by
    obtain ⟨c', l', rfl, -⟩ := h'.head
    obtain ⟨rfl, htail⟩ := List.cons.inj heq
    obtain ⟨body', s', rfl, hs', -⟩ := h'.of_quote
    change body' ++ ['"'] ++ rest' = body ++ ['"'] ++ rest at htail
    rw [List.append_assoc, List.append_assoc] at htail
    obtain ⟨rfl, -⟩ := hs'.unique h htail
    exact Nat.le_refl _

/-! ## Words -/

theorem longest_word (hc : startsWord c = true) :
    Longest (c :: cs.takeWhile continuesWord) (cs.dropWhile continuesWord)
      (.word (String.ofList (c :: cs.takeWhile continuesWord))) where
  lexeme := .word hc fun _ => List.mem_takeWhile_imp
  longest l' rest' t' heq h := by
    obtain ⟨c', l', rfl, -⟩ := h.head
    obtain ⟨rfl, htail⟩ := List.cons.inj heq
    obtain ⟨hl', -⟩ := h.of_wordStart hc
    change l' ++ rest' = cs.takeWhile continuesWord ++ cs.dropWhile continuesWord at htail
    rw [List.takeWhile_append_dropWhile] at htail
    rw [← htail, List.takeWhile_append_of_pos hl', List.length_cons, List.length_cons,
      List.length_append]
    omega

/-- A word is read as it is if nothing that goes on with a word follows. -/
theorem longest_identifier (hc : startsWord c = true) (hcs : ∀ x ∈ cs, continuesWord x = true)
    (hrest : ∀ x ∈ rest.head?, continuesWord x = false) :
    Longest (c :: cs) rest (.word (String.ofList (c :: cs))) := by
  obtain ⟨htake, hdrop⟩ := split_front hcs hrest
  have hlongest : Longest (c :: (cs ++ rest).takeWhile continuesWord)
      ((cs ++ rest).dropWhile continuesWord) _ := longest_word hc
  rwa [htake, hdrop] at hlongest

/-! ## One scan -/

theorem continuesWord_of_startsWord (hc : startsWord c = true) : continuesWord c = true := by
  simp only [startsWord, Bool.or_eq_true] at hc
  simp only [continuesWord, Bool.or_eq_true]
  rcases hc with hc | hc
  · exact .inl (.inl (.inl hc))
  · exact .inl (.inr hc)

theorem spec_single (ht : t.symbol? = some [c]) (hnext : ∀ d rest, cs = d :: rest → ¬ Pairs c d) :
    ScanSpec (c :: cs) (.ok (t, 1)) := ⟨[c], cs, rfl, rfl, longest_single ht hnext⟩

theorem spec_double {d : Char} (ht : t.symbol? = some [c, d]) :
    ScanSpec (c :: d :: cs) (.ok (t, 2)) := ⟨[c, d], cs, rfl, rfl, longest_double ht⟩

theorem spec_text : ScanSpec ('"' :: cs)
    (match scanText cs with
      | some (s, n) => .ok (.text (String.ofList s), n + 1)
      | none => .error (.unterminatedText, 0)) := by
  cases hscan : scanText cs with
  | some p =>
    obtain ⟨body, rest, rfl, hq, hn⟩ := scanText_eq_some hscan
    refine ⟨'"' :: (body ++ ['"']), rest, ?_, ?_, longest_text hq⟩
    · rw [List.cons_append, List.append_assoc]
      rfl
    · rw [List.length_cons, List.length_append, ← hn]
      rfl
  | none =>
    intro l rest t heq h
    obtain ⟨c, l, rfl, -⟩ := h.head
    obtain ⟨rfl, htail⟩ := List.cons.inj heq
    obtain ⟨body, s, rfl, hq, -⟩ := h.of_quote
    change body ++ ['"'] ++ rest = cs at htail
    rw [List.append_assoc] at htail
    have hscan' := scanText_of_quoted hq rest
    rw [← htail] at hscan
    exact absurd (hscan.symm.trans hscan') (by simp)

theorem spec_word (hc : startsWord c = true) :
    ScanSpec (c :: cs) (.ok (.word (String.ofList ((c :: cs).takeWhile continuesWord)),
      ((c :: cs).takeWhile continuesWord).length)) := by
  rw [List.takeWhile_cons_of_pos (continuesWord_of_startsWord hc)]
  refine ⟨_, _, ?_, rfl, longest_word hc⟩
  rw [List.cons_append, List.takeWhile_append_dropWhile]

theorem spec_none {cause : TokenFault} {before : Nat} (hcause : cause ≠ .secondPoint)
    (hsymbol : c ∉ symbolStarts) (hquote : c ≠ '"') (hnumber : ¬ StartsNumber c cs)
    (hword : ¬ startsWord c = true) : ScanSpec (c :: cs) (.error (cause, before)) := by
  have hlexeme : ∀ l rest t, l ++ rest = c :: cs → ¬ Lexeme l t := by
    intro l rest t heq h
    obtain ⟨c', l, rfl, hstart⟩ := h.head
    obtain ⟨rfl, htail⟩ := List.cons.inj heq
    cases hstart with
    | symbol hc => exact hsymbol hc
    | quote => exact hquote rfl
    | word hc => exact hword hc
    | numeral hc =>
      obtain ⟨x, hx, -⟩ := h.of_numeralStart hc
      rcases hc with hc | rfl
      · exact hnumber (.inl hc)
      · exact hnumber (.inr ⟨rfl, htail ▸ hx.digit_of_point rest⟩)
  cases cause with
  | secondPoint => exact absurd rfl hcause
  | unexpectedChar c => exact hlexeme
  | unterminatedText => exact hlexeme

/-- A scan finds the longest lexeme that the text begins with. -/
theorem scan_spec (c : Char) (cs : List Char) : ScanSpec (c :: cs) (Token.scan c cs) := by
  unfold Token.scan
  split
  -- the arms of the scanner: symbols of one character first, then the comparisons, where
  -- the arms above an arm say which characters do not come next
  case h_11 => exact spec_double rfl
  case h_12 => exact spec_double rfl
  case h_13 h h' =>
    refine spec_single rfl ?_
    rintro d rest rfl (⟨-, rfl | rfl⟩ | ⟨hc, -⟩)
    · exact h rest rfl
    · exact h' rest rfl
    · exact absurd hc (by decide)
  case h_14 => exact spec_double rfl
  case h_15 h =>
    refine spec_single rfl ?_
    rintro d rest rfl (⟨hc, -⟩ | ⟨-, rfl⟩)
    · exact absurd hc (by decide)
    · exact h rest rfl
  case h_16 => exact spec_text
  case h_17 =>
    have hsymbol : c ∉ symbolStarts := by simp_all [symbolStarts]
    have hquote : c ≠ '"' := ‹c = '"' → False›
    have hstarts : (isDigit c || c == '.' && cs.head?.any isDigit) = true ↔ StartsNumber c cs := by
      rw [Bool.or_eq_true, Bool.and_eq_true, beq_iff_eq, StartsNumber]
    split
    · rename_i hnumber
      exact scanNumber_spec (hstarts.mp hnumber)
    · rename_i hnumber
      split
      · rename_i hword
        exact spec_word hword
      · rename_i hword
        exact spec_none (by simp) hsymbol hquote (mt hstarts.mpr hnumber) hword
  -- what is left are the symbols of one character that no other symbol begins with
  all_goals exact spec_single rfl fun _ _ _ => by simp [Pairs]

end

end Worksheet
