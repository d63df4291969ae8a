import Worksheet.Proofs.Formula.Pieces
import Worksheet.Proofs.Formula.Progress

/- Worksheet Error Positions — what stands where an error points.

   An error points at the token in front of which a reader has stopped, or at a fault in
   its place. What comes before is the beginning of a text that derives from the grammar:
   white space and then what the reader still misses complete it (`extensible_of_begun`).
   What stands there makes the text be refused whatever comes after it: a token of the same
   kind is refused in the same way (`rejected_token`), and a fault remains one
   (`rejected_char`, `rejected_point`). That is so unless something is missing there
   (`Unfinished`). The one place that is not the earliest is a second point in a number: the
   scanner is one token ahead, so it comes upon the point before the reader has refused the
   number (`Misplaced`). -/
namespace Worksheet

open Token Tokens

/-! ## Texts that derive -/

/-- The text, after white space and perhaps an equals sign, splits into the tokens. -/
def Divides (text : List Char) (ts : List Token) : Prop :=
  ∃ blanks rest, (∀ c ∈ blanks, Unicode.isBlank c = true) ∧
    (text = blanks ++ rest ∨ text = blanks ++ '=' :: rest) ∧ Splits rest ts

/-- The text derives from the grammar, however deep it nests. -/
def Derivable (text : List Char) : Prop :=
  ∃ ts e d, Divides text ts ∧ Derives .expression ts e d

/-- Some text that derives begins with the text. -/
def Extensible (text : List Char) : Prop := ∃ more, Derivable (text ++ more)

variable {lead cs cs' u v : List Char} {ts us : List Token}

/-- What comes before the body of a text. -/
inductive Leads : List Char → List Char → Prop
  | plain {lead cs : List Char} (hlead : ∀ c ∈ lead, Unicode.isBlank c = true)
      (hcs : ∀ c ∈ cs.head?, Unicode.isBlank c = false ∧ c ≠ '=') : Leads lead cs
  | equals {blanks cs : List Char} (hblanks : ∀ c ∈ blanks, Unicode.isBlank c = true) :
      Leads (blanks ++ ['=']) cs

theorem exists_leads (text : List Char) : ∃ lead cs, text = lead ++ cs ∧ Leads lead cs := by
  obtain ⟨blanks, rest, rfl, hblanks, hrest⟩ := exists_front text
  by_cases hequals : '=' ∈ rest.head?
  · obtain ⟨cs, rfl⟩ : ∃ cs, rest = '=' :: cs := List.head?_eq_some_iff.mp hequals
    exact ⟨blanks ++ ['='], cs, by simp, .equals hblanks⟩
  · refine ⟨blanks, rest, rfl, .plain hblanks fun c hc => ⟨hrest c hc, ?_⟩⟩
    rintro rfl
    exact hequals hc

namespace Leads

theorem body_eq (h : Leads lead cs) : Formula.body (lead ++ cs) = (byteLength lead, cs) := by
  cases h with
  | plain hlead hcs => exact Formula.body_plain hlead hcs
  | equals hblanks =>
    rw [List.append_assoc, byteLength_append]
    exact Formula.body_equals hblanks cs

/-- The same comes before every body that begins with the same character. -/
theorem change (h : Leads lead cs) (hhead : cs'.head? = cs.head?) : Leads lead cs' := by
  cases h with
  | plain hlead hcs => exact .plain hlead (hhead ▸ hcs)
  | equals hblanks => exact .equals hblanks

theorem divides (h : Leads lead cs) (hsplits : Splits cs' ts) : Divides (lead ++ cs') ts := by
  cases h with
  | plain hlead _ => exact ⟨lead, cs', hlead, .inl rfl, hsplits⟩
  | equals hblanks =>
    refine ⟨_, cs', hblanks, .inr ?_, hsplits⟩
    rw [List.append_assoc]
    rfl

end Leads

/-! ## Texts that can be completed -/

theorem pieces_replicate (n : Nat) :
    Pieces (List.replicate n ')') (List.replicate n .parenClose) [] := by
  induction n with
  | zero => exact .nil
  | succ n ih =>
    have hclose : Longest [')'] (List.replicate n ')' ++ []) .parenClose :=
      longest_single rfl fun d rest _ => by simp [Pairs]
    exact .token (hclose.scanned rfl) ih

theorem Numeral.pieces {l : List Char} {x : Float} (h : Numeral l x) (n : Nat) :
    Pieces (l ++ List.replicate n ')') (.number x :: List.replicate n .parenClose) [] := by
  have hnext : ∀ c ∈ (List.replicate n ')').head?, isDigit c = false ∧ c ≠ '.' := by
    intro c hc
    obtain rfl := List.eq_of_mem_replicate (List.mem_of_mem_head? hc)
    decide
  refine .token ⟨?_, fun _ hpoint => ?_⟩ (pieces_replicate n)
  · rw [List.append_nil]
    exact longest_numeral h hnext
  · rw [List.append_nil] at hpoint
    exact (hnext '.' hpoint).2 rfl

theorem derivable_of_pieces {more : List Char} (hleads : Leads lead cs) (hu : Pieces u ts v)
    (hmore : Agrees v more) (hus : Pieces more us [])
    (hderived : Symbol.expression.Derived (ts ++ us)) : Derivable (lead ++ (u ++ more)) := by
  obtain ⟨e, d, hderives⟩ := hderived
  have hsplits : Splits (u ++ more) (ts ++ us) := (hu.change hmore).splits hus.splits_end
  exact ⟨ts ++ us, e, d, hleads.divides hsplits, hderives⟩

/-- White space ends the last token, then comes what is missing. -/
theorem extensible_of_begun (hleads : Leads lead cs) (hu : Pieces u ts v)
    (hbegun : Begun Symbol.expression.Derived ts) : Extensible (lead ++ u) := by
  have hextensible : ∀ more us, Pieces more us [] → Symbol.expression.Derived (ts ++ us) →
      Extensible (lead ++ u) := by
    intro more us hus hderived
    have hagrees : Agrees v (' ' :: more) := by
      rintro c ⟨⟩
      exact .inl (by decide)
    have hderivable := derivable_of_pieces hleads hu hagrees (.blank (by decide) hus) hderived
    exact ⟨' ' :: more, (List.append_assoc ..).symm ▸ hderivable⟩
  obtain ⟨n, hvalue | ⟨-, hderived⟩⟩ := hbegun
  · have hzero : Numeral ['0'] (decimalValue ['0'] []) := .whole (by simp [Digits, isDigit]) (by simp)
    exact hextensible _ _ (hzero.pieces n) (hvalue _)
  · exact hextensible _ _ (pieces_replicate n) hderived

/-! ## Streams without a fault -/

/-- A stream up to its end, from a place that it comes to. -/
theorem Tokens.Begins.tail {a b : Tokens} {position : Nat} (h : Begins a ts b)
    (hend : Begins a us (.finish position)) :
    ∃ vs, us = ts ++ vs ∧ Begins b vs (.finish position) := by
  induction h generalizing us with
  | nil => exact ⟨us, rfl, hend⟩
  | cons _ ih =>
    cases hend with
    | cons hend =>
      obtain ⟨vs, rfl, hvs⟩ := ih hend
      exact ⟨vs, rfl, hvs⟩

/-- If a stream has no fault, a token is scanned where a character stands. -/
theorem scan_ok_of_begins {c : Char} {p position : Nat} (hc : Unicode.isBlank c = false)
    (h : Begins (Tokens.scan p 0 (c :: cs)) us (.finish position)) :
    ∃ t n tail vs, Token.scan c cs = .ok (t, n) ∧ Tokens.scan p 0 (c :: cs) = .next t p tail ∧
      us = t :: vs := by
  rw [Tokens.scan, if_neg (Bool.eq_false_iff.mp hc)] at h ⊢
  cases hscan : Token.scan c cs with
  | error fault =>
    rw [hscan] at h
    cases h
  | ok found =>
    obtain ⟨t, n⟩ := found
    rw [hscan] at h
    cases h
    exact ⟨t, n, _, _, rfl, rfl, rfl⟩

/-- The stream of a text that derives has no fault, and what it holds derives. -/
theorem Derivable.begins {offset : Nat} {text : List Char} (h : Derivable text)
    (hbody : Formula.body text = (offset, cs)) :
    ∃ ts e d position, Begins (Tokens.scan offset 0 cs) ts (.finish position) ∧
      Derives .expression ts e d := by
  obtain ⟨ts, e, d, ⟨blanks, rest, hblanks, htext, hsplits⟩, hderives⟩ := h
  have hsplits := Formula.splits_body hblanks htext hsplits hderives
  rw [hbody] at hsplits
  obtain ⟨position, hbegins⟩ := begins_of_splits hsplits hderives.apart offset
  exact ⟨ts, e, d, position, hbegins, hderives⟩

theorem EndsOperand.not_parted {x : Float} (h : EndsOperand ts) :
    ¬ Parted (ts ++ .number x :: us) := by
  obtain ⟨vs, t, rfl, ht⟩ := h
  intro hparted
  rw [List.append_assoc] at hparted
  have hpair := (List.isChain_append.mp hparted).2.1
  exact (List.isChain_cons_cons.mp hpair).1 ⟨ht, rfl⟩

/-- No text that derives has a number right after an operand. -/
theorem not_extensible {c : Char} {m : List Char} (hleads : Leads lead (u ++ c :: m))
    (hu : Pieces u ts (c :: m)) (hends : EndsOperand ts) (hc : isDigit c = true ∨ c = '.')
    (l : List Char) : ¬ Extensible (lead ++ (u ++ c :: l)) := by
  rintro ⟨more, hmore⟩
  have hblank : Unicode.isBlank c = false := (Start.numeral hc).not_blank
  rw [List.append_assoc, List.append_assoc, List.cons_append] at hmore
  have hleads' : Leads lead (u ++ c :: (l ++ more)) := hleads.change (by cases u <;> rfl)
  obtain ⟨us, e, d, position, hbegins, hderives⟩ := hmore.begins hleads'.body_eq
  have hu' : Pieces u ts (c :: (l ++ more)) := hu.change (.of_head rfl)
  have hfront := hu'.begins (byteLength lead)
  obtain ⟨vs, rfl, hvs⟩ := hfront.tail hbegins
  obtain ⟨t, n, tail, ws, hscan, -, rfl⟩ := scan_ok_of_begins hblank hvs
  obtain ⟨l', rest, -, hscanned⟩ := lexeme_of_scan hscan
  obtain ⟨x, -, rfl⟩ := hscanned.longest.lexeme.of_numeralStart hc
  exact hends.not_parted hderives.parted

namespace Formula

/-- What is read has a stream without a fault. So where a character stands that does not go
on with the pieces before it a token is scanned, and the whole stream is read. -/
theorem scan_ok_of_parse {c : Char} {m more : List Char} {text : String} {e : Expr}
    (hleads : Leads lead (u ++ c :: m)) (hu : Pieces u ts (c :: m))
    (hc : Unicode.isBlank c = false) (htext : text.toList = lead ++ (u ++ c :: more))
    (h : parse text = .ok e) :
    ∃ t n stream p tail r, Token.scan c more = .ok (t, n) ∧ Begins stream ts (.next t p tail) ∧
      whole stream = .ok r := by
  have hleads' : Leads lead (u ++ c :: more) := hleads.change (by cases u <;> rfl)
  have hbody : body text.toList = (byteLength lead, u ++ c :: more) := htext ▸ hleads'.body_eq
  have hu' : Pieces u ts (c :: more) := hu.change (.of_head rfl)
  have hfront := hu'.begins (byteLength lead)
  obtain ⟨p, position, hread, -⟩ := (parse_eq_ok text e).mp h
  rw [hbody] at hread
  obtain ⟨us, d, hbegins, -⟩ := sound_expression (sound_unary _) _ _ _ hread
  obtain ⟨vs, -, hvs⟩ := hfront.tail hbegins
  obtain ⟨t, n, tail, ws, hscan, hnext, -⟩ := scan_ok_of_begins hc hvs
  rw [hnext] at hfront
  refine ⟨t, n, _, _, tail, (p.expr, .finish position), hscan, hfront, ?_⟩
  rw [whole, ready_eq (hfront.ready trivial), ok_bind, hread]
  rfl

/-- No text is read that begins so. -/
def Rejected (front : List Char) : Prop :=
  ∀ (text : String) (more : List Char) (e : Expr), text.toList = front ++ more → parse text ≠ .ok e

/-- A token that is refused is refused whatever the text goes on with after its first
character. -/
theorem rejected_token {c : Char} {m l : List Char} {t : Token} {p : Nat} {tail : Tokens}
    {why : Refusal} (hleads : Leads lead (u ++ c :: m)) (hu : Pieces u ts (c :: m))
    (hlexeme : Lexeme (c :: l) t)
    (hrefused : ∀ tokens' rest', Begins tokens' ts rest' → (Tokens.next t p tail).Similar rest' →
      whole tokens' = .error (why.at rest')) :
    Rejected (lead ++ (u ++ [c])) := by
  intro text more e htext h
  obtain ⟨c', l', heq, hstart⟩ := hlexeme.head
  obtain ⟨rfl, rfl⟩ := List.cons.inj heq
  obtain ⟨t', n, stream, p', tail', r, hscan, hbegins, hwhole⟩ :=
    scan_ok_of_parse hleads hu hstart.not_blank (by simpa using htext) h
  obtain ⟨l'', rest, -, hscanned⟩ := lexeme_of_scan hscan
  have halike := hlexeme.alike hscanned.longest.lexeme
  rw [hrefused stream _ hbegins (.next halike ..)] at hwhole
  cases hwhole

theorem exists_lexeme {c : Char} (hc : Start c) (hpoint : c ≠ '.') (hquote : c ≠ '"') :
    ∃ t, Lexeme [c] t := by
  cases hc with
  | symbol h =>
    have hsymbols : symbolStarts.all (fun c => (ofSymbol? [c]).bind symbol? == some [c]) = true := by
      decide
    have hc := beq_iff_eq.mp (List.all_eq_true.mp hsymbols c h)
    obtain ⟨t, -, ht⟩ := Option.bind_eq_some_iff.mp hc
    exact ⟨t, .symbol ht⟩
  | numeral h => exact ⟨_, .number (.whole (by simpa [Digits] using h.resolve_right hpoint) (by simp))⟩
  | quote => exact absurd rfl hquote
  | word h => exact ⟨_, .word h (List.forall_mem_nil _)⟩

/-- A character that begins no token is refused whatever comes after it, unless it is a
point. -/
theorem rejected_char {c : Char} {m : List Char} (hleads : Leads lead (u ++ c :: m))
    (hu : Pieces u ts (c :: m)) (hblank : Unicode.isBlank c = false)
    (hno : ∀ l rest t, l ++ rest = c :: m → ¬ Lexeme l t)
    (hpoint : c ≠ '.') (hquote : c ≠ '"') : Rejected (lead ++ (u ++ [c])) := by
  intro text more e htext h
  obtain ⟨t', n, stream, p', tail', r, hscan, -, -⟩ :=
    scan_ok_of_parse hleads hu hblank (by simpa using htext) h
  obtain ⟨l, rest, -, hscanned⟩ := lexeme_of_scan hscan
  obtain ⟨c', l', heq, hstart⟩ := hscanned.longest.lexeme.head
  obtain ⟨rfl, -⟩ := List.cons.inj heq
  obtain ⟨t, ht⟩ := exists_lexeme hstart hpoint hquote
  exact hno [c] m t rfl ht

/-- So is a second point in a number. -/
theorem rejected_point {c : Char} {l rest : List Char} {x : Float}
    (hleads : Leads lead (u ++ c :: (l ++ '.' :: rest))) (hu : Pieces u ts (c :: (l ++ '.' :: rest)))
    (hlongest : Longest (c :: l) ('.' :: rest) (.number x)) :
    Rejected (lead ++ (u ++ c :: l) ++ ['.']) := by
  intro text more e htext h
  obtain ⟨c', l', heq, hstart⟩ := hlongest.lexeme.head
  obtain ⟨rfl, rfl⟩ := List.cons.inj heq
  have htext' : text.toList = lead ++ (u ++ c :: (l ++ '.' :: more)) := by simpa using htext
  obtain ⟨t', n, stream, p', tail', r, hscan, -, -⟩ :=
    scan_ok_of_parse hleads hu hstart.not_blank htext' h
  obtain ⟨l', rest', htail, hscanned⟩ := lexeme_of_scan hscan
  have hchanged : Longest (c :: l) ('.' :: more) (.number x) := hlongest.change (.of_head rfl)
  obtain ⟨-, rfl, rfl⟩ := hchanged.unique hscanned.longest (congrArg (c :: ·) htail)
  exact hscanned.point rfl rfl

/-! ## What an error points at -/

/-- The error is about what is missing at the place where it points: the rest of the text,
a closing quote, or a digit after a point. -/
inductive Unfinished : Problem → List Char → Prop
  | empty {after : List Char} (h : ∀ c ∈ after, Unicode.isBlank c = true) : Unfinished .empty after
  | finish (place : Place) : Unfinished (.unexpected .finish place) []
  | call (name : String) : Unfinished (.unclosedCall name) []
  | text {cs : List Char} (h : ∀ body s rest, Quoted body s → cs ≠ body ++ '"' :: rest) :
      Unfinished (.token .unterminatedText) ('"' :: cs)
  | point {cs : List Char} (h : ∀ c ∈ cs.head?, isDigit c = false) :
      Unfinished (.token (.unexpectedChar '.')) ('.' :: cs)

/-- The error is about a piece of the text, the token or character at the place where it
points, with the rest of the text after it. -/
inductive Offends : Problem → List Char → List Char → Prop
  | char {c : Char} (hc : c ≠ '.') (rest : List Char) :
      Offends (.token (.unexpectedChar c)) [c] rest
  | point (rest : List Char) : Offends (.token .secondPoint) ['.'] rest
  | comparison {op : Comparison} {l rest : List Char} (h : Longest l rest (.comparison op)) :
      Offends (.comparison op) l rest
  | token {t : Token} {l rest : List Char} (place : Place) (ht : ∀ op, t ≠ .comparison op)
      (h : Longest l rest t) : Offends (.unexpected (.token t) place) l rest

/-- The text ends in a number right after an operand. What comes before the number can be
completed to a text that derives, but no text that derives begins with all of it. -/
def Misplaced (before : List Char) : Prop :=
  ¬ Extensible before ∧ ∃ front number ts, before = front ++ number ∧ (∃ x, Numeral number x) ∧
    Divides front ts ∧ EndsOperand ts ∧ Extensible front

/-- What is right about an error that points in between two parts of a text. -/
structure Blames (problem : Problem) (before after : List Char) : Prop where
  extensible : Extensible before ∨ problem = .token .secondPoint ∧ Misplaced before
  offends : Unfinished problem after ∨
    ∃ piece rest, after = piece ++ rest ∧ Offends problem piece rest ∧ Rejected (before ++ piece)

variable {problem : Problem} {position p : Nat} {why : Refusal}

theorem blames_finish (hleads : Leads lead (u ++ [])) (hu : Pieces u ts [])
    (hbegun : Begun Symbol.expression.Derived ts)
    (hat : why.at (.finish p) = .malformed problem position) :
    position = p ∧ Blames problem (lead ++ u) [] := by
  have hextensible : Extensible (lead ++ u) := extensible_of_begun hleads hu hbegun
  cases why with
  | unexpected place =>
    cases hat
    exact ⟨rfl, .inl hextensible, .inl (.finish place)⟩
  | afterArgument name =>
    cases hat
    exact ⟨rfl, .inl hextensible, .inl (.call name)⟩

/-- The problem with a token that is refused. -/
theorem Refusal.at_next {t : Token} {tail : Tokens}
    (hat : why.at (.next t p tail) = .malformed problem position) :
    position = p ∧ ((∃ op, t = .comparison op ∧ problem = .comparison op) ∨
      (∀ op, t ≠ .comparison op) ∧ ∃ place, problem = .unexpected (.token t) place) := by
  have hunexpected : ∀ place, Formula.unexpected place (.next t p tail) = .malformed problem position →
      position = p ∧ ((∃ op, t = .comparison op ∧ problem = .comparison op) ∨
        (∀ op, t ≠ .comparison op) ∧ ∃ place, problem = .unexpected (.token t) place) := by
    intro place hplace
    cases t with
    | comparison op =>
      cases hplace
      exact ⟨rfl, .inl ⟨op, rfl, rfl⟩⟩
    | _ =>
      cases hplace
      exact ⟨rfl, .inr ⟨fun _ heq => (by cases heq), place, rfl⟩⟩
  cases why with
  | unexpected place => exact hunexpected place hat
  | afterArgument name => exact hunexpected .afterArgument hat

theorem Refusal.at_fault {cause : TokenFault}
    (hat : why.at (.fault cause p) = .malformed problem position) :
    position = p ∧ problem = .token cause := by
  cases why <;> (cases hat; exact ⟨rfl, rfl⟩)

theorem blames_next {c : Char} {l rest : List Char} {t : Token} {tail : Tokens}
    (hleads : Leads lead (u ++ c :: (l ++ rest))) (hu : Pieces u ts (c :: (l ++ rest)))
    (hbegun : Begun Symbol.expression.Derived ts) (hscanned : Scanned (c :: l) rest t)
    (hrefused : ∀ tokens' rest', Begins tokens' ts rest' → (Tokens.next t p tail).Similar rest' →
      whole tokens' = .error (why.at rest'))
    (hat : why.at (.next t p tail) = .malformed problem position) :
    position = p ∧ Blames problem (lead ++ u) (c :: (l ++ rest)) := by
  have hrejected : Rejected (lead ++ u ++ c :: l) := by
    intro text more e htext
    exact rejected_token hleads hu hscanned.longest.lexeme hrefused text (l ++ more) e
      (by simpa using htext)
  obtain ⟨rfl, hproblem⟩ := Refusal.at_next hat
  refine ⟨rfl, .inl (extensible_of_begun hleads hu hbegun), .inr ⟨c :: l, rest, rfl, ?_, hrejected⟩⟩
  rcases hproblem with ⟨op, rfl, rfl⟩ | ⟨ht, place, rfl⟩
  · exact .comparison hscanned.longest
  · exact .token place ht hscanned.longest

theorem blames_char {c : Char} {m : List Char} (hleads : Leads lead (u ++ c :: m))
    (hu : Pieces u ts (c :: m)) (hblank : Unicode.isBlank c = false)
    (hbegun : Begun Symbol.expression.Derived ts) (hquote : c ≠ '"')
    (hno : ∀ l rest t, l ++ rest = c :: m → ¬ Lexeme l t) :
    Blames (.token (.unexpectedChar c)) (lead ++ u) (c :: m) := by
  refine ⟨.inl (extensible_of_begun hleads hu hbegun), ?_⟩
  by_cases hpoint : c = '.'
  · subst hpoint
    refine .inl (.point fun d hd => ?_)
    obtain ⟨ds, rfl⟩ : ∃ ds, m = d :: ds := List.head?_eq_some_iff.mp hd
    by_contra hdigit
    have hnumeral : Numeral ([] ++ '.' :: [d]) (decimalValue [] [d]) :=
      .point (List.forall_mem_nil _) (by simpa [Digits] using hdigit) (.inr (by simp))
    exact hno ['.', d] ds _ rfl (.number hnumeral)
  · refine .inr ⟨[c], m, rfl, .char hpoint m, ?_⟩
    rw [List.append_assoc]
    exact rejected_char hleads hu hblank hno hpoint hquote

theorem blames_quote {m : List Char} (hleads : Leads lead (u ++ '"' :: m))
    (hu : Pieces u ts ('"' :: m)) (hbegun : Begun Symbol.expression.Derived ts)
    (hno : ∀ l rest t, l ++ rest = '"' :: m → ¬ Lexeme l t) :
    Blames (.token .unterminatedText) (lead ++ u) ('"' :: m) := by
  refine ⟨.inl (extensible_of_begun hleads hu hbegun), .inl (.text ?_)⟩
  rintro body s rest hquoted rfl
  exact hno _ rest _ (by simp) (.text hquoted)

theorem blames_point {c : Char} {l rest : List Char} {x : Float}
    (hleads : Leads lead (u ++ c :: (l ++ '.' :: rest))) (hu : Pieces u ts (c :: (l ++ '.' :: rest)))
    (hbegun : Begun Symbol.expression.Derived ts)
    (hlongest : Longest (c :: l) ('.' :: rest) (.number x)) :
    Blames (.token .secondPoint) (lead ++ (u ++ c :: l)) ('.' :: rest) := by
  have hnumeral : Numeral (c :: l) x := hlongest.lexeme.numeral
  refine ⟨?_, .inr ⟨['.'], rest, rfl, .point rest, rejected_point hleads hu hlongest⟩⟩
  obtain ⟨n, hvalue | ⟨hends, -⟩⟩ := id hbegun
  · -- where a value is expected, the number is one
    have hagrees : Agrees (c :: (l ++ '.' :: rest)) (c :: l ++ List.replicate n ')') := .of_head rfl
    have hderivable := derivable_of_pieces hleads hu hagrees (hnumeral.pieces n) (hvalue x)
    exact .inl ⟨List.replicate n ')', by simpa using hderivable⟩
  · obtain ⟨c', l', heq, hc⟩ := hnumeral.head
    obtain ⟨rfl, rfl⟩ := List.cons.inj heq
    have hfront : Pieces u ts [] := hu.change .nil
    exact .inr ⟨rfl, not_extensible hleads hu hends hc l, lead ++ u, c :: l, ts, by simp,
      ⟨x, hnumeral⟩, hleads.divides hfront.splits_end, hends, extensible_of_begun hleads hu hbegun⟩

theorem blames_empty {offset : Nat} (hleads : Leads lead cs)
    (hfinish : Tokens.scan offset 0 cs = .finish p) : Blames .empty lead cs := by
  have hextensible : Extensible (lead ++ []) :=
    extensible_of_begun (v := cs) hleads .nil (.start .expression)
  rw [List.append_nil] at hextensible
  refine ⟨.inl hextensible, .inl (.empty ?_)⟩
  obtain ⟨blanks, rest, rfl, hblanks, hrest⟩ := exists_front cs
  rw [scan_blanks hblanks] at hfinish
  cases rest with
  | nil => rwa [List.append_nil]
  | cons c m =>
    rw [Tokens.scan, if_neg (Bool.eq_false_iff.mp (hrest c rfl))] at hfinish
    split at hfinish <;> cases hfinish

/-- At whatever stands where the stream has come to, the error is right. -/
theorem blames_of_refused (hleads : Leads lead (u ++ v)) (hu : Pieces u ts v)
    (hv : ∀ c ∈ v.head?, Unicode.isBlank c = false) (hbegun : Begun Symbol.expression.Derived ts)
    (hrefused : ∀ tokens' rest', Begins tokens' ts rest' → (Tokens.scan p 0 v).Similar rest' →
      whole tokens' = .error (why.at rest'))
    (hat : why.at (Tokens.scan p 0 v) = .malformed problem position) :
    ∃ l after, v = l ++ after ∧ position = p + byteLength l ∧
      Blames problem (lead ++ (u ++ l)) after := by
  cases v with
  | nil =>
    obtain ⟨rfl, hblames⟩ := blames_finish hleads hu hbegun hat
    exact ⟨[], [], rfl, rfl, by rwa [List.append_nil]⟩
  | cons c m =>
    have hblank : Unicode.isBlank c = false := hv c rfl
    have hfinds := scan_finds c m
    generalize hscan : Token.scan c m = found at hfinds
    rw [Tokens.scan, if_neg (Bool.eq_false_iff.mp hblank), hscan] at hat hrefused
    cases hfinds with
    | token hscanned =>
      obtain ⟨rfl, hblames⟩ := blames_next hleads hu hbegun hscanned hrefused hat
      exact ⟨[], _, rfl, rfl, by rwa [List.append_nil]⟩
    | @point l rest x hlongest =>
      obtain ⟨rfl, rfl⟩ := Refusal.at_fault hat
      refine ⟨c :: l, '.' :: rest, rfl, ?_, blames_point hleads hu hbegun hlongest⟩
      have htake : (c :: (l ++ '.' :: rest)).take (l.length + 1) = c :: l := by simp
      rw [htake]
    | char hquote hno =>
      obtain ⟨rfl, rfl⟩ := Refusal.at_fault hat
      have hblames := blames_char hleads hu hblank hbegun hquote hno
      exact ⟨[], _, rfl, rfl, by rwa [List.append_nil]⟩
    | quote hc hno =>
      obtain ⟨rfl, rfl⟩ := Refusal.at_fault hat
      subst hc
      have hblames := blames_quote hleads hu hbegun hno
      exact ⟨[], _, rfl, rfl, by rwa [List.append_nil]⟩

/-- Where a text is refused, it is so for what stands there. -/
theorem exists_blames {text : String} (h : parse text = .error (.malformed problem position)) :
    ∃ before after, text.toList = before ++ after ∧ position = byteLength before ∧
      Blames problem before after := by
  obtain ⟨lead, cs, htext, hleads⟩ := exists_leads text.toList
  rw [parse_eq, htext, hleads.body_eq] at h
  dsimp only at h
  split at h
  · rename_i q hfinish
    cases h
    exact ⟨lead, cs, htext, rfl, blames_empty hleads hfinish⟩
  · obtain ⟨ts, rest, ending, hbegins, hcompletes, hwhole⟩ :=
      runs_whole (Tokens.scan (byteLength lead) 0 cs)
    rw [hwhole _ _ hbegins (.refl rest)] at h
    cases ending with
    | read e => cases h
    | tooDeep => cases h
    | refused why =>
      obtain ⟨u, v, rfl, hu, hv, rfl⟩ := exists_pieces hbegins
      have hat : why.at (Tokens.scan (byteLength lead + byteLength u) 0 v) =
          .malformed problem position := Except.error.inj h
      obtain ⟨l, after, rfl, rfl, hblames⟩ :=
        blames_of_refused hleads hu hv hcompletes hwhole hat
      refine ⟨lead ++ (u ++ l), after, by simp [htext], ?_, hblames⟩
      rw [byteLength_append, byteLength_append, Nat.add_assoc]

/-! ## The position of an error -/

deriving instance DecidableEq for Token, Found, Problem, ParseError

/-- Whether a text is refused with a certain error is decided by reading it. -/
instance (r : Except ParseError Expr) (e : ParseError) : Decidable (r = .error e) :=
  match r with
  | .ok _ => isFalse fun h => by cases h
  | .error e' => decidable_of_iff (e' = e) (.of_eq (Except.error.injEq ..).symm)

/-- An error points at a place between two parts of a text. A text that derives begins with
the first part, unless the error is a second point in a number that stands right after an
operand: then one begins with what comes before that number. And either the error is about
something missing there, or it is about a token or character there with which no text that
is read can go on after the first part. -/
theorem malformed_position (text : String) (problem : Problem) (position : Nat)
    (h : parse text = .error (.malformed problem position)) :
    ∃ before after : String, text = before ++ after ∧ before.utf8ByteSize = position ∧
      (Extensible before.toList ∨ problem = .token .secondPoint ∧ Misplaced before.toList) ∧
      (Unfinished problem after.toList ∨
        ∃ piece rest : String, after = piece ++ rest ∧ Offends problem piece.toList rest.toList ∧
          ∀ (more : String) (e : Expr), parse (before ++ piece ++ more) ≠ .ok e) := by
  obtain ⟨before, after, htext, rfl, hblames⟩ := exists_blames h
  refine ⟨String.ofList before, String.ofList after, ?_, ?_, ?_, ?_⟩
  · rw [← String.ofList_append, ← htext, String.ofList_toList]
  · rw [← byteLength_toList, String.toList_ofList]
  · rw [String.toList_ofList]
    exact hblames.extensible
  · rw [String.toList_ofList]
    refine hblames.offends.imp_right ?_
    rintro ⟨piece, rest, rfl, hoffends, hrejected⟩
    refine ⟨String.ofList piece, String.ofList rest, String.ofList_append, ?_, ?_⟩
    · rwa [String.toList_ofList, String.toList_ofList]
    · intro more e
      exact hrejected _ more.toList e (by simp)

/-- A word where an argument should have ended, after a literal with a character of two
bytes. -/
theorem malformed_position_argument :
    parse "=f(\"ü\" b)" = .error (.malformed (.unexpected (.token (.word "b")) .afterArgument) 8) ∧
    ∃ before after : String, "=f(\"ü\" b)" = before ++ after ∧ before.utf8ByteSize = 8 ∧
      (Extensible before.toList ∨
        Problem.unexpected (.token (.word "b")) .afterArgument = .token .secondPoint ∧
          Misplaced before.toList) ∧
      (Unfinished (.unexpected (.token (.word "b")) .afterArgument) after.toList ∨
        ∃ piece rest : String, after = piece ++ rest ∧
          Offends (.unexpected (.token (.word "b")) .afterArgument) piece.toList rest.toList ∧
          ∀ (more : String) (e : Expr), parse (before ++ piece ++ more) ≠ .ok e) := by
  have herror : parse "=f(\"ü\" b)" =
      .error (.malformed (.unexpected (.token (.word "b")) .afterArgument) 8) := by
    decide +kernel
  exact ⟨herror, malformed_position _ _ _ herror⟩

/-- The scanner is one token ahead of the reader, so the second point of a number is
reported although the number itself should not stand there. -/
theorem second_point_misplaced :
    parse "a 1.2.3" = .error (.malformed (.token .secondPoint) 5) ∧
    "a 1.2.3" = "a 1.2" ++ ".3" ∧ "a 1.2".utf8ByteSize = 5 ∧ ¬ Extensible "a 1.2".toList := by
  refine ⟨by decide +kernel, by decide, by decide, ?_⟩
  have hnext : ∀ c ∈ [' ', '1', '.', '2', '.', '3'].head?, continuesWord c = false := by
    rintro c ⟨⟩
    decide
  have hword : Longest ['a'] [' ', '1', '.', '2', '.', '3'] (.word "a") :=
    longest_identifier (by decide) (List.forall_mem_nil _) hnext
  have hpieces : Pieces ['a', ' '] [.word "a"] ['1', '.', '2', '.', '3'] :=
    .token (l := ['a']) (hword.scanned rfl) (.blank (by decide) .nil)
  have hleads : Leads [] (['a', ' '] ++ ['1', '.', '2', '.', '3']) := by
    refine .plain (List.forall_mem_nil _) ?_
    rintro c ⟨⟩
    decide
  exact not_extensible hleads hpieces (.single rfl) (.inl (by decide)) ['.', '2']

end Formula

end Worksheet
