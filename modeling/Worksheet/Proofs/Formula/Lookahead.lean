import Worksheet.Proofs.Formula.Soundness

/- Worksheet Lookahead — what a reader looks at.

   A reader looks at the tokens that it takes and at the kind of the one after them, and
   at no position. So on every stream that begins with the same tokens and goes on with a
   token of the same kind it ends in the same way (`Runs`): with the same result, or with
   the same error about the token that comes next. Each reader is made from smaller ones
   by taking a token, looking at the next one and going on, and `Runs` is closed under
   these steps. -/
namespace Worksheet

/-! ## Streams that look alike -/

/-- Tokens of one kind, whatever they hold. -/
inductive Token.Alike : Token → Token → Prop
  | refl (t : Token) : Alike t t
  | number (x y : Float) : Alike (.number x) (.number y)
  | text (s s' : String) : Alike (.text s) (.text s')
  | word (name name' : String) : Alike (.word name) (.word name')
  | comparison (op op' : Comparison) : Alike (.comparison op) (.comparison op')

namespace Tokens

/-- Streams that cannot be told apart by the kind of what comes first. -/
inductive Similar : Tokens → Tokens → Prop
  | finish (p q : Nat) : Similar (.finish p) (.finish q)
  | fault (cause : TokenFault) (p q : Nat) : Similar (.fault cause p) (.fault cause q)
  | next {t t' : Token} (h : t.Alike t') (p q : Nat) (rest rest' : Tokens) :
      Similar (.next t p rest) (.next t' q rest')

theorem Similar.refl (tokens : Tokens) : Similar tokens tokens := by
  cases tokens with
  | finish p => exact .finish p p
  | fault cause p => exact .fault cause p p
  | next t p rest => exact .next (.refl t) p p rest rest

/-- Streams that begin with the same tokens are similar if what comes after them is. -/
theorem Similar.of_begins {a b a' b' : Tokens} {ts : List Token} (h : Begins a ts b)
    (h' : Begins a' ts b') (hb : b.Similar b') : a.Similar a' := by
  cases h with
  | nil =>
    cases h'
    exact hb
  | cons _ =>
    cases h' with
    | cons _ => exact .next (.refl _) ..

end Tokens

namespace Formula

open Tokens (Begins)

/-! ## How readers end -/

/-- Why the token that comes next is refused. -/
inductive Refusal where
  | unexpected (place : Place)
  | afterArgument (name : String)

/-- The error for the token that a stream begins with. -/
def Refusal.at : Refusal → Tokens → ParseError
  | unexpected place, tokens => Formula.unexpected place tokens
  | afterArgument name, .finish position => .malformed (.unclosedCall name) position
  | afterArgument _, tokens => Formula.unexpected .afterArgument tokens

/-- How a reader ends: with a result, at a token that it refuses, or because of the limit
of depth. -/
inductive Ending (α : Type) where
  | read (a : α)
  | refused (why : Refusal)
  | tooDeep

/-- What a reader gives that ends so in front of a stream. -/
def Ending.at {α : Type} : Ending α → Tokens → Except ParseError (α × Tokens)
  | read a, rest => .ok (a, rest)
  | refused why, rest => .error (why.at rest)
  | tooDeep, _ => .error .tooDeep

/-- A node is made unless it is too high. -/
theorem node_eq (e : Expr) (height : Nat) :
    node e height = .error .tooDeep ∨ ∃ p, node e height = .ok p := by
  rw [node]
  split
  · exact .inl rfl
  · exact .inr ⟨_, rfl⟩

/-- On the stream the reader takes some tokens and ends in front of the rest, with what is
said of them; and so it does on every stream with these tokens and a similar rest. -/
def Runs {α : Type} (x : Reader α) (tokens : Tokens)
    (Q : List Token → Tokens → Ending α → Prop) : Prop :=
  ∃ ts rest ending, Begins tokens ts rest ∧ Q ts rest ending ∧
    ∀ tokens' rest', Begins tokens' ts rest' → rest.Similar rest' → x tokens' = ending.at rest'

namespace Runs

variable {α β : Type} {x y : Reader α} {tokens : Tokens}
  {Q R : List Token → Tokens → Ending α → Prop} {S : List Token → Tokens → Ending β → Prop}

theorem mono (h : Runs x tokens R) (hQ : ∀ ts rest ending, R ts rest ending → Q ts rest ending) :
    Runs x tokens Q := by
  obtain ⟨ts, rest, ending, hbegins, hR, heq⟩ := h
  exact ⟨ts, rest, ending, hbegins, hQ _ _ _ hR, heq⟩

/-- A reader that ends without taking a token. -/
theorem here (ending : Ending α) (hQ : Q [] tokens ending)
    (h : ∀ tokens', tokens.Similar tokens' → x tokens' = ending.at tokens') : Runs x tokens Q := by
  refine ⟨[], tokens, ending, .nil, hQ, fun tokens' rest' hbegins hsimilar => ?_⟩
  cases hbegins
  exact h tokens' hsimilar

theorem congr (h : Runs y tokens Q)
    (heq : ∀ tokens', tokens.Similar tokens' → x tokens' = y tokens') : Runs x tokens Q := by
  obtain ⟨ts, rest, ending, hbegins, hQ, hy⟩ := h
  refine ⟨ts, rest, ending, hbegins, hQ, fun tokens' rest' hbegins' hsimilar => ?_⟩
  rw [heq tokens' (.of_begins hbegins hbegins' hsimilar), hy tokens' rest' hbegins' hsimilar]

/-- A reader that takes a token and goes on as another. -/
theorem next {t : Token} {p : Nat} {tail : Tokens} (h : Runs y tail fun us => Q (t :: us))
    (heq : ∀ p' tail', x (.next t p' tail') = y tail') : Runs x (.next t p tail) Q := by
  obtain ⟨ts, rest, ending, hbegins, hQ, hy⟩ := h
  refine ⟨t :: ts, rest, ending, .cons hbegins, hQ, fun tokens' rest' hbegins' hsimilar => ?_⟩
  cases hbegins' with
  | cons hbegins' => rw [heq, hy _ rest' hbegins' hsimilar]

/-- A reader that looks whether there is a token at all. -/
theorem ready (hfault : Q [] tokens (.refused (.unexpected .valueExpected)))
    (h : Runs x tokens Q) : Runs (fun tokens => Formula.ready tokens >>= x) tokens Q := by
  cases tokens with
  | fault cause p =>
    refine here _ hfault fun tokens' hsimilar => ?_
    cases hsimilar
    rfl
  | finish p =>
    refine h.congr fun tokens' hsimilar => ?_
    cases hsimilar
    rfl
  | next t p rest =>
    refine h.congr fun tokens' hsimilar => ?_
    cases hsimilar
    rfl

/-- A reader that goes on with what another has read. -/
theorem bind {z : Reader β} {f : β × Tokens → Except ParseError (α × Tokens)}
    (hz : Runs z tokens S)
    (hread : ∀ ts rest b, Begins tokens ts rest → S ts rest (.read b) →
      Runs (fun rest => f (b, rest)) rest fun us => Q (ts ++ us))
    (hrefused : ∀ ts rest why, S ts rest (.refused why) → Q ts rest (.refused why))
    (hdeep : ∀ ts rest, Q ts rest .tooDeep) :
    Runs (fun tokens => z tokens >>= f) tokens Q := by
  obtain ⟨ts, middle, ending, hbegins, hS, hz⟩ := hz
  cases ending with
  | read b =>
    obtain ⟨us, rest, ending, hbegins', hQ, hf⟩ := hread ts middle b hbegins hS
    refine ⟨ts ++ us, rest, ending, hbegins.append hbegins', hQ, ?_⟩
    intro tokens' rest' hboth hsimilar
    obtain ⟨middle', hfirst, hsecond⟩ := hboth.split
    show (z tokens' >>= _) = _
    rw [hz tokens' middle' hfirst (.of_begins hbegins' hsecond hsimilar)]
    exact hf middle' rest' hsecond hsimilar
  | refused why =>
    refine ⟨ts, middle, .refused why, hbegins, hrefused ts middle why hS, ?_⟩
    intro tokens' rest' hbegins' hsimilar
    show (z tokens' >>= _) = _
    rw [hz tokens' rest' hbegins' hsimilar]
    rfl
  | tooDeep =>
    refine ⟨ts, middle, .tooDeep, hbegins, hdeep ts middle, ?_⟩
    intro tokens' rest' hbegins' hsimilar
    show (z tokens' >>= _) = _
    rw [hz tokens' rest' hbegins' hsimilar]
    rfl

/-- A reader that makes a node first, which may be too high. -/
theorem node {x : Except ParseError Parsed} {f : Parsed → Reader α}
    (hx : x = .error .tooDeep ∨ ∃ p, x = .ok p) (hdeep : Q [] tokens .tooDeep)
    (h : ∀ p, Runs (f p) tokens Q) : Runs (fun tokens => x >>= fun p => f p tokens) tokens Q := by
  rcases hx with rfl | ⟨p, rfl⟩
  · exact here .tooDeep hdeep fun _ _ => rfl
  · exact (h p).congr fun _ _ => rfl

/-- What a reader gives comes from its run. -/
theorem eq_at (h : Runs x tokens Q) : ∃ ts rest ending, Begins tokens ts rest ∧ Q ts rest ending ∧
    x tokens = ending.at rest := by
  obtain ⟨ts, rest, ending, hbegins, hQ, hx⟩ := h
  exact ⟨ts, rest, ending, hbegins, hQ, hx tokens rest hbegins (.refl rest)⟩

/-- A reader leaves no more tokens than there were. -/
theorem length_le (h : Runs x tokens Q) {a : α} {rest : Tokens} (hx : x tokens = .ok (a, rest)) :
    rest.length ≤ tokens.length := by
  obtain ⟨ts, rest', ending, hbegins, -, heq⟩ := h.eq_at
  rw [hx] at heq
  cases ending with
  | read b =>
    obtain ⟨-, rfl⟩ := Prod.mk.inj (Except.ok.inj heq)
    rw [hbegins.length_eq]
    exact Nat.le_add_left ..
  | refused why => cases heq
  | tooDeep => cases heq

end Runs

end Formula

end Worksheet
