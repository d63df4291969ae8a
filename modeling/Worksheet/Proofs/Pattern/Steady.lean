import Mathlib.Tactic.SplitIfs
import Worksheet.Pattern.Reader

/- Worksheet Steady Readers — what a reader does when more text follows.

   A pattern that is held to the ends of what it matches is read with a closing after it.
   `Steady` says of a reader that it does the same with the closing and without it, as far as
   the text goes: what it reads is the same and the closing is left, unless a comment has
   swallowed it. Where it fails without the closing, it may go on for some time with it,
   but only after the parenthesis has been used up, so nothing will ever match it. The
   readers of a pattern are put together from a few combinations, and each combination of
   steady readers is steady. -/
namespace Worksheet.PatternTree

variable {α β : Type}

/-- What reads something off the front of a text and gives what is left. -/
abbrev Reader (α : Type) := List Char → Option (α × List Char)

namespace Reader

/-- Reads nothing. -/
def result (a : α) : Reader α := fun cs => some (a, cs)

def fail : Reader α := fun _ => none

/-- One reader after the other. -/
def bind (x : Reader α) (f : α → Reader β) : Reader β := fun cs => (x cs).bind fun r => f r.1 r.2

/-- A part that does not look at the text. -/
def given (o : Option α) (f : α → Reader β) : Reader β := fun cs => o.bind fun a => f a cs

/-- The next character decides how to go on. -/
def next (f : Char → Reader α) : Reader α
  | [] => none
  | c :: cs => f c cs

/-- A character is taken if it comes next, or else the text is read in another way. -/
def peek (k : Char) (x x' : Reader α) : Reader α
  | [] => x' []
  | c :: cs => if c = k then x cs else x' (c :: cs)

/-- Two characters are taken if they come next. -/
def pair (k l : Char) (x x' : Reader α) : Reader α
  | c :: d :: cs => if c = k ∧ d = l then x cs else x' (c :: d :: cs)
  | cs => x' cs

/-- The text is read in another way where the first reader fails. -/
def orElse (x : Reader α) (f : α → Reader β) (x' : Reader β) : Reader β := fun cs =>
  match x cs with
  | some (a, rest) => f a rest
  | none => x' cs

/-- Some characters, and the one after them. -/
def upTo (goes : Char → Bool) (f : List Char → Char → Reader α) : Reader α := fun cs =>
  match cs.dropWhile goes with
  | [] => none
  | c :: rest => f (cs.takeWhile goes) c rest

/-- Some characters with blanks between them, and the one after them. -/
def spreadTo (blanks : Bool) (goes : Char → Bool) (f : List Char → Char → Reader α) : Reader α :=
  fun cs =>
    match spread blanks goes false cs with
    | (_, []) => none
    | (taken, c :: rest) => f taken c rest

/-- Blanks are skipped first. -/
def after (blanks : Bool) (x : Reader α) : Reader α := fun cs => x (skip blanks cs)

theorem next_bind (f : Char → Reader α) (g : α → Reader β) :
    bind (next f) g = next fun c => bind (f c) g := by
  funext cs
  cases cs <;> rfl

theorem peek_bind (k : Char) (x x' : Reader α) (f : α → Reader β) :
    bind (peek k x x') f = peek k (bind x f) (bind x' f) := by
  funext cs
  cases cs with
  | nil => rfl
  | cons c cs =>
    dsimp only [bind, peek]
    split <;> rfl

theorem bind_assoc {γ : Type} (x : Reader α) (f : α → Reader β) (g : β → Reader γ) :
    bind (bind x f) g = bind x fun a => bind (f a) g :=
  funext fun _ => Option.bind_assoc _ _ _

theorem peek_self (k : Char) (x x' : Reader α) (cs : List Char) : peek k x x' (k :: cs) = x cs :=
  if_pos rfl

theorem peek_of_ne {k : Char} {cs : List Char} (h : ∀ rest, cs ≠ k :: rest) (x x' : Reader α) :
    peek k x x' cs = x' cs := by
  cases cs with
  | nil => rfl
  | cons c cs => exact if_neg fun hc => h cs (congrArg (· :: cs) hc)

theorem peek_eq_none {k : Char} {x x' : Reader α} {cs : List Char}
    (h : ∀ rest, cs = k :: rest → x rest = none) (h' : x' cs = none) : peek k x x' cs = none := by
  by_cases hk : ∃ rest, cs = k :: rest
  · obtain ⟨rest, rfl⟩ := hk
    rw [peek_self, h rest rfl]
  · rw [peek_of_ne fun rest heq => hk ⟨rest, heq⟩, h']

theorem pair_self (k l : Char) (x x' : Reader α) (cs : List Char) :
    pair k l x x' (k :: l :: cs) = x cs :=
  if_pos ⟨rfl, rfl⟩

theorem pair_of_ne {k l : Char} {cs : List Char} (h : ∀ rest, cs ≠ k :: l :: rest)
    (x x' : Reader α) : pair k l x x' cs = x' cs := by
  unfold pair
  split
  · rename_i c d cs
    exact if_neg fun hc => h cs (by rw [hc.1, hc.2])
  · rfl

theorem pair_eq_none {k l : Char} {x x' : Reader α} {cs : List Char}
    (h : ∀ rest, cs = k :: l :: rest → x rest = none) (h' : x' cs = none) :
    pair k l x x' cs = none := by
  by_cases hk : ∃ rest, cs = k :: l :: rest
  · obtain ⟨rest, rfl⟩ := hk
    rw [pair_self, h rest rfl]
  · rw [pair_of_ne fun rest heq => hk ⟨rest, heq⟩, h']

end Reader

open Reader

/-! ## What is left -/

/-- A reader leaves a suffix of its text, and what it reads has a property. -/
def Sound (p : α → Prop) (x : Reader α) : Prop :=
  ∀ cs a rest, x cs = some (a, rest) → rest <:+ cs ∧ p a

theorem skipBlanks_suffix (inComment : Bool) (cs : List Char) : skipBlanks inComment cs <:+ cs := by
  induction cs generalizing inComment with
  | nil => exact List.suffix_rfl
  | cons c cs ih =>
    rw [skipBlanks]
    split_ifs
    · exact (ih _).trans (List.suffix_cons c cs)
    · exact (ih _).trans (List.suffix_cons c cs)
    · exact (ih _).trans (List.suffix_cons c cs)
    · exact List.suffix_rfl

theorem skip_suffix (blanks : Bool) (cs : List Char) : skip blanks cs <:+ cs := by
  cases blanks with
  | true => exact skipBlanks_suffix false cs
  | false => exact List.suffix_rfl

theorem spread_suffix (blanks : Bool) (goes : Char → Bool) (inComment : Bool) (cs : List Char) :
    (spread blanks goes inComment cs).2 <:+ cs := by
  induction cs generalizing inComment with
  | nil => exact List.suffix_rfl
  | cons c cs ih =>
    rw [spread]
    split_ifs
    · exact (ih _).trans (List.suffix_cons c cs)
    · exact (ih _).trans (List.suffix_cons c cs)
    · exact (ih _).trans (List.suffix_cons c cs)
    · exact (ih false).trans (List.suffix_cons c cs)
    · exact List.suffix_rfl

namespace Sound

variable {p : α → Prop} {q : β → Prop} {x x' : Reader α}

theorem result {a : α} (ha : p a) : Sound p (result a) := by
  intro cs b rest h
  cases h
  exact ⟨List.suffix_rfl, ha⟩

theorem fail : Sound p fail := fun _ _ _ h => nomatch h

theorem bind {f : α → Reader β} (h : Sound p x) (hf : ∀ a, p a → Sound q (f a)) :
    Sound q (x.bind f) := by
  intro cs b rest hr
  obtain ⟨⟨a, left⟩, hx, hb⟩ := Option.bind_eq_some_iff.mp hr
  obtain ⟨hleft, ha⟩ := h cs a left hx
  obtain ⟨hrest, hb⟩ := hf a ha left b rest hb
  exact ⟨hrest.trans hleft, hb⟩

theorem given {o : Option α} {f : α → Reader β} (h : ∀ a, o = some a → Sound q (f a)) :
    Sound q (given o f) := by
  cases o with
  | none => exact fail
  | some a => exact h a rfl

theorem ite {c : Prop} [Decidable c] (h : Sound p x) (h' : Sound p x') :
    Sound p (if c then x else x') := by
  split
  · exact h
  · exact h'

theorem next {f : Char → Reader α} (h : ∀ c, Sound p (f c)) : Sound p (next f) := by
  intro cs a rest hr
  cases cs with
  | nil => exact nomatch hr
  | cons c cs =>
    obtain ⟨hrest, ha⟩ := h c cs a rest hr
    exact ⟨hrest.trans (List.suffix_cons c cs), ha⟩

theorem peek {k : Char} (h : Sound p x) (h' : Sound p x') : Sound p (peek k x x') := by
  intro cs a rest hr
  cases cs with
  | nil => exact h' [] a rest hr
  | cons c cs =>
    rw [Reader.peek] at hr
    split at hr
    · obtain ⟨hrest, ha⟩ := h cs a rest hr
      exact ⟨hrest.trans (List.suffix_cons c cs), ha⟩
    · exact h' (c :: cs) a rest hr

theorem pair {k l : Char} (h : Sound p x) (h' : Sound p x') : Sound p (pair k l x x') := by
  intro cs a rest hr
  unfold Reader.pair at hr
  split at hr
  · rename_i c d cs
    split at hr
    · obtain ⟨hrest, ha⟩ := h cs a rest hr
      exact ⟨(hrest.trans (List.suffix_cons d cs)).trans (List.suffix_cons c _), ha⟩
    · exact h' _ a rest hr
  · exact h' _ a rest hr

theorem orElse {r : β → Prop} {z : Reader β} {f : β → Reader α} (hz : Sound r z)
    (hf : ∀ b, r b → Sound p (f b)) (h' : Sound p x') : Sound p (orElse z f x') := by
  intro cs a rest hr
  rw [Reader.orElse] at hr
  split at hr
  · rename_i b left hleft
    obtain ⟨hsuffix, hb⟩ := hz cs b left hleft
    obtain ⟨hrest, ha⟩ := hf b hb left a rest hr
    exact ⟨hrest.trans hsuffix, ha⟩
  · exact h' cs a rest hr

theorem upTo {goes : Char → Bool} {f : List Char → Char → Reader α}
    (h : ∀ taken c, Sound p (f taken c)) : Sound p (upTo goes f) := by
  intro cs a rest hr
  rw [Reader.upTo] at hr
  split at hr
  · exact nomatch hr
  · rename_i c left hdrop
    have hleft : left <:+ cs :=
      (List.suffix_cons c left).trans (hdrop ▸ List.dropWhile_suffix goes)
    obtain ⟨hrest, ha⟩ := h _ c left a rest hr
    exact ⟨hrest.trans hleft, ha⟩

theorem spreadTo {blanks : Bool} {goes : Char → Bool} {f : List Char → Char → Reader α}
    (h : ∀ taken c, Sound p (f taken c)) : Sound p (spreadTo blanks goes f) := by
  intro cs a rest hr
  rw [Reader.spreadTo] at hr
  split at hr
  · exact nomatch hr
  · rename_i taken c left hspread
    have hsuffix : c :: left <:+ cs := by
      have := spread_suffix blanks goes false cs
      rwa [hspread] at this
    obtain ⟨hrest, ha⟩ := h taken c left a rest hr
    exact ⟨(hrest.trans (List.suffix_cons c left)).trans hsuffix, ha⟩

theorem after (h : Sound p x) (blanks : Bool) : Sound p (x.after blanks) := by
  intro cs a rest hr
  obtain ⟨hrest, ha⟩ := h _ a rest hr
  exact ⟨hrest.trans (skip_suffix blanks cs), ha⟩

end Sound

/-! ## The closing -/

/-- What is written after a pattern that is held to the ends of what it matches. -/
def closing : List Char := [')', '$']

theorem isBlank_parenthesis : Unicode.isBlank ')' = false := by decide +kernel

/-- The closing stays after a text whose blanks are skipped, unless a comment swallows it. -/
theorem skipBlanks_closing (inComment : Bool) (cs : List Char) :
    skipBlanks inComment (cs ++ closing) = skipBlanks inComment cs ++ closing ∨
      skipBlanks inComment cs = [] ∧ skipBlanks inComment (cs ++ closing) = [] := by
  induction cs generalizing inComment with
  | nil =>
    cases inComment with
    | true => exact .inr ⟨rfl, by decide⟩
    | false => exact .inl (by decide)
  | cons c cs ih =>
    rw [List.cons_append, skipBlanks, skipBlanks]
    split_ifs
    · exact ih _
    · exact ih _
    · exact ih _
    · exact .inl rfl

theorem skip_closing (blanks : Bool) (cs : List Char) :
    skip blanks (cs ++ closing) = skip blanks cs ++ closing ∨
      skip blanks cs = [] ∧ skip blanks (cs ++ closing) = [] := by
  cases blanks with
  | true => exact skipBlanks_closing false cs
  | false => exact .inl rfl

theorem dropWhile_closing {goes : Char → Bool} (h : goes ')' = false) (cs : List Char) :
    (cs ++ closing).dropWhile goes = cs.dropWhile goes ++ closing := by
  rw [List.dropWhile_append]
  split_ifs with hempty
  · rw [List.isEmpty_iff.mp hempty, closing, List.dropWhile_cons_of_neg (by rw [h]; decide)]
    rfl
  · rfl

/-- Where some characters have an end in the text, the closing makes no difference to them. -/
theorem upTo_closing {goes : Char → Bool} {cs left : List Char} {c : Char}
    (h : cs.dropWhile goes = c :: left) (f : List Char → Char → Reader α) :
    upTo goes f (cs ++ closing) = f (cs.takeWhile goes) c (left ++ closing) := by
  have htaken : (cs.takeWhile goes).length ≠ cs.length := by
    have hlength := congrArg List.length (@List.takeWhile_append_dropWhile _ goes cs)
    rw [h, List.length_append, List.length_cons] at hlength
    omega
  rw [upTo, List.dropWhile_append, List.takeWhile_append, h, List.isEmpty_cons,
    if_neg Bool.false_ne_true, if_neg htaken]
  rfl

section Spread

variable {blanks : Bool} {goes : Char → Bool} {inComment : Bool} {cs left : List Char} {c : Char}

/-- Where the characters have an end in the text, what follows makes no difference to them. -/
theorem spread_append_of_left (h : (spread blanks goes inComment cs).2 = c :: left)
    (ds : List Char) : spread blanks goes inComment (cs ++ ds) =
      ((spread blanks goes inComment cs).1, c :: left ++ ds) := by
  induction cs generalizing inComment with
  | nil => exact nomatch h
  | cons d cs ih =>
    rw [spread] at h
    rw [List.cons_append, spread, spread]
    split_ifs at h ⊢
    · exact ih h
    · exact ih h
    · exact ih h
    · rw [ih h]
    · rw [← h]
      rfl

/-- Where the text is all taken, its characters go on in what follows. A comment at its end goes
on too. -/
theorem spread_append_of_nil (h : (spread blanks goes inComment cs).2 = []) (ds : List Char) :
    ∃ goesOn, spread blanks goes inComment (cs ++ ds) =
      ((spread blanks goes inComment cs).1 ++ (spread blanks goes goesOn ds).1,
        (spread blanks goes goesOn ds).2) := by
  induction cs generalizing inComment with
  | nil => exact ⟨inComment, rfl⟩
  | cons d cs ih =>
    rw [spread] at h
    rw [List.cons_append, spread, spread]
    split_ifs at h ⊢
    · exact ih h
    · exact ih h
    · exact ih h
    · obtain ⟨goesOn, heq⟩ := ih h
      exact ⟨goesOn, by rw [heq]; rfl⟩

/-- The closing stays after characters that its parenthesis ends, unless a comment swallows it. -/
theorem spread_closing (goes : Char → Bool) (h : goes ')' = false) (inComment : Bool)
    (cs : List Char) :
    spread blanks goes inComment (cs ++ closing) =
      ((spread blanks goes inComment cs).1, (spread blanks goes inComment cs).2 ++ closing) ∨
    (spread blanks goes inComment cs).2 = [] ∧ spread blanks goes inComment (cs ++ closing) =
      ((spread blanks goes inComment cs).1, []) := by
  cases hleft : (spread blanks goes inComment cs).2 with
  | cons c left => exact .inl (spread_append_of_left hleft closing)
  | nil =>
    obtain ⟨goesOn, heq⟩ := spread_append_of_nil hleft closing
    rw [heq]
    cases goesOn with
    | true => exact .inr ⟨rfl, by simp [closing, spread]⟩
    | false => exact .inl (by simp [closing, spread, isBlank_parenthesis, h])

end Spread

/-- Texts that may be left where the parenthesis of the closing was used up. -/
structure Spent (dead : List Char → Prop) : Prop where
  dollar : dead ['$']
  suffix : ∀ {cs rest}, rest <:+ cs → dead cs → dead rest

/-- A character of the closing is used up. -/
theorem Spent.of_closing {dead : List Char → Prop} (h : Spent dead) {c : Char} {left : List Char}
    (hleft : c :: left <:+ closing) : dead left := by
  rcases List.suffix_cons_iff.mp hleft with heq | hsuffix
  · exact (List.cons.inj heq).2 ▸ h.dollar
  · exact h.suffix ((List.suffix_cons c left).trans hsuffix) h.dollar

/-- A result without the closing, and what becomes of it with the closing after the text. -/
def Carried (dead : List Char → Prop) : Option (α × List Char) → Option (α × List Char) → Prop
  | some (a, rest), r => r = some (a, rest ++ closing) ∨ rest = [] ∧ r = some (a, [])
  | none, r => ∀ a rest, r = some (a, rest) → dead rest

theorem Carried.mono {dead dead' : List Char → Prop} {r r' : Option (α × List Char)}
    (h : Carried dead r r') (hdead : ∀ cs, dead cs → dead' cs) : Carried dead' r r' := by
  cases r with
  | none => exact fun a rest hr => hdead rest (h a rest hr)
  | some r => exact h

/-- A reader that does not see the closing. -/
def Blind (x : Reader α) : Prop :=
  ∀ cs, x (cs ++ closing) = (x cs).map fun r => (r.1, r.2 ++ closing)

namespace Blind

theorem result (a : α) : Blind (result a) := fun _ => rfl

theorem fail : Blind (fail : Reader α) := fun _ => rfl

theorem ite {c : Prop} [Decidable c] {x x' : Reader α} (h : Blind x) (h' : Blind x') :
    Blind (if c then x else x') := by
  split
  · exact h
  · exact h'

theorem peek {k : Char} {x x' : Reader α} (hk : k ≠ ')') (h : Blind x) (h' : Blind x') :
    Blind (peek k x x') := by
  intro cs
  cases cs with
  | nil => exact (if_neg hk.symm).trans (h' [])
  | cons c cs =>
    rw [List.cons_append, Reader.peek, Reader.peek]
    split
    · exact h cs
    · exact h' (c :: cs)

theorem upTo {goes : Char → Bool} {f : List Char → Char → Reader α}
    (hgoes : closing.dropWhile goes = []) (h : ∀ taken c, Blind (f taken c)) :
    Blind (upTo goes f) := by
  intro cs
  cases hdrop : cs.dropWhile goes with
  | nil => rw [Reader.upTo, Reader.upTo, List.dropWhile_append, hdrop, hgoes]; rfl
  | cons c left =>
    rw [upTo_closing hdrop, h, Reader.upTo, hdrop]

end Blind

/-- On texts shorter than `n` the reader `y` carries on what the reader `x` does when the
closing follows. What they read has the property `p`. -/
structure Steady (dead : List Char → Prop) (n : Nat) (p : α → Prop) (x y : Reader α) : Prop where
  sound : Sound p x
  sound' : Sound p y
  carried : ∀ {cs}, cs.length < n → Carried dead (x cs) (y (cs ++ closing))
  start : 0 < n → x [] = y []

namespace Steady

variable {dead : List Char → Prop} {n m : Nat} {p : α → Prop} {q : β → Prop} {x y x' y' : Reader α}

theorem mono (h : Steady dead n p x y) (hm : m ≤ n) : Steady dead m p x y where
  sound := h.sound
  sound' := h.sound'
  carried hcs := h.carried (by omega)
  start hpos := h.start (by omega)

/-- Where the closing was swallowed nothing is left with it and without it. -/
theorem carried_nil (h : Steady dead n p x y) (hn : 0 < n) : Carried dead (x []) (y []) := by
  rw [← h.start hn]
  cases hx : x [] with
  | none => exact fun a rest heq => nomatch heq
  | some r =>
    obtain ⟨a, rest⟩ := r
    obtain rfl : rest = [] := List.suffix_nil.mp (h.sound [] a rest hx).1
    exact .inr ⟨rfl, rfl⟩

/-- What is left of a dead text is dead. -/
theorem dead_of_eq (h : Steady dead n p x y) (hspent : Spent dead) {cs rest : List Char} {a : α}
    (hcs : dead cs) (hr : y cs = some (a, rest)) : dead rest :=
  hspent.suffix (h.sound' cs a rest hr).1 hcs

theorem result {a : α} (ha : p a) : Steady dead n p (result a) (result a) where
  sound := .result ha
  sound' := .result ha
  carried _ := .inl rfl
  start _ := rfl

theorem of_blind (h : Blind x) (hsound : Sound p x) : Steady dead n p x x where
  sound := hsound
  sound' := hsound
  carried {cs} _ := by
    rw [h]
    cases x cs with
    | none => exact fun _ _ hr => nomatch hr
    | some r => exact .inl rfl
  start _ := rfl

theorem fail : Steady dead n p fail fail where
  sound := .fail
  sound' := .fail
  carried _ _ _ h := nomatch h
  start _ := rfl

/-- A reader goes on after another one. What is dead for it is what it leaves of a text that
is dead for the first. -/
theorem bind' {dead' : List Char → Prop} {f g : α → Reader β} (h : Steady dead n p x y)
    (hf : ∀ a, p a → Steady dead' n q (f a) (g a))
    (hdead : ∀ a, p a → ∀ cs b rest, dead cs → g a cs = some (b, rest) → dead' rest) :
    Steady dead' n q (x.bind f) (y.bind g) where
  sound := h.sound.bind fun a ha => (hf a ha).sound
  sound' := h.sound'.bind fun a ha => (hf a ha).sound'
  carried {cs} hcs := by
    have hc := h.carried hcs
    rw [Reader.bind, Reader.bind]
    cases hx : x cs with
    | none =>
      rw [hx] at hc
      intro b rest hr
      obtain ⟨⟨a, left⟩, hy, hb⟩ := Option.bind_eq_some_iff.mp hr
      exact hdead a (h.sound' _ a left hy).2 left b rest (hc a left hy) hb
    | some r =>
      obtain ⟨a, rest⟩ := r
      obtain ⟨hsuffix, ha⟩ := h.sound _ a rest hx
      rw [hx] at hc
      rcases hc with hy | ⟨rfl, hy⟩
      · rw [hy]
        exact (hf a ha).carried (Nat.lt_of_le_of_lt hsuffix.length_le hcs)
      · rw [hy]
        exact (hf a ha).carried_nil (by omega)
  start hn := by
    rw [Reader.bind, Reader.bind, ← h.start hn]
    cases hx : x [] with
    | none => rfl
    | some r =>
      obtain ⟨a, rest⟩ := r
      obtain ⟨hsuffix, ha⟩ := h.sound _ a rest hx
      obtain rfl : rest = [] := List.suffix_nil.mp hsuffix
      exact (hf a ha).start hn

theorem bind {f g : α → Reader β} (hspent : Spent dead) (h : Steady dead n p x y)
    (hf : ∀ a, p a → Steady dead n q (f a) (g a)) : Steady dead n q (x.bind f) (y.bind g) :=
  h.bind' hf fun a ha _ _ _ hcs hr => (hf a ha).dead_of_eq hspent hcs hr

theorem given {o : Option β} {f g : β → Reader α}
    (h : ∀ b, o = some b → Steady dead n p (f b) (g b)) :
    Steady dead n p (given o f) (given o g) := by
  cases o with
  | none => exact fail
  | some b => exact h b rfl

theorem ite {c : Prop} [Decidable c] (h : Steady dead n p x y) (h' : Steady dead n p x' y') :
    Steady dead n p (if c then x else x') (if c then y else y') := by
  split
  · exact h
  · exact h'

/-- At the end of the text the next character is the parenthesis of the closing. -/
theorem next' {f g : Char → Reader α} (h : ∀ c, Steady dead n p (f c) (g c))
    (hdead : ∀ a rest, g ')' ['$'] = some (a, rest) → dead rest) :
    Steady dead (n + 1) p (next f) (next g) where
  sound := .next fun c => (h c).sound
  sound' := .next fun c => (h c).sound'
  carried {cs} hcs := by
    cases cs with
    | nil => exact hdead
    | cons c cs => exact (h c).carried (Nat.lt_of_succ_lt_succ hcs)
  start _ := rfl

theorem next {f g : Char → Reader α} (hspent : Spent dead) (h : ∀ c, Steady dead n p (f c) (g c)) :
    Steady dead (n + 1) p (next f) (next g) :=
  .next' h fun _ _ hr => (h ')').dead_of_eq hspent hspent.dollar hr

/-- The character that is looked for is no parenthesis. After it less text is left. -/
theorem peek' {k : Char} (hk : k ≠ ')') (h : Steady dead m p x y) (h' : Steady dead n p x' y')
    (hm : n ≤ m + 1) : Steady dead n p (peek k x x') (peek k y y') where
  sound := h.sound.peek h'.sound
  sound' := h.sound'.peek h'.sound'
  carried {cs} hcs := by
    cases cs with
    | nil =>
      rw [List.nil_append, closing, Reader.peek, Reader.peek, if_neg hk.symm]
      exact h'.carried hcs
    | cons c cs =>
      rw [List.cons_append, Reader.peek, Reader.peek]
      split
      · exact h.carried (Nat.lt_of_succ_lt_succ (Nat.lt_of_lt_of_le hcs hm))
      · exact h'.carried hcs
  start hn := h'.start hn

theorem peek {k : Char} (hk : k ≠ ')') (h : Steady dead n p x y) (h' : Steady dead n p x' y') :
    Steady dead n p (peek k x x') (peek k y y') :=
  .peek' hk h h' (Nat.le_succ n)

/-- The second of the characters is no parenthesis either. -/
theorem pair {k l : Char} (hk : k ≠ ')') (hl : l ≠ ')') (h : Steady dead m p x y)
    (h' : Steady dead n p x' y') (hm : n ≤ m + 1) :
    Steady dead n p (pair k l x x') (pair k l y y') where
  sound := h.sound.pair h'.sound
  sound' := h.sound'.pair h'.sound'
  carried {cs} hcs := by
    match cs with
    | [] =>
      rw [List.nil_append, closing, Reader.pair, Reader.pair, if_neg fun hc => hk hc.1.symm]
      · exact h'.carried hcs
      · exact fun _ _ _ heq => nomatch heq
    | [c] =>
      rw [List.cons_append, List.nil_append, closing, Reader.pair, Reader.pair,
        if_neg fun hc => hl hc.2.symm]
      · exact h'.carried hcs
      · exact fun _ _ _ heq => nomatch heq
    | c :: d :: cs =>
      rw [List.cons_append, List.cons_append, Reader.pair, Reader.pair]
      simp only [List.length_cons] at hcs
      split
      · exact h.carried (by omega)
      · exact h'.carried hcs
  start hn := h'.start hn

theorem after (h : Steady dead n p x y) (blanks : Bool) :
    Steady dead n p (x.after blanks) (y.after blanks) where
  sound := h.sound.after blanks
  sound' := h.sound'.after blanks
  carried {cs} hcs := by
    rw [Reader.after, Reader.after]
    rcases skip_closing blanks cs with hskip | ⟨hskip, hskip'⟩
    · rw [hskip]
      exact h.carried (Nat.lt_of_le_of_lt (skip_suffix blanks cs).length_le hcs)
    · rw [hskip, hskip']
      exact h.carried_nil (by omega)
  start hn := by
    have hnil : skip blanks [] = [] := List.suffix_nil.mp (skip_suffix blanks [])
    rw [Reader.after, Reader.after, hnil]
    exact h.start hn

theorem orElse {r : β → Prop} {z : Reader β} {f g : β → Reader α} (hblind : Blind z)
    (hz : Sound r z) (hf : ∀ b, r b → Steady dead n p (f b) (g b)) (h' : Steady dead n p x' y') :
    Steady dead n p (orElse z f x') (orElse z g y') where
  sound := hz.orElse (fun b hb => (hf b hb).sound) h'.sound
  sound' := hz.orElse (fun b hb => (hf b hb).sound') h'.sound'
  carried {cs} hcs := by
    rw [Reader.orElse, Reader.orElse, hblind]
    cases hleft : z cs with
    | none => exact h'.carried hcs
    | some t =>
      obtain ⟨b, left⟩ := t
      obtain ⟨hsuffix, hb⟩ := hz cs b left hleft
      exact (hf b hb).carried (Nat.lt_of_le_of_lt hsuffix.length_le hcs)
  start hn := by
    rw [Reader.orElse, Reader.orElse]
    cases hleft : z [] with
    | none => exact h'.start hn
    | some t =>
      obtain ⟨b, left⟩ := t
      obtain ⟨hsuffix, hb⟩ := hz [] b left hleft
      obtain rfl : left = [] := List.suffix_nil.mp hsuffix
      exact (hf b hb).start hn

theorem upTo {goes : Char → Bool} {f g : List Char → Char → Reader α} (hspent : Spent dead)
    (h : ∀ taken c, Steady dead n p (f taken c) (g taken c)) :
    Steady dead n p (upTo goes f) (upTo goes g) where
  sound := .upTo fun taken c => (h taken c).sound
  sound' := .upTo fun taken c => (h taken c).sound'
  carried {cs} hcs := by
    cases hdrop : cs.dropWhile goes with
    | nil =>
      -- the text is all taken, and the character after it is found in the closing
      rw [Reader.upTo, Reader.upTo, List.dropWhile_append, hdrop, List.isEmpty_nil, if_pos rfl]
      intro a rest hr
      split at hr
      · exact nomatch hr
      · rename_i c left hleft
        have hclosing : c :: left <:+ closing := hleft ▸ List.dropWhile_suffix goes
        exact (h _ c).dead_of_eq hspent (hspent.of_closing hclosing) hr
    | cons c left =>
      have hleft : left <:+ cs :=
        (List.suffix_cons c left).trans (hdrop ▸ List.dropWhile_suffix goes)
      rw [upTo_closing hdrop, Reader.upTo, hdrop]
      exact (h _ c).carried (Nat.lt_of_le_of_lt hleft.length_le hcs)
  start _ := rfl

theorem spreadTo {blanks : Bool} {goes : Char → Bool} {f g : List Char → Char → Reader α}
    (hspent : Spent dead) (h : ∀ taken c, Steady dead n p (f taken c) (g taken c)) :
    Steady dead n p (spreadTo blanks goes f) (spreadTo blanks goes g) where
  sound := .spreadTo fun taken c => (h taken c).sound
  sound' := .spreadTo fun taken c => (h taken c).sound'
  carried {cs} hcs := by
    have hsuffix := spread_suffix blanks goes false cs
    rw [Reader.spreadTo, Reader.spreadTo]
    cases hleft : (spread blanks goes false cs).2 with
    | nil =>
      -- the text is all taken, and the character after it is found in the closing
      obtain ⟨goesOn, heq⟩ := spread_append_of_nil hleft closing
      have hclosing := spread_suffix blanks goes goesOn closing
      rw [heq, show spread blanks goes false cs = (_, []) from Prod.ext rfl hleft]
      intro a rest hr
      split at hr
      · exact nomatch hr
      · rename_i taken c left hspread
        rw [(Prod.mk.inj hspread).2] at hclosing
        exact (h _ c).dead_of_eq hspent (hspent.of_closing hclosing) hr
    | cons c left =>
      rw [hleft] at hsuffix
      rw [spread_append_of_left hleft,
        show spread blanks goes false cs = (_, c :: left) from Prod.ext rfl hleft]
      have hshorter : left.length < n :=
        Nat.lt_of_le_of_lt ((List.suffix_cons c left).trans hsuffix).length_le hcs
      exact (h _ c).carried hshorter
  start _ := rfl

end Steady

end Worksheet.PatternTree
